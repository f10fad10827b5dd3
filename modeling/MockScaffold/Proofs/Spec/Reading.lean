import Mathlib.Data.List.Forall2
import MockScaffold.Proofs.Json.ReadValues
import MockScaffold.Spec.Reading

/-!
# Endpoints that are read

The samples of an endpoint are members of the value that it is read from, or null, and its status
code is told by a member of it (`Endpoint.exists_of_ofSample_eq_ok`).  So an endpoint of a value of
JSON has values of JSON as its samples, and a status code that is not too long
(`Specification.isPlain_of_parse_eq_ok`).
-/

namespace MockScaffold

namespace Misfits

variable {α β : Type}

/-- Two checks succeed when both do. -/
theorem both_eq_ok_iff {x : Except Misfits α} {y : Except Misfits β} {p : α × β} :
    both x y = .ok p ↔ x = .ok p.1 ∧ y = .ok p.2 := by
  obtain ⟨a, b⟩ := p
  cases x <;> cases y <;> simp [both]

/-- A list passes a check if every item passes it with its index. -/
theorem eachFrom_eq_ok {check : Nat → α → Except Misfits β} {i : Nat} {xs : List α} {ys : List β}
    (h : eachFrom check i xs = .ok ys) :
    List.Forall₂ (fun x y => ∃ j, check j x = .ok y) xs ys := by
  induction xs generalizing i ys with
  | nil =>
      cases h
      exact .nil
  | cons x xs ih =>
      obtain ⟨⟨y, zs⟩, hboth, rfl⟩ := map_eq_ok h
      obtain ⟨hy, hzs⟩ := both_eq_ok_iff.mp hboth
      exact .cons ⟨i, hy⟩ (ih hzs)

end Misfits

/-! ## Fields -/

/-- A field is absent, or it is read from a member of the value. -/
theorem readField_eq_ok {α : Type} {location : List Step} {v : Sample} {name : String}
    {names : List String} {absent : Except Misfit α} {read : Sample → Except Misfit α} {a : α}
    (h : readField location v name names absent read = .ok a) :
    absent = .ok a ∨ ∃ found w, v.field? found = some w ∧ read w = .ok a := by
  unfold readField at h
  split at h
  · exact .inl (mapError_eq_ok h)
  · next found w hfirst =>
      obtain ⟨name', _, hfield⟩ := List.exists_of_findSome?_eq_some hfirst
      obtain ⟨w', hw, heq⟩ := Option.map_eq_some_iff.mp hfield
      cases heq
      exact .inr ⟨found, w, hw, mapError_eq_ok h⟩

/-- A member of a value of JSON is one, too. -/
theorem Sample.IsPlain.field? {v w : Sample} (hv : v.IsPlain) {name : String}
    (h : v.field? name = some w) : w.IsPlain := by
  cases hv with
  | map _ hvalues =>
      obtain ⟨e, hfind, rfl⟩ := Option.map_eq_some_iff.mp h
      exact hvalues e (List.mem_of_find?_eq_some hfind)
  | _ => cases h

/-! ## Status codes -/

namespace StatusCode

theorem dropZeros_suffix (digits : List Char) : dropZeros digits <:+ digits := by
  induction digits using dropZeros.induct with
  | case1 c rest ih =>
      rw [dropZeros]
      exact ih.trans (List.suffix_cons '0' (c :: rest))
  | case2 digits hzeros =>
      have hkept : dropZeros digits = digits := by
        rw [dropZeros]
        exact hzeros
      exact ⟨[], by rw [List.nil_append, hkept]⟩

/-- The digits of a status code that is given as text are counted. -/
theorem natAbs_lt_of_ofText {cs : List Char} {n : Int} (h : ofText cs = .ok n) :
    n.natAbs < Nat.pow 10 digitLimit := by
  unfold ofText at h
  generalize splitSign (Text.trim Text.isWhiteSpace cs) = signed at h
  obtain ⟨negative, unsigned⟩ := signed
  dsimp only at h
  split at h
  · cases h
  · split at h
    · cases h
    · cases h
    · next digits _ _ =>
        by_cases hdigits : digits.all Char.isDigit = true
        · by_cases hlength : digitLimit < (dropZeros digits).length + (if negative then 1 else 0)
          · rw [if_neg (by simpa using hdigits), if_pos hlength] at h
            cases h
          · rw [if_neg (by simpa using hdigits), if_neg hlength] at h
            obtain rfl := Except.ok.inj h
            have hall : ∀ c ∈ dropZeros digits, c.isDigit = true := fun c hc =>
              List.all_eq_true.mp hdigits c ((dropZeros_suffix digits).subset hc)
            have hlimit := ofAsciiDigits_lt_of_length_le hall
              (Nat.le_of_add_right_le (Nat.le_of_not_lt hlength))
            cases negative <;> simpa using hlimit
        · rw [if_pos (by simpa using hdigits)] at h
          cases h

/-- A status code that is given in floating point fits into 64 bits. -/
theorem natAbs_lt_of_ofDouble {x : Double} {n : Int} (h : ofDouble x = .ok n) :
    n.natAbs < Nat.pow 10 digitLimit := by
  have hlimit : Nat.pow 2 63 < Nat.pow 10 digitLimit := by decide +kernel
  unfold ofDouble at h
  split at h
  · cases h
  · split at h
    · cases h
    · split at h
      · next hrange =>
          obtain rfl := Except.ok.inj h
          exact Nat.lt_trans (by omega) hlimit
      · cases h

/-- A status code is too long only if it is given as an integer that is. -/
theorem natAbs_lt_of_ofSample {v : Sample} {n : Int} (hv : v.IsPlain) (h : ofSample v = .ok n) :
    n.natAbs < Nat.pow 10 digitLimit := by
  have hbit : 1 < Nat.pow 10 digitLimit := by decide +kernel
  cases hv with
  | list _ => cases h
  | map _ _ => cases h
  | @scalar s hs =>
      cases s with
      | int m =>
          obtain rfl := Except.ok.inj h
          exact Json.isOverlong_int_eq_false_iff.mp hs.2
      | bool b =>
          obtain rfl := Except.ok.inj h
          exact Nat.lt_of_le_of_lt (by cases b <;> decide) hbit
      | float x => exact natAbs_lt_of_ofDouble h
      | text s => exact natAbs_lt_of_ofText h
      | bytes b => cases hs.1
      | _ => cases h

end StatusCode

/-! ## Endpoints -/

/-- The parts of an endpoint come from members of the value that it is read from. -/
theorem Endpoint.exists_of_ofSample_eq_ok {location : List Step} {v : Sample} {e : Endpoint}
    (h : Endpoint.ofSample location v = .ok e) :
    (e.requestBody = .null ∨ ∃ name, v.field? name = some e.requestBody) ∧
      (∃ name, v.field? name = some e.response) ∧
      (e.statusCode = 200 ∨
        ∃ name w, v.field? name = some w ∧ StatusCode.ofSample w = .ok e.statusCode) := by
  unfold ofSample at h
  split at h
  · obtain ⟨⟨method, path, requestBody, response, statusCode⟩, hfields, rfl⟩ := map_eq_ok h
    simp only [Misfits.both_eq_ok_iff] at hfields
    obtain ⟨_, _, hrequest, hresponse, hstatus⟩ := hfields
    refine ⟨?_, ?_, ?_⟩
    · rcases readField_eq_ok hrequest with habsent | ⟨name, w, hw, heq⟩
      · exact .inl (Except.ok.inj habsent).symm
      · exact .inr ⟨name, Except.ok.inj heq ▸ hw⟩
    · rcases readField_eq_ok hresponse with habsent | ⟨name, w, hw, heq⟩
      · cases habsent
      · exact ⟨name, Except.ok.inj heq ▸ hw⟩
    · rcases readField_eq_ok hstatus with habsent | hread
      · exact .inl (Except.ok.inj habsent).symm
      · exact .inr hread
  · cases h

namespace Specification

/-- The endpoints of a specification are read from the items of a list. -/
theorem exists_of_parse_eq_ok {v : Sample} {spec : Specification} (h : parse v = .ok spec) :
    ∃ items, v.field? "apis" = some (.list items) ∧ List.Forall₂
      (fun item e => ∃ location, Endpoint.ofSample location item = .ok e) items spec.endpoints := by
  unfold parse at h
  split at h
  · next items happis =>
      refine ⟨items, happis, ?_⟩
      have hsample := mapError_eq_ok h
      unfold ofSample at hsample
      split at hsample
      · rw [happis] at hsample
        obtain ⟨endpoints, hendpoints, rfl⟩ := map_eq_ok hsample
        exact (Misfits.eachFrom_eq_ok hendpoints).imp fun _ _ ⟨i, hi⟩ => ⟨_, hi⟩
      · cases hsample
  · cases h

/-- **Endpoints of a value of JSON.**  Their samples are values of JSON, and no status code is too
long. -/
theorem isPlain_of_parse_eq_ok {v : Sample} (hv : v.IsPlain) {spec : Specification}
    (h : parse v = .ok spec) : ∀ e ∈ spec.endpoints,
      e.requestBody.IsPlain ∧ e.response.IsPlain ∧ e.statusCode.natAbs < Nat.pow 10 digitLimit := by
  obtain ⟨items, happis, hitems⟩ := exists_of_parse_eq_ok h
  have hplain : ∀ item ∈ items, item.IsPlain := by
    cases hv.field? happis
    assumption
  intro e he
  obtain ⟨item, hitem, location, hread⟩ := exists_mem_of_forall₂ hitems he
  obtain ⟨hrequest, ⟨name, hresponse⟩, hstatus⟩ := Endpoint.exists_of_ofSample_eq_ok hread
  refine ⟨?_, (hplain item hitem).field? hresponse, ?_⟩
  · rcases hrequest with hnull | ⟨name', hmember⟩
    · rw [hnull]
      exact .scalar ⟨rfl, rfl⟩
    · exact (hplain item hitem).field? hmember
  · rcases hstatus with hdefault | ⟨name', w, hw, hcode⟩
    · rw [hdefault]
      decide +kernel
    · exact StatusCode.natAbs_lt_of_ofSample ((hplain item hitem).field? hw) hcode

end Specification

end MockScaffold
