import MockScaffold.Proofs.Spec.Misfits
import MockScaffold.Proofs.Spec.Reading

/-!
# The first misfit of a specification

Reading a specification tells one misfit only, the first that a full check tells.  What a full check
tells is said here field by field and item by item: of an endpoint, what is wrong with each of its
five fields in turn (`Endpoint.found_ofSample_map`); of a specification, what is wrong with each of
its endpoints in turn (`found_ofSample`).

The main statement is `parse_first`: which values are read, as what, and where the first misfit of
any other value is.
-/

namespace MockScaffold

open Misfits

namespace Endpoint

/-- The fields of an endpoint. -/
inductive Field where
  | method
  | path
  | requestBody
  | response
  | statusCode
  deriving DecidableEq, Repr

namespace Field

/-- The fields, in the order in which they are checked. -/
def all : List Field := [.method, .path, .requestBody, .response, .statusCode]

/-- The name that counts where a field is given by two, and that is told where it is missing. -/
def name : Field → String
  | .method => "method"
  | .path => "path"
  | .requestBody => "requestBody"
  | .response => "response"
  | .statusCode => "statusCode"

/-- The other name of a field, if it has two. -/
def otherName? : Field → Option String
  | .requestBody => some "request_body"
  | .statusCode => some "status_code"
  | _ => none

/-- What is wrong with what is given for a field.  A method, a path and a response must be given;
samples are taken as they are. -/
def misfit? : Field → Option Sample → Option Misfit
  | .method, some w | .path, some w => fault? (textOf w)
  | .statusCode, some w => fault? (StatusCode.ofSample w)
  | .method, none | .path, none | .response, none => some .missing
  | .requestBody, _ | .response, some _ | .statusCode, none => none

/-- What is given for a field, and under which name. -/
def given (f : Field) (v : Sample) : String × Option Sample :=
  match v.firstField? (f.name :: f.otherName?.toList) with
  | some (found, w) => (found, some w)
  | none => (f.name, none)

/-- What is wrong with a field of a value, and under which name. -/
def misfitIn? (f : Field) (v : Sample) : Option LocatedMisfit :=
  (f.misfit? (f.given v).2).map fun m => ⟨[.field (f.given v).1], m⟩

end Field

/-- What is wrong with a field is its misfit, located at the name under which it is given. -/
theorem found_readField {α : Type} (f : Field) (v : Sample) (absent : Except Misfit α)
    (read : Sample → Except Misfit α) (habsent : fault? absent = f.misfit? none)
    (hread : ∀ w, fault? (read w) = f.misfit? (some w)) :
    found (readField [] v f.name f.otherName?.toList absent read) = (f.misfitIn? v).toList := by
  unfold readField Field.misfitIn? Field.given
  cases v.firstField? (f.name :: f.otherName?.toList) with
  | none =>
      dsimp only
      rw [← habsent]
      cases absent <;> rfl
  | some field =>
      dsimp only
      rw [← hread field.2]
      cases read field.2 <;> rfl

/-- **The misfits of an endpoint** are those of its fields, one after the other. -/
theorem found_ofSample_map (entries : List (Scalar × Sample)) :
    found (ofSample [] (.map entries)) = Field.all.filterMap (·.misfitIn? (.map entries)) := by
  have hmethod := found_readField .method (.map entries) (.error .missing)
    (fun w => (textOf w).map Text.upper) rfl (fun _ => fault?_map _ _)
  have hpath := found_readField .path (.map entries) (.error .missing) textOf rfl (fun _ => rfl)
  have hrequest := found_readField .requestBody (.map entries) (.ok .null) .ok rfl (fun _ => rfl)
  have hresponse := found_readField .response (.map entries) (.error .missing) .ok rfl
    (fun _ => rfl)
  have hstatus := found_readField .statusCode (.map entries) (.ok 200) StatusCode.ofSample rfl
    (fun _ => rfl)
  unfold ofSample
  simp only [found_map, found_both]
  rw [List.filterMap_eq_flatMap_toList]
  simp only [Field.all, List.flatMap_cons, List.flatMap_nil, List.append_nil]
  rw [← hmethod, ← hpath, ← hrequest, ← hresponse, ← hstatus]
  rfl

/-- What is told of a value that is no endpoint: that it is no mapping, or else what is wrong with
the first of its fields with which anything is. -/
def firstMisfit? (v : Sample) : Option LocatedMisfit :=
  match v with
  | .map _ => Field.all.findSome? (·.misfitIn? v)
  | _ => some ⟨[], .notRecord .endpoint⟩

/-- The first of the misfits found in a value is that of the first field with one. -/
theorem head?_found_ofSample (v : Sample) : (found (ofSample [] v)).head? = firstMisfit? v := by
  cases v with
  | map entries => rw [found_ofSample_map, List.head?_filterMap, firstMisfit?]
  | _ => rfl

/-- What is told of a value is told if and only if it is no endpoint. -/
theorem firstMisfit?_eq_none_iff {v : Sample} :
    firstMisfit? v = none ↔ ∃ e, ofSample [] v = .ok e := by
  rw [← head?_found_ofSample, List.head?_eq_none_iff, found_eq_nil_iff]

/-- A sample is taken as it is given, under the first of its names that is there. -/
theorem sample_of_readField_eq_ok {location : List Step} {v w : Sample} {name : String}
    {names : List String} {absent : Except Misfit Sample}
    (h : readField location v name names absent .ok = .ok w) :
    (name :: names).findSome? v.field? = some w ∨
      (name :: names).findSome? v.field? = none ∧ absent = .ok w := by
  have hvalue : (name :: names).findSome? v.field? =
      (v.firstField? (name :: names)).map (·.2) := by
    rw [Sample.firstField?, List.map_findSome?]
    simp [Function.comp_def]
  rw [hvalue]
  unfold readField at h
  split at h
  · next hnone => exact .inr ⟨by rw [hnone]; rfl, mapError_eq_ok h⟩
  · next hsome =>
      cases h
      exact .inl (by rw [hsome]; rfl)

theorem findSome?_pair (v : Sample) (a b : String) :
    [a, b].findSome? v.field? = (v.field? a).or (v.field? b) := by
  cases ha : v.field? a <;> simp [ha]

/-- The samples of an endpoint are taken as they are given, and a request body that is not given is
null. -/
theorem samples_of_ofSample_eq_ok {location : List Step} {v : Sample} {e : Endpoint}
    (h : ofSample location v = .ok e) :
    v.field? "response" = some e.response ∧
      e.requestBody = ((v.field? "requestBody").or (v.field? "request_body")).getD .null := by
  unfold ofSample at h
  split at h
  · obtain ⟨⟨method, path, requestBody, response, statusCode⟩, hfields, rfl⟩ := map_eq_ok h
    simp only [both_eq_ok_iff] at hfields
    obtain ⟨_, _, hrequest, hresponse, _⟩ := hfields
    refine ⟨?_, ?_⟩
    · rcases sample_of_readField_eq_ok hresponse with hgiven | ⟨_, habsent⟩
      · simpa using hgiven
      · cases habsent
    · dsimp only
      rw [← findSome?_pair]
      rcases sample_of_readField_eq_ok hrequest with hgiven | ⟨hnone, habsent⟩
      · rw [hgiven, Option.getD_some]
      · cases habsent
        rw [hnone, Option.getD_none]
  · cases h

end Endpoint

namespace Specification

/-- **The misfits of a specification** are those of its endpoints, one after the other. -/
theorem found_ofSample {v : Sample} {items : List Sample}
    (hitems : v.field? "apis" = some (.list items)) :
    found (ofSample v) = items.zipIdx.flatMap fun (item, i) =>
      (found (Endpoint.ofSample [] item)).map (·.within [.field "apis", .index i]) := by
  cases v with
  | map entries =>
      rw [ofSample, hitems]
      dsimp only [items?]
      rw [found_map, found_eachFrom]
      refine List.flatMap_congr fun (item, i) _ => ?_
      dsimp only
      rw [Endpoint.ofSample_eq_mapError [.field "apis", .index i], found_mapError_within]
  | _ => cases hitems

/-- What is found first in a list is found in one of its items and not in any before it. -/
theorem exists_of_findSome?_zipIdx {α β γ : Type} {f : α → Option β} (place : Nat → β → γ)
    {xs : List α} {c : γ}
    (h : (xs.zipIdx.findSome? fun p => (f p.1).map (place p.2)) = some c) :
    ∃ before x after b, xs = before ++ x :: after ∧ (∀ y ∈ before, f y = none) ∧
      f x = some b ∧ place before.length b = c := by
  obtain ⟨earlier, ⟨x, i⟩, later, hsplit, hfound, hearlier⟩ := List.findSome?_eq_some_iff.mp h
  obtain ⟨b, hb, hplace⟩ := Option.map_eq_some_iff.mp hfound
  obtain ⟨before, rest, rfl, rfl, hrest⟩ := List.zipIdx_eq_append_iff.mp hsplit
  obtain ⟨_, after, rfl, hhead, _⟩ := List.zipIdx_eq_cons_iff.mp hrest.symm
  rw [Nat.zero_add] at hhead
  cases hhead
  refine ⟨before, x, after, b, rfl, fun y hy => ?_, hb, hplace⟩
  obtain ⟨j, hj⟩ := List.mem_iff_getElem?.mp hy
  exact Option.map_eq_none_iff.mp (hearlier (y, j) (List.mk_mem_zipIdx_iff_getElem?.mpr hj))

/-- The first misfit of a specification is the first of its first item that is no endpoint. -/
theorem exists_item_of_ofSample_eq_error {v : Sample} {items : List Sample} {ms : Misfits}
    (hitems : v.field? "apis" = some (.list items)) (h : ofSample v = .error ms) :
    ∃ before item after first, items = before ++ item :: after ∧
      (∀ earlier ∈ before, ∃ e, Endpoint.ofSample [] earlier = .ok e) ∧
      Endpoint.firstMisfit? item = some first ∧
      first.within [.field "apis", .index before.length] = ms.first := by
  have hfirst : (found (ofSample v)).head? = some ms.first := head?_found.mpr ⟨ms, h, rfl⟩
  rw [found_ofSample hitems, List.head?_flatMap] at hfirst
  simp only [List.head?_map, Endpoint.head?_found_ofSample] at hfirst
  obtain ⟨before, item, after, first, hsplit, hbefore, hitem, hplace⟩ :=
    exists_of_findSome?_zipIdx (fun i => LocatedMisfit.within [.field "apis", .index i]) hfirst
  exact ⟨before, item, after, first, hsplit,
    fun earlier hmem => Endpoint.firstMisfit?_eq_none_iff.mp (hbefore earlier hmem), hitem, hplace⟩

/-- A list of items is checked in full, and the first misfit is told. -/
theorem parse_eq_mapError {v : Sample} {items : List Sample}
    (hitems : v.field? "apis" = some (.list items)) :
    parse v = (ofSample v).mapError fun ms => .invalid ms.first := by
  rw [parse, hitems]

/-- The format is wrong when there is no list of endpoints. -/
theorem parse_eq_format_iff {v : Sample} :
    parse v = .error .format ↔ ∀ items, v.field? "apis" ≠ some (.list items) := by
  constructor
  · intro hformat items hitems
    rw [parse_eq_mapError hitems] at hformat
    cases hsample : ofSample v <;> simp [hsample, Except.mapError] at hformat
  · intro hnone
    unfold parse
    split
    · next items hitems => exact absurd hitems (hnone items)
    · rfl

/-- The endpoints of a specification are read from the items one after the other. -/
theorem exists_items_of_parse_eq_ok {v : Sample} {spec : Specification} (h : parse v = .ok spec) :
    ∃ items, v.field? "apis" = some (.list items) ∧
      List.Forall₂ (fun item e => Endpoint.ofSample [] item = .ok e) items spec.endpoints := by
  obtain ⟨items, hitems, hread⟩ := exists_of_parse_eq_ok h
  exact ⟨items, hitems, hread.imp fun _ _ ⟨_, he⟩ => Endpoint.ofSample_eq_ok_iff.mp he⟩

/-- A list of items is read if each of them is an endpoint. -/
theorem exists_parse_eq_ok_iff {v : Sample} :
    (∃ spec, parse v = .ok spec) ↔ ∃ items, v.field? "apis" = some (.list items) ∧
      ∀ item ∈ items, ∃ e, Endpoint.ofSample [] item = .ok e := by
  constructor
  · rintro ⟨spec, hspec⟩
    obtain ⟨items, hitems, hread⟩ := exists_items_of_parse_eq_ok hspec
    refine ⟨items, hitems, fun item hitem => ?_⟩
    obtain ⟨e, _, he⟩ := exists_mem_of_forall₂ hread.flip hitem
    exact ⟨e, he⟩
  · rintro ⟨items, hitems, hvalid⟩
    cases hsample : ofSample v with
    | ok spec => exact ⟨spec, by rw [parse_eq_mapError hitems, hsample]; rfl⟩
    | error ms =>
        obtain ⟨before, item, after, first, rfl, _, hitem, _⟩ :=
          exists_item_of_ofSample_eq_error hitems hsample
        have hnone := Endpoint.firstMisfit?_eq_none_iff.mpr (hvalid item (by simp))
        rw [hnone] at hitem
        cases hitem

/-- The place that is told leads through the list to the item. -/
theorem Fault.message_within (i : Nat) (m : LocatedMisfit) :
    (Fault.invalid (m.within [.field "apis", .index i])).message =
      "Invalid API specification: " ++
        ".".intercalate ("apis" :: toString i :: m.location.map Step.text) ++ ": " ++
        m.misfit.message := by
  have hplace : (m.within [.field "apis", .index i]).location.map Step.text =
      "apis" :: toString i :: m.location.map Step.text := rfl
  have hmessage (n : LocatedMisfit) :
      (Fault.invalid n).message = "Invalid API specification: " ++ n.message := rfl
  rw [hmessage, LocatedMisfit.message, hplace, LocatedMisfit.within, String.append_assoc,
    String.append_assoc, String.append_assoc]

/-- **What a specification is read as, and what is told of a value that is none.**  The items of a
list under `apis` are read one by one, each as it is read on its own, and their samples are taken as
they are.  Without such a list, that is told.  If there is an item that is no endpoint, then the
first misfit of a full check is told: it is in the first such item, and if that is a mapping it is
the misfit of the first of its fields that has one. -/
theorem parse_first (v : Sample) :
    ((∃ spec, parse v = .ok spec) ↔ ∃ items, v.field? "apis" = some (.list items) ∧
      ∀ item ∈ items, ∃ e, Endpoint.ofSample [] item = .ok e) ∧
    (∀ spec, parse v = .ok spec → ofSample v = .ok spec ∧
      ∃ items, v.field? "apis" = some (.list items) ∧
        List.Forall₂ (fun item e => Endpoint.ofSample [] item = .ok e ∧
          item.field? "response" = some e.response ∧
          e.requestBody =
            ((item.field? "requestBody").or (item.field? "request_body")).getD .null)
          items spec.endpoints) ∧
    (parse v = .error .format ↔ ∀ items, v.field? "apis" ≠ some (.list items)) ∧
    ∀ m, parse v = .error (.invalid m) →
      (∃ others, ofSample v = .error ⟨m, others⟩) ∧
      ∃ before item after first,
        v.field? "apis" = some (.list (before ++ item :: after)) ∧
        (∀ earlier ∈ before, ∃ e, Endpoint.ofSample [] earlier = .ok e) ∧
        (¬ ∃ e, Endpoint.ofSample [] item = .ok e) ∧
        Endpoint.firstMisfit? item = some first ∧
        m = ⟨.field "apis" :: .index before.length :: first.location, first.misfit⟩ ∧
        (Fault.invalid m).message = "Invalid API specification: " ++
          ".".intercalate ("apis" :: toString before.length :: first.location.map Step.text) ++
          ": " ++ first.misfit.message := by
  refine ⟨exists_parse_eq_ok_iff, fun spec hspec => ?_, parse_eq_format_iff, fun m hm => ?_⟩
  · obtain ⟨items, hitems, hread⟩ := exists_items_of_parse_eq_ok hspec
    rw [parse_eq_mapError hitems] at hspec
    exact ⟨mapError_eq_ok hspec, items, hitems,
      hread.imp fun _ _ he => ⟨he, Endpoint.samples_of_ofSample_eq_ok he⟩⟩
  · have hlist : ∃ items, v.field? "apis" = some (.list items) := by
      by_contra hnone
      rw [parse_eq_format_iff.mpr fun items hitems => hnone ⟨items, hitems⟩] at hm
      cases hm
    obtain ⟨items, hitems⟩ := hlist
    rw [parse_eq_mapError hitems] at hm
    cases hsample : ofSample v with
    | ok spec => simp [hsample, Except.mapError] at hm
    | error ms =>
        obtain ⟨before, item, after, first, rfl, hbefore, hitem, hplace⟩ :=
          exists_item_of_ofSample_eq_error hitems hsample
        rw [hsample] at hm
        cases hm
        refine ⟨⟨ms.others, rfl⟩, before, item, after, first, hitems, hbefore, ?_, hitem,
          hplace.symm, ?_⟩
        · rw [← Endpoint.firstMisfit?_eq_none_iff, hitem]
          simp
        · rw [← hplace, Fault.message_within]

/-- An item with the other name of each field that has two. -/
def userItem : Sample :=
  .map [(.text "status_code", .scalar (.text "201.0")), (.text "path", .scalar (.text "/users")),
    (.text "request_body", .map [(.text "b", .null), (.text "a", .null)]),
    (.text "response", .list []), (.text "method", .scalar (.text "post"))]

def userEndpoint : Endpoint :=
  ⟨"POST", "/users", .map [(.text "b", .null), (.text "a", .null)], .list [], 201⟩

/-- An item with three misfits.  The one that is given first is the last. -/
def brokenItem : Sample :=
  .map [(.text "status_code", .list []), (.text "path", .scalar (.int 3)),
    (.text "method", .scalar (.text "get"))]

/-- Two faulty items after one that is read. -/
def brokenInterface : Sample :=
  .map [(.text "apis", .list [userItem, brokenItem, .scalar .null])]

/-- The item that is read counts as an endpoint, whatever the names of its fields.  Of the others,
the one that comes first is told, and in it the path, which is checked before the response that is
missing and the status code that is none. -/
theorem parse_first_brokenItem :
    (parse (.map [(.text "apis", .list [userItem])]) = .ok ⟨[userEndpoint]⟩ ∧
      ofSample (.map [(.text "apis", .list [userItem])]) = .ok ⟨[userEndpoint]⟩) ∧
    parse brokenInterface =
      .error (.invalid ⟨[.field "apis", .index 1, .field "path"], .notText⟩) ∧
    ∃ others, ofSample brokenInterface =
      .error ⟨⟨[.field "apis", .index 1, .field "path"], .notText⟩, others⟩ := by
  have hread : parse (.map [(.text "apis", .list [userItem])]) = .ok ⟨[userEndpoint]⟩ := by
    rfl
  have hbroken : parse brokenInterface =
      .error (.invalid ⟨[.field "apis", .index 1, .field "path"], .notText⟩) := by
    rfl
  exact ⟨⟨hread, ((parse_first _).2.1 _ hread).1⟩, hbroken,
    ((parse_first brokenInterface).2.2.2 _ hbroken).1⟩

end Specification

end MockScaffold
