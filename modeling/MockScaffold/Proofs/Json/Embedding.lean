import MockScaffold.Proofs.Json.ReadBack
import MockScaffold.Proofs.Sample.Induction

/-!
# What can be embedded

JSON has no keys for dates and bytes, and no integer is written that is too long.  These are all the
obstacles: a sample can be embedded just when no key of a mapping in it is of these kinds and no
integer in it, be it a value, a key or the member of a set, is too long (`exists_print_iff`).
-/

namespace MockScaffold

/-- Whether JSON has a form for the scalar as the key of an object. -/
def Scalar.isJsonKey : Scalar → Bool
  | .bytes _ | .date _ | .moment _ => false
  | _ => true

/-- Samples that JSON has a text for. -/
inductive Sample.IsEmbeddable : Sample → Prop
  | scalar {s : Scalar} (hs : s.isOverlong = false) : IsEmbeddable (.scalar s)
  | list {items : List Sample} (hitems : ∀ v ∈ items, IsEmbeddable v) : IsEmbeddable (.list items)
  | map {entries : List (Scalar × Sample)}
      (hkeys : ∀ e ∈ entries, e.1.isJsonKey = true ∧ e.1.isOverlong = false)
      (hvalues : ∀ e ∈ entries, IsEmbeddable e.2) : IsEmbeddable (.map entries)
  | set {members : List Scalar} (hmembers : ∀ s ∈ members, s.isOverlong = false) :
      IsEmbeddable (.set members)
  | pair {first second : Sample} (hfirst : IsEmbeddable first) (hsecond : IsEmbeddable second) :
      IsEmbeddable (.pair first second)

namespace Json

/-- An integer has a text unless it has too many digits. -/
theorem exists_integer_iff {n : Int} :
    (∃ text, integer n = .ok text) ↔ n.natAbs < Nat.pow 10 digitLimit := by
  constructor
  · rintro ⟨text, h⟩
    exact (integer_eq_ok h).1
  · intro hn
    rw [integer, integerText, if_pos hn]
    exact ⟨_, rfl⟩

/-- The same said of scalars. -/
theorem isOverlong_int_eq_false_iff {n : Int} :
    (Scalar.int n).isOverlong = false ↔ n.natAbs < Nat.pow 10 digitLimit := by
  rw [Scalar.isOverlong, decide_eq_false_iff_not, Nat.not_le]

/-- Of all scalars only an overlong integer has no text. -/
theorem exists_scalar_iff {s : Scalar} : (∃ text, scalar s = .ok text) ↔ s.isOverlong = false := by
  cases s with
  | int n => exact exists_integer_iff.trans isOverlong_int_eq_false_iff.symm
  | _ => exact ⟨fun _ => rfl, fun _ => ⟨_, rfl⟩⟩

/-- A key has a text if JSON has its kind and it is not overlong. -/
theorem exists_keyText_iff {k : Scalar} :
    (∃ text, keyText k = .ok text) ↔ k.isJsonKey = true ∧ k.isOverlong = false := by
  cases k with
  | int n =>
      rw [isOverlong_int_eq_false_iff, ← exists_integer_iff]
      exact ⟨fun h => ⟨rfl, h⟩, And.right⟩
  | bytes _ => exact ⟨fun ⟨_, h⟩ => (nomatch h), fun h => nomatch h.1⟩
  | date _ => exact ⟨fun ⟨_, h⟩ => (nomatch h), fun h => nomatch h.1⟩
  | moment _ => exact ⟨fun ⟨_, h⟩ => (nomatch h), fun h => nomatch h.1⟩
  | _ => exact ⟨fun _ => ⟨rfl, rfl⟩, fun _ => ⟨_, rfl⟩⟩

/-- An entry has a text if its key and its value have. -/
theorem exists_printEntry_iff {level : Nat} {e : Scalar × Sample} :
    (∃ text, printEntry level e = .ok text) ↔
      (e.1.isJsonKey = true ∧ e.1.isOverlong = false) ∧ ∃ text, print level e.2 = .ok text := by
  rw [printEntry, exists_bind_eq_ok_iff, ← exists_keyText_iff]
  constructor
  · rintro ⟨key, hkey, h⟩
    obtain ⟨value, hvalue, _⟩ := exists_bind_eq_ok_iff.mp h
    exact ⟨⟨key, hkey⟩, value, hvalue⟩
  · rintro ⟨⟨key, hkey⟩, value, hvalue⟩
    exact ⟨key, hkey, exists_bind_eq_ok_iff.mpr ⟨value, hvalue, _, rfl⟩⟩

/-- **What can be embedded.**  A sample has a JSON text just when every key in it has a form as the
key of an object and no integer in it is too long. -/
theorem exists_print_iff {v : Sample} {level : Nat} :
    (∃ text, print level v = .ok text) ↔ v.IsEmbeddable := by
  induction v generalizing level with
  | scalar s =>
      rw [print, exists_scalar_iff]
      exact ⟨.scalar, fun h => by cases h; assumption⟩
  | list items ih =>
      rw [print, printItems_eq_mapM, exists_map_eq_ok_iff, exists_mapM_eq_ok_iff]
      constructor
      · exact fun h => .list fun v hv => (ih v hv).mp (h v hv)
      · rintro (_ | hitems)
        exact fun v hv => (ih v hv).mpr (hitems v hv)
  | map entries ih =>
      rw [print, printEntries_eq_mapM, exists_map_eq_ok_iff, exists_mapM_eq_ok_iff]
      simp only [exists_printEntry_iff]
      constructor
      · exact fun h => .map (fun e he => (h e he).1) fun e he => (ih e he).mp (h e he).2
      · rintro (_ | _ | ⟨hkeys, hvalues⟩)
        exact fun e he => ⟨hkeys e he, (ih e he).mpr (hvalues e he)⟩
  | set members =>
      rw [print]
      constructor
      · rintro ⟨text, h⟩
        split at h
        · cases h
        · next hshort => exact .set (by simpa using hshort)
      · rintro (_ | _ | _ | hmembers)
        rw [if_neg (by simpa using hmembers)]
        exact ⟨_, rfl⟩
  | pair first second ihfirst ihsecond =>
      rw [print, exists_bind_eq_ok_iff]
      constructor
      · rintro ⟨_, hfirst, h⟩
        obtain ⟨_, hsecond, _⟩ := exists_bind_eq_ok_iff.mp h
        exact .pair (ihfirst.mp ⟨_, hfirst⟩) (ihsecond.mp ⟨_, hsecond⟩)
      · rintro (_ | _ | _ | _ | ⟨hfirst, hsecond⟩)
        obtain ⟨_, hfirst⟩ := ihfirst.mpr hfirst
        obtain ⟨_, hsecond⟩ := ihsecond.mpr hsecond
        exact ⟨_, hfirst, exists_bind_eq_ok_iff.mpr ⟨_, hsecond, _, rfl⟩⟩

/-- Indenting adds no fault. -/
theorem exists_embed_iff {indent : String} {v : Sample} :
    (∃ text, embed indent v = .ok text) ↔ v.IsEmbeddable :=
  exists_map_eq_ok_iff.trans exists_print_iff

end Json

end MockScaffold
