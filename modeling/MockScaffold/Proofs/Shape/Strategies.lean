import MockScaffold.Proofs.Sample.Induction
import MockScaffold.Proofs.Shape.Inhabitation

/-!
# When the two strategies agree

Inference from the first item of every list makes no union (`no_union_infer_firstElement`), so where
inference from all items makes one, the two differ.  The key fact for the other direction is
`distinct_cons`: the first of the different shapes is that of the first item.  Where no union stands,
each list has a single shape, which is then the one that the first item shows
(`infer_eq_of_no_union`).  Together they are the main statement,
`same_infer_firstElement_iff`.
-/

namespace MockScaffold.Shape

/-- Whether a union stands anywhere in a shape. -/
def HasUnion (s : Shape) : Prop := ∃ members, (union members).Part s

/-- Shapes of the same structure have unions alike. -/
theorem HasUnion.of_same {s t : Shape} (hs : s.HasUnion) (h : s.same t = true) : t.HasUnion := by
  obtain ⟨members, hpart⟩ := hs
  obtain ⟨u, hu, hsame⟩ := Sample.exists_part_of_same hpart h
  cases u with
  | union members' => exact ⟨members', hu⟩
  | _ => simp [same] at hsame

/-- An array has a union where its item has. -/
theorem hasUnion_array_iff {item : Shape} : (array item).HasUnion ↔ item.HasUnion := by
  constructor
  · intro h
    obtain ⟨members, hpart⟩ := h
    cases hpart with
    | item hitem => exact ⟨members, hitem⟩
  · intro h
    obtain ⟨members, hpart⟩ := h
    exact ⟨members, .item hpart⟩

/-- An object has one where a field has. -/
theorem hasUnion_object_iff {d : Int} {fields : List (String × Shape)} :
    (object d fields).HasUnion ↔ ∃ f ∈ fields, f.2.HasUnion := by
  constructor
  · intro h
    obtain ⟨members, hpart⟩ := h
    cases hpart with
    | field hf hfield => exact ⟨_, hf, members, hfield⟩
  · intro h
    obtain ⟨f, hf, members, hpart⟩ := h
    exact ⟨members, .field hf hpart⟩

/-- What has no parts but itself has no union in it. -/
theorem not_hasUnion_ofScalar (s : Scalar) : ¬ (ofScalar s).HasUnion := by
  intro h
  obtain ⟨members, hpart⟩ := h
  cases s <;> nomatch hpart

theorem not_hasUnion_unknown : ¬ unknown.HasUnion := fun ⟨_, hpart⟩ => nomatch hpart

theorem not_hasUnion_record : ¬ record.HasUnion := fun ⟨_, hpart⟩ => nomatch hpart

/-! ## First items make no union -/

/-- By the first item alone no union comes up, by induction on the sample. -/
theorem no_union_infer_firstElement (d : Int) (v : Sample) :
    ¬ (infer .firstElement d v).HasUnion := by
  induction v generalizing d with
  | scalar s =>
      rw [infer_scalar]
      exact not_hasUnion_ofScalar s
  | list items ih =>
      cases items with
      | nil =>
          rw [infer_list_nil, hasUnion_array_iff]
          exact not_hasUnion_unknown
      | cons v rest =>
          rw [infer_list_first, hasUnion_array_iff]
          exact ih v List.mem_cons_self d
  | map entries ih =>
      by_cases hne : entries = []
      · subst hne
        rw [infer_map_nil]
        exact not_hasUnion_record
      · rw [infer_map .firstElement d hne, hasUnion_object_iff]
        intro h
        obtain ⟨f, hf, hunion⟩ := h
        obtain ⟨e, he, rfl⟩ := List.mem_map.mp hf
        exact ih e he (d + 1) hunion
  | set members => simpa only [infer] using not_hasUnion_unknown
  | pair first second => simpa only [infer] using not_hasUnion_unknown

/-! ## Without a union the first item tells the shape -/

/-- What is there at first stays in front. -/
theorem foldl_insertNew_cons (s : Shape) (members shapes : List Shape) :
    ∃ rest, shapes.foldl insertNew (s :: members) = s :: rest := by
  induction shapes generalizing members with
  | nil => exact ⟨members, rfl⟩
  | cons t shapes ih =>
      rw [List.foldl_cons, insertNew]
      split
      · exact ih members
      · exact ih (members ++ [t])

/-- The first of several shapes is the first of the different ones. -/
theorem distinct_cons (s : Shape) (shapes : List Shape) :
    ∃ rest, distinct (s :: shapes) = s :: rest :=
  foldl_insertNew_cons s [] shapes

/-- Shapes unite to the first of them, or to a union. -/
theorem unite_cons (s : Shape) (shapes : List Shape) :
    unite (s :: shapes) = s ∨ ∃ members, unite (s :: shapes) = union members := by
  obtain ⟨rest, hdistinct⟩ := distinct_cons s shapes
  rw [unite, hdistinct]
  cases rest with
  | nil => exact Or.inl rfl
  | cons t rest => exact Or.inr ⟨s :: t :: rest, rfl⟩

/-- **One shape for each list.**  Where all items together make no union, the first items alone tell
the shape, layout included. -/
theorem infer_eq_of_no_union {d : Int} {v : Sample} (h : ¬ (infer .union d v).HasUnion) :
    infer .union d v = infer .firstElement d v := by
  induction v generalizing d with
  | scalar s => rw [infer_scalar, infer_scalar]
  | list items ih =>
      cases items with
      | nil => rw [infer_list_nil, infer_list_nil]
      | cons v rest =>
          rw [infer_list_union d (List.cons_ne_nil v rest), hasUnion_array_iff,
            List.map_cons] at h
          rw [infer_list_union d (List.cons_ne_nil v rest), infer_list_first, List.map_cons]
          rcases unite_cons (infer .union d v) (rest.map (infer .union d)) with hfirst | hunion
          · rw [hfirst] at h ⊢
            rw [ih v List.mem_cons_self h]
          · obtain ⟨members, hunion⟩ := hunion
            rw [hunion] at h
            exact absurd ⟨members, .self⟩ h
  | map entries ih =>
      by_cases hne : entries = []
      · subst hne
        rw [infer_map_nil, infer_map_nil]
      · rw [infer_map .union d hne, hasUnion_object_iff] at h
        rw [infer_map .union d hne, infer_map .firstElement d hne]
        congr 1
        refine List.map_congr_left fun e he => ?_
        have hvalue : ¬ (infer .union (d + 1) e.2).HasUnion := fun hunion =>
          h ⟨_, List.mem_map_of_mem he, hunion⟩
        rw [ih e he hvalue]
  | set members => simp only [infer]
  | pair first second => simp only [infer]

/-! ## Agreement -/

/-- First items meet no more keys than all items do. -/
theorem meetsOverlongKey_firstElement {v : Sample} (h : meetsOverlongKey .union v = false) :
    meetsOverlongKey .firstElement v = false := by
  induction v with
  | scalar s => simp only [meetsOverlongKey]
  | list items ih =>
      cases items with
      | nil => simp only [meetsOverlongKey]
      | cons v rest =>
          simp only [meetsOverlongKey, Bool.or_eq_false_iff] at h
          simp [meetsOverlongKey, ih v List.mem_cons_self h.1]
  | map entries ih =>
      simp only [meetsOverlongKey, entriesMeetOverlongKey_eq_any, List.any_eq_false,
        Bool.or_eq_true, not_or, Bool.not_eq_true] at h
      exact meetsOverlongKey_map .firstElement fun e he => ⟨(h e he).1, ih e he (h e he).2⟩
  | set members => simp only [meetsOverlongKey]
  | pair first second => simp only [meetsOverlongKey]

/-- **When the strategies agree.**  If a sample has a shape by all items, then it has one by first
items, and the two have the same structure just when no union stands anywhere in the former. -/
theorem same_infer_firstElement_iff {d : Int} {v : Sample} {s : Shape}
    (hs : infer? .union d v = .ok s) :
    ∃ t, infer? .firstElement d v = .ok t ∧ (s.same t = true ↔ ¬ s.HasUnion) := by
  unfold infer? at hs
  split at hs
  · cases hs
  · next hkeys =>
      cases hs
      have hfirst := meetsOverlongKey_firstElement (by simpa using hkeys)
      refine ⟨infer .firstElement d v, infer?_eq hfirst d, ?_⟩
      constructor
      · intro hsame hunion
        exact no_union_infer_firstElement d v (hunion.of_same hsame)
      · intro hunion
        rw [infer_eq_of_no_union hunion]
        exact same_refl _

/-- Two rows whose lists differ in length and not in shape. -/
def evenRows : Sample :=
  .list [.map [(.text "a", .list [.scalar (.int 1), .scalar (.int 2)])],
    .map [(.text "a", .list [.scalar (.int 3)])]]

/-- A row whose list holds a number and a text. -/
def unevenRow : Sample :=
  .list [.map [(.text "a", .list [.scalar (.int 1), .text "x"])]]

/-- On `evenRows` the strategies agree; on `unevenRow` they do not, since a union stands in a
field. -/
theorem same_infer_firstElement_rows :
    (∃ s t, infer? .union 0 evenRows = .ok s ∧ infer? .firstElement 0 evenRows = .ok t ∧
      s.same t = true ∧ ¬ s.HasUnion) ∧
    ∃ s t, infer? .union 0 unevenRow = .ok s ∧ infer? .firstElement 0 unevenRow = .ok t ∧
      s.same t = false ∧ s.HasUnion := by
  constructor
  · have hs : infer? .union 0 evenRows =
        .ok (.array (.object 0 [("a", .array .number)])) := rfl
    obtain ⟨t, ht, hiff⟩ := same_infer_firstElement_iff hs
    have heq : t = .array (.object 0 [("a", .array .number)]) := Except.ok.inj (ht.symm.trans rfl)
    have hsame : (array (.object 0 [("a", .array .number)])).same t = true := heq ▸ same_refl _
    exact ⟨_, t, hs, ht, hsame, hiff.mp hsame⟩
  · have hs : infer? .union 0 unevenRow =
        .ok (.array (.object 0 [("a", .array (.union [.number, .string]))])) := rfl
    obtain ⟨t, ht, hiff⟩ := same_infer_firstElement_iff hs
    have hunion : (array (.object 0 [("a", .array (.union [.number, .string]))])).HasUnion :=
      ⟨_, .item (.field List.mem_cons_self (.item .self))⟩
    have hsame := mt hiff.mp (not_not.mpr hunion)
    exact ⟨_, t, hs, ht, by simpa using hsame, hunion⟩

end MockScaffold.Shape
