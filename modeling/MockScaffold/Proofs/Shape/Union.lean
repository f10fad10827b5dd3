import MockScaffold.Proofs.Shape.Skeleton

/-!
# Unions of inferred shapes

`Shape.unite` keeps of a list of shapes the first of each structure.  Nothing is invented and no
structure is lost: `mem_of_mem_distinct` and `exists_same_mem_distinct`.  The equations of
`Shape.infer` are stated here with `List.map` in place of its helper functions.
-/

namespace MockScaffold.Shape

/-! ## The equations of inference -/

/-- The types of items are inferred one by one. -/
theorem inferItems_eq_map (strategy : ArrayStrategy) (d : Int) (items : List Sample) :
    inferItems strategy d items = items.map (infer strategy d) := by
  induction items with
  | nil => simp only [inferItems, List.map_nil]
  | cons v rest ih => simp only [inferItems, List.map_cons, ih]

/-- So are those of values, under the names of their keys. -/
theorem inferFields_eq_map (strategy : ArrayStrategy) (d : Int)
    (entries : List (Scalar × Sample)) :
    inferFields strategy d entries = entries.map fun e => (e.1.name, infer strategy d e.2) := by
  induction entries with
  | nil => simp only [inferFields, List.map_nil]
  | cons e rest ih => simp only [inferFields, List.map_cons, ih]

@[simp] theorem infer_scalar (strategy : ArrayStrategy) (d : Int) (s : Scalar) :
    infer strategy d (.scalar s) = ofScalar s := rfl

@[simp] theorem infer_list_nil (strategy : ArrayStrategy) (d : Int) :
    infer strategy d (.list []) = .array .unknown := rfl

/-- By the first item alone, a list is the array of that item's type. -/
theorem infer_list_first (d : Int) (v : Sample) (rest : List Sample) :
    infer .firstElement d (.list (v :: rest)) = .array (infer .firstElement d v) := rfl

/-- Under the union strategy a list takes its element shape from all of its items. -/
theorem infer_list_union (d : Int) {items : List Sample} (hne : items ≠ []) :
    infer .union d (.list items) = .array (unite (items.map (infer .union d))) := by
  cases items with
  | nil => exact absurd rfl hne
  | cons v rest => simp only [infer, inferItems_eq_map, List.map_cons]

@[simp] theorem infer_map_nil (strategy : ArrayStrategy) (d : Int) :
    infer strategy d (.map []) = .record := rfl

/-- A mapping with entries is an object with a field for each. -/
theorem infer_map (strategy : ArrayStrategy) (d : Int) {entries : List (Scalar × Sample)}
    (hne : entries ≠ []) :
    infer strategy d (.map entries) =
      .object d (entries.map fun e => (e.1.name, infer strategy (d + 1) e.2)) := by
  cases entries with
  | nil => exact absurd rfl hne
  | cons e rest => simp only [infer, inferFields_eq_map]

/-! ## Keys that inference meets -/

theorem itemsMeetOverlongKey_eq_any (strategy : ArrayStrategy) (items : List Sample) :
    itemsMeetOverlongKey strategy items = items.any (meetsOverlongKey strategy) := by
  induction items with
  | nil => simp only [itemsMeetOverlongKey, List.any_nil]
  | cons v rest ih => simp only [itemsMeetOverlongKey, List.any_cons, ih]

theorem entriesMeetOverlongKey_eq_any (strategy : ArrayStrategy)
    (entries : List (Scalar × Sample)) :
    entriesMeetOverlongKey strategy entries =
      entries.any fun e => e.1.isOverlong || meetsOverlongKey strategy e.2 := by
  induction entries with
  | nil => simp only [entriesMeetOverlongKey, List.any_nil]
  | cons e rest ih => simp only [entriesMeetOverlongKey, List.any_cons, ih]

/-- In a list inference meets no overlong key if it meets none in the items. -/
theorem meetsOverlongKey_list (strategy : ArrayStrategy) {items : List Sample}
    (h : ∀ v ∈ items, meetsOverlongKey strategy v = false) :
    meetsOverlongKey strategy (.list items) = false := by
  cases items with
  | nil => simp only [meetsOverlongKey]
  | cons v rest =>
      obtain ⟨hv, hrest⟩ := List.forall_mem_cons.mp h
      have htail : itemsMeetOverlongKey strategy rest = false := by
        rw [itemsMeetOverlongKey_eq_any]
        exact List.any_eq_false.mpr fun x hx => by simp [hrest x hx]
      simp only [meetsOverlongKey, hv, htail, Bool.and_false, Bool.or_false]

/-- In a mapping inference meets no overlong key if none is a key and it meets none in the
values. -/
theorem meetsOverlongKey_map (strategy : ArrayStrategy) {entries : List (Scalar × Sample)}
    (h : ∀ e ∈ entries, e.1.isOverlong = false ∧ meetsOverlongKey strategy e.2 = false) :
    meetsOverlongKey strategy (.map entries) = false := by
  simp only [meetsOverlongKey, entriesMeetOverlongKey_eq_any]
  exact List.any_eq_false.mpr fun e he => by simp [h e he]

/-- Inference succeeds where it meets no overlong key. -/
theorem infer?_eq {strategy : ArrayStrategy} {v : Sample}
    (h : meetsOverlongKey strategy v = false) (d : Int) :
    infer? strategy d v = .ok (infer strategy d v) := by
  simp [infer?, h]

/-! ## The members of a union -/

/-- The shapes between which a shape leaves the choice. -/
def alternatives : Shape → List Shape
  | .union members => members
  | s => [s]

/-- Inference makes a union only for the items of a list. -/
@[simp] theorem alternatives_infer (strategy : ArrayStrategy) (d : Int) (v : Sample) :
    (infer strategy d v).alternatives = [infer strategy d v] := by
  cases v with
  | scalar s => cases s <;> simp [ofScalar, alternatives]
  | list items => cases items <;> cases strategy <;> simp [infer, alternatives]
  | map entries => cases entries <;> simp [infer, alternatives]
  | set members => simp [infer, alternatives]
  | pair first second => simp [infer, alternatives]

/-- A member is one that was there, or the new one. -/
theorem mem_insertNew {members : List Shape} {s m : Shape} (h : m ∈ insertNew members s) :
    m ∈ members ∨ m = s := by
  unfold insertNew at h
  split at h
  · exact Or.inl h
  · simpa using h

/-- No member is lost. -/
theorem subset_insertNew (members : List Shape) (s : Shape) : members ⊆ insertNew members s := by
  unfold insertNew
  split
  · exact List.Subset.refl _
  · exact List.subset_append_left _ _

/-- After a shape was added, one of its structure is there. -/
theorem exists_same_mem_insertNew (members : List Shape) (s : Shape) :
    ∃ m ∈ insertNew members s, s.same m = true := by
  unfold insertNew
  split
  · next h => exact List.any_eq_true.mp h
  · exact ⟨s, by simp, same_refl s⟩

theorem foldl_insertNew_subset (shapes members : List Shape) :
    members ⊆ shapes.foldl insertNew members := by
  induction shapes generalizing members with
  | nil => exact List.Subset.refl _
  | cons s rest ih => exact List.Subset.trans (subset_insertNew members s) (ih _)

/-- The same for many types, one after the other. -/
theorem mem_foldl_insertNew {shapes members : List Shape} {m : Shape}
    (h : m ∈ shapes.foldl insertNew members) : m ∈ members ∨ m ∈ shapes := by
  induction shapes generalizing members with
  | nil => exact Or.inl h
  | cons s rest ih =>
      rcases ih h with hm | hm
      · rcases mem_insertNew hm with hm | rfl
        · exact Or.inl hm
        · exact Or.inr List.mem_cons_self
      · exact Or.inr (List.mem_cons_of_mem _ hm)

/-- Each of them has a member that is the same. -/
theorem exists_same_mem_foldl {shapes : List Shape} (members : List Shape) {s : Shape}
    (h : s ∈ shapes) : ∃ m ∈ shapes.foldl insertNew members, s.same m = true := by
  induction shapes generalizing members with
  | nil => exact absurd h List.not_mem_nil
  | cons t rest ih =>
      rcases List.mem_cons.mp h with rfl | h
      · obtain ⟨m, hm, hsame⟩ := exists_same_mem_insertNew members s
        exact ⟨m, foldl_insertNew_subset rest _ hm, hsame⟩
      · exact ih _ h

/-- Every member was one of the shapes. -/
theorem mem_of_mem_distinct {shapes : List Shape} {m : Shape} (h : m ∈ distinct shapes) :
    m ∈ shapes :=
  (mem_foldl_insertNew h).resolve_left List.not_mem_nil

/-- Every shape has a member of its structure. -/
theorem exists_same_mem_distinct {shapes : List Shape} {s : Shape} (h : s ∈ shapes) :
    ∃ m ∈ distinct shapes, s.same m = true :=
  exists_same_mem_foldl [] h

/-- The members differ in structure. -/
theorem pairwise_insertNew {members : List Shape}
    (h : members.Pairwise fun a b => a.same b = false) (s : Shape) :
    (insertNew members s).Pairwise fun a b => a.same b = false := by
  unfold insertNew
  split
  · exact h
  · next hnew =>
      refine List.pairwise_append.mpr ⟨h, List.pairwise_singleton _ s, fun m hm t ht => ?_⟩
      rw [List.mem_singleton.mp ht]
      exact Bool.eq_false_iff.mpr fun hsame =>
        hnew (List.any_eq_true.mpr ⟨m, hm, same_symm hsame⟩)

/-- No two members are the same. -/
theorem pairwise_distinct (shapes : List Shape) :
    (distinct shapes).Pairwise fun a b => a.same b = false := by
  have hfold (members : List Shape) (h : members.Pairwise fun a b => a.same b = false) :
      (shapes.foldl insertNew members).Pairwise fun a b => a.same b = false := by
    induction shapes generalizing members with
    | nil => exact h
    | cons s rest ih => exact ih _ (pairwise_insertNew h s)
  exact hfold [] List.Pairwise.nil

/-- One shape for several is one of them, or the union of the different ones, of which there are
then two at least. -/
theorem unite_cases {shapes : List Shape} (hne : shapes ≠ []) :
    unite shapes ∈ shapes ∨
      (unite shapes = .union (distinct shapes) ∧ 2 ≤ (distinct shapes).length) := by
  obtain ⟨s, hs⟩ := List.exists_mem_of_ne_nil shapes hne
  obtain ⟨m, hm, _⟩ := exists_same_mem_distinct hs
  unfold unite
  split
  · next m' heq => exact Or.inl (mem_of_mem_distinct (heq ▸ List.mem_singleton_self m'))
  · next hmany =>
      refine Or.inr ⟨rfl, ?_⟩
      match heq : distinct shapes with
      | [] => exact absurd (heq ▸ hm) List.not_mem_nil
      | [m'] => exact absurd heq (hmany m')
      | first :: second :: rest => simp

/-- Of inferred shapes, the union leaves the choice between the different ones. -/
theorem alternatives_unite {shapes : List Shape} (h : ∀ s ∈ shapes, s.alternatives = [s]) :
    (unite shapes).alternatives = distinct shapes := by
  unfold unite
  split
  · next s heq =>
      rw [heq]
      exact h s (mem_of_mem_distinct (heq ▸ List.mem_singleton_self s))
  · rfl

/-- What the types of items unite to has the distinct ones among them as its alternatives. -/
theorem alternatives_unite_infer (strategy : ArrayStrategy) (d : Int) (items : List Sample) :
    (unite (items.map (infer strategy d))).alternatives =
      distinct (items.map (infer strategy d)) := by
  apply alternatives_unite
  intro s hs
  obtain ⟨v, _, rfl⟩ := List.mem_map.mp hs
  exact alternatives_infer strategy d v

/-! ## Unions without layout -/

/-- Members are compared by their skeletons, so it does not matter whether skeletons are taken
before or after. -/
theorem insertNew_map_skeleton (members : List Shape) (s : Shape) :
    insertNew (members.map skeleton) s.skeleton = (insertNew members s).map skeleton := by
  unfold insertNew
  rw [List.any_map]
  simp only [Function.comp_def, same_skeleton]
  split
  · rfl
  · rw [List.map_append, List.map_singleton]

/-- Of the skeletons the same ones stay as of the shapes. -/
theorem distinct_map_skeleton (shapes : List Shape) :
    distinct (shapes.map skeleton) = (distinct shapes).map skeleton := by
  have hfold (members : List Shape) : (shapes.map skeleton).foldl insertNew (members.map skeleton) =
      (shapes.foldl insertNew members).map skeleton := by
    induction shapes generalizing members with
    | nil => rfl
    | cons s rest ih =>
        rw [List.map_cons, List.foldl_cons, insertNew_map_skeleton, ih, List.foldl_cons]
  exact hfold []

/-- So uniting and taking skeletons can be exchanged. -/
theorem skeleton_unite (shapes : List Shape) :
    (unite shapes).skeleton = unite (shapes.map skeleton) := by
  unfold unite
  rw [distinct_map_skeleton]
  match distinct shapes with
  | [] => rfl
  | [s] => rfl
  | s :: t :: rest => simp only [skeleton, skeletonMembers_eq_map, List.map_cons]

/-- The skeleton of an array of a union, by the skeletons of the items. -/
theorem skeleton_infer_list_union (d : Int) {items : List Sample} (hne : items ≠ []) :
    (infer .union d (.list items)).skeleton =
      .array (unite (items.map fun v => (infer .union d v).skeleton)) := by
  rw [infer_list_union d hne, skeleton, skeleton_unite, List.map_map]
  rfl

/-- The skeleton of an object, by those of the values; depths are left out of it. -/
theorem skeleton_infer_map (strategy : ArrayStrategy) (d : Int) {entries : List (Scalar × Sample)}
    (hne : entries ≠ []) :
    (infer strategy d (.map entries)).skeleton =
      .object 0 (entries.map fun e => (e.1.name, (infer strategy (d + 1) e.2).skeleton)) := by
  rw [infer_map strategy d hne, skeleton, skeletonFields_eq_map, List.map_map]
  rfl

end MockScaffold.Shape
