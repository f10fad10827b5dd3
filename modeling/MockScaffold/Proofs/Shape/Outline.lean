import MockScaffold.Proofs.Shape.Inhabitation

/-!
# Inference sees structure only

The outline of a sample keeps its lists, the keys of its mappings in their order and the kinds of
its scalars, and forgets what the scalars hold.  Inference looks at nothing else: samples with one
outline have shapes of one structure, whatever the strategy.  Inference from first items sees the
outline with every list cut to its first item, and there the converse holds too, since that much of
the outline can be read off the shape (`skeleton_infer_firstElement_iff`).  The main statement is
`same_infer_outline`.
-/

namespace MockScaffold

/-- Lists that are mapped alike are mapped alike again, where this holds of their elements. -/
theorem map_eq_map_of_imp {α β γ : Type} {f : α → β} {g : α → γ} {xs ys : List α}
    (hfg : ∀ x ∈ xs, ∀ y ∈ ys, f x = f y → g x = g y) (h : xs.map f = ys.map f) :
    xs.map g = ys.map g := by
  induction xs generalizing ys with
  | nil =>
      cases ys with
      | nil => rfl
      | cons y ys => simp at h
  | cons x xs ih =>
      cases ys with
      | nil => simp at h
      | cons y ys =>
          obtain ⟨hhead, htail⟩ := List.cons.inj h
          rw [List.map_cons, List.map_cons, hfg x List.mem_cons_self y List.mem_cons_self hhead]
          rw [ih (fun x hx y hy => hfg x (List.mem_cons_of_mem _ hx) y (List.mem_cons_of_mem _ hy))
            htail]

/-- What is left of a sample when its scalars are told apart by their kinds alone. -/
inductive Outline where
  | null
  | string
  | number
  | boolean
  /-- A value of a kind that JSON does not have. -/
  | other
  | list (items : List Outline)
  | map (entries : List (Scalar × Outline))

namespace Outline

def ofScalar : Scalar → Outline
  | .null => .null
  | .bool _ => .boolean
  | .int _ => .number
  | .float _ => .number
  | .text _ => .string
  | .bytes _ | .date _ | .moment _ => .other

mutual

/-- The outline with every list cut to its first item. -/
def firstItems : Outline → Outline
  | .list items => .list (firstItem items)
  | .map entries => .map (firstItemsOfEntries entries)
  | o => o

def firstItem : List Outline → List Outline
  | [] => []
  | o :: _ => [firstItems o]

def firstItemsOfEntries : List (Scalar × Outline) → List (Scalar × Outline)
  | [] => []
  | (k, o) :: rest => (k, firstItems o) :: firstItemsOfEntries rest

end

/-- First items are taken value by value. -/
theorem firstItemsOfEntries_eq_map (entries : List (Scalar × Outline)) :
    firstItemsOfEntries entries = entries.map fun e => (e.1, e.2.firstItems) := by
  induction entries with
  | nil => rfl
  | cons e rest ih => rw [firstItemsOfEntries, ih, List.map_cons]

end Outline

namespace Sample

mutual

/-- The outline of a sample. -/
def outline : Sample → Outline
  | .scalar s => .ofScalar s
  | .list items => .list (outlines items)
  | .map entries => .map (outlineEntries entries)
  | .set _ => .other
  | .pair _ _ => .other

def outlines : List Sample → List Outline
  | [] => []
  | v :: rest => outline v :: outlines rest

def outlineEntries : List (Scalar × Sample) → List (Scalar × Outline)
  | [] => []
  | (k, v) :: rest => (k, outline v) :: outlineEntries rest

end

/-- The outline of a list is the list of outlines. -/
theorem outline_list (items : List Sample) :
    (Sample.list items).outline = .list (items.map outline) := by
  have houtlines : outlines items = items.map outline := by
    induction items with
    | nil => rfl
    | cons v rest ih => rw [outlines, ih, List.map_cons]
  rw [outline, houtlines]

/-- That of a mapping is the mapping of outlines. -/
theorem outline_map (entries : List (Scalar × Sample)) :
    (Sample.map entries).outline = .map (entries.map fun e => (e.1, e.2.outline)) := by
  have hentries : outlineEntries entries = entries.map fun e => (e.1, e.2.outline) := by
    induction entries with
    | nil => rfl
    | cons e rest ih => rw [outlineEntries, ih, List.map_cons]
  rw [outline, hentries]

/-- Of a list the first item is left. -/
theorem firstItems_outline_list (items : List Sample) :
    (Sample.list items).outline.firstItems =
      .list ((items.map fun v => v.outline.firstItems).take 1) := by
  rw [outline_list]
  cases items <;> rfl

/-- Of a mapping every value is left. -/
theorem firstItems_outline_map (entries : List (Scalar × Sample)) :
    (Sample.map entries).outline.firstItems =
      .map (entries.map fun e => (e.1, e.2.outline.firstItems)) := by
  rw [outline_map, Outline.firstItems, Outline.firstItemsOfEntries_eq_map, List.map_map]
  rfl

end Sample

namespace Shape

open Sample

/-! ## All items -/

/-- **Structure alone, all items.**  Samples with one outline have shapes of one structure. -/
theorem skeleton_infer_union_of_outline {v w : Sample} (hv : v.IsJson) (hw : w.IsJson)
    (h : v.outline = w.outline) (d : Int) :
    (infer .union d v).skeleton = (infer .union d w).skeleton := by
  induction hv generalizing w d with
  | @list items _ ih =>
      cases hw with
      | @list items' hitems' =>
          simp only [outline_list, Outline.list.injEq] at h
          have hempty : items = [] ↔ items' = [] := by
            rw [← List.map_eq_nil_iff, h, List.map_eq_nil_iff]
          by_cases hne : items = []
          · rw [hne, hempty.mp hne]
          · rw [skeleton_infer_list_union d hne, skeleton_infer_list_union d (mt hempty.mpr hne)]
            congr 2
            exact map_eq_map_of_imp (fun x hx y hy hxy => ih x hx (hitems' y hy) hxy d) h
      | map => simp [outline] at h
      | _ => simp [outline, Outline.ofScalar] at h
  | @map entries _ _ _ ih =>
      cases hw with
      | @map entries' _ _ hvalues' =>
          simp only [outline_map, Outline.map.injEq] at h
          have hempty : entries = [] ↔ entries' = [] := by
            rw [← List.map_eq_nil_iff, h, List.map_eq_nil_iff]
          by_cases hne : entries = []
          · rw [hne, hempty.mp hne]
          · rw [skeleton_infer_map .union d hne, skeleton_infer_map .union d (mt hempty.mpr hne)]
            congr 1
            refine map_eq_map_of_imp (fun e he f hf hef => ?_) h
            obtain ⟨hkey, hvalue⟩ := Prod.mk.inj hef
            rw [hkey, ih e he (hvalues' f hf) hvalue (d + 1)]
      | list => simp [outline] at h
      | _ => simp [outline, Outline.ofScalar] at h
  | _ => cases hw <;> simp [outline, Outline.ofScalar, ofScalar] at h ⊢

/-! ## First items -/

/-- The shape of a JSON value is known. -/
theorem skeleton_infer_ne_unknown {v : Sample} (hv : v.IsJson) (strategy : ArrayStrategy)
    (d : Int) : (infer strategy d v).skeleton ≠ .unknown := by
  cases hv with
  | @list items _ => cases items <;> cases strategy <;> simp [infer, skeleton]
  | @map entries _ _ _ => cases entries <;> simp [infer, skeleton]
  | _ => simp [ofScalar, skeleton]

/-- By the first item alone, the type of a list is the array of that item's type. -/
theorem skeleton_infer_list_first (d : Int) (items : List Sample) :
    (infer .firstElement d (.list items)).skeleton =
      .array ((items.map fun v => (infer .firstElement d v).skeleton).headD .unknown) := by
  cases items with
  | nil => rw [infer_list_nil]; rfl
  | cons v rest => rw [infer_list_first]; rfl

/-- **First items alone.**  From first items, the shapes of two JSON values have one structure just
when the values have one outline up to the first items of all lists. -/
theorem skeleton_infer_firstElement_iff {v w : Sample} (hv : v.IsJson) (hw : w.IsJson) (d : Int) :
    (infer .firstElement d v).skeleton = (infer .firstElement d w).skeleton ↔
      v.outline.firstItems = w.outline.firstItems := by
  induction hv generalizing w d with
  | @list items hitems ih =>
      cases hw with
      | @list items' hitems' =>
          rw [skeleton_infer_list_first, skeleton_infer_list_first, firstItems_outline_list,
            firstItems_outline_list]
          cases items with
          | nil =>
              cases items' with
              | nil => simp
              | cons y rest' =>
                  simpa using (skeleton_infer_ne_unknown (hitems' y List.mem_cons_self) _ d).symm
          | cons x rest =>
              cases items' with
              | nil => simpa using skeleton_infer_ne_unknown (hitems x List.mem_cons_self) _ d
              | cons y rest' =>
                  simpa using ih x List.mem_cons_self (hitems' y List.mem_cons_self) d
      | @map entries' _ _ _ =>
          rw [skeleton_infer_list_first]
          cases entries' <;> simp [infer, skeleton, outline, Outline.firstItems]
      | _ =>
          rw [skeleton_infer_list_first]
          simp [ofScalar, skeleton, outline, Outline.ofScalar, Outline.firstItems]
  | @map entries hkeys _ hvalues ih =>
      cases hw with
      | @map entries' hkeys' _ hvalues' =>
          have hmaps :
              (entries.map fun e => (e.1.name, (infer .firstElement (d + 1) e.2).skeleton)) =
              (entries'.map fun e => (e.1.name, (infer .firstElement (d + 1) e.2).skeleton)) ↔
              (entries.map fun e => (e.1, e.2.outline.firstItems)) =
                entries'.map fun e => (e.1, e.2.outline.firstItems) := by
            have hentry : ∀ e ∈ entries, ∀ f ∈ entries',
                (e.1.name, (infer .firstElement (d + 1) e.2).skeleton) =
                  (f.1.name, (infer .firstElement (d + 1) f.2).skeleton) ↔
                (e.1, e.2.outline.firstItems) = (f.1, f.2.outline.firstItems) := by
              intro e he f hf
              obtain ⟨s, hs⟩ := hkeys e he
              obtain ⟨t, ht⟩ := hkeys' f hf
              rw [Prod.mk.injEq, Prod.mk.injEq, ih e he (hvalues' f hf) (d + 1), hs, ht]
              simp [Scalar.name]
            exact ⟨map_eq_map_of_imp fun e he f hf => (hentry e he f hf).mp,
              map_eq_map_of_imp fun e he f hf => (hentry e he f hf).mpr⟩
          rw [firstItems_outline_map, firstItems_outline_map, Outline.map.injEq, ← hmaps]
          by_cases hne : entries = []
          · subst hne
            cases entries' <;> simp [infer, skeleton]
          · by_cases hne' : entries' = []
            · subst hne'
              simp [skeleton_infer_map .firstElement d hne, skeleton, hne]
            · rw [skeleton_infer_map .firstElement d hne, skeleton_infer_map .firstElement d hne']
              simp
      | list =>
          rw [skeleton_infer_list_first]
          cases entries <;> simp [infer, skeleton, outline, Outline.firstItems]
      | _ =>
          cases entries <;>
            simp [infer, ofScalar, skeleton, outline, Outline.ofScalar, Outline.firstItems]
  | _ =>
      cases hw with
      | list =>
          rw [skeleton_infer_list_first]
          simp [ofScalar, skeleton, outline, Outline.ofScalar, Outline.firstItems]
      | @map entries' _ _ _ =>
          cases entries' <;>
            simp [infer, ofScalar, skeleton, outline, Outline.ofScalar, Outline.firstItems]
      | _ => simp [ofScalar, skeleton, outline, Outline.ofScalar, Outline.firstItems]

/-! ## Structure only -/

/-- **Inference sees structure only.**  Every JSON value has a shape under both strategies.  Values
of one outline have shapes of one structure; and from first items, shapes have one structure just
when the outlines agree up to the first items of all lists. -/
theorem same_infer_outline {v w : Sample} (hv : v.IsJson) (hw : w.IsJson) (d : Int) :
    (v.outline = w.outline → ∀ strategy, ∃ s t,
      infer? strategy d v = .ok s ∧ infer? strategy d w = .ok t ∧ s.same t = true) ∧
    ∃ s t, infer? .firstElement d v = .ok s ∧ infer? .firstElement d w = .ok t ∧
      (s.same t = true ↔ v.outline.firstItems = w.outline.firstItems) := by
  have hshape {u : Sample} (hu : u.IsJson) (strategy : ArrayStrategy) :
      infer? strategy d u = .ok (infer strategy d u) :=
    infer?_eq (hu.meetsOverlongKey_eq strategy) d
  have hfirst : (infer .firstElement d v).same (infer .firstElement d w) = true ↔
      v.outline.firstItems = w.outline.firstItems :=
    (same_iff _ _).trans (skeleton_infer_firstElement_iff hv hw d)
  constructor
  · intro h strategy
    refine ⟨_, _, hshape hv strategy, hshape hw strategy, ?_⟩
    cases strategy with
    | firstElement => exact hfirst.mpr (by rw [h])
    | union => exact (same_iff _ _).mpr (skeleton_infer_union_of_outline hv hw h d)
  · exact ⟨_, _, hshape hv .firstElement, hshape hw .firstElement, hfirst⟩

/-- An order with one row. -/
def oneRow (id : Int) : Sample :=
  .map [(.text "rows", .list [.map [(.text "id", .scalar (.int id))]]), (.text "tags", .list [])]

/-- An order with a row and a row that is null. -/
def twoRows (id : Int) : Sample :=
  .map [(.text "rows", .list [.map [(.text "id", .scalar (.int id))], .null]),
    (.text "tags", .list [])]

/-- Two orders that differ in a number only have shapes of one structure; and first items do not
tell an order with a further row from one without it. -/
theorem same_infer_outline_rows :
    (twoRows 1).IsJson ∧ (twoRows 2).IsJson ∧ (oneRow 3).IsJson ∧
      (twoRows 1).outline = (twoRows 2).outline ∧
      (∃ s t, infer? .union 0 (twoRows 1) = .ok s ∧ infer? .union 0 (twoRows 2) = .ok t ∧
        s.same t = true) ∧
      (twoRows 1).outline.firstItems = (oneRow 3).outline.firstItems ∧
      ∃ s t, infer? .firstElement 0 (twoRows 1) = .ok s ∧
        infer? .firstElement 0 (oneRow 3) = .ok t ∧ s.same t = true := by
  have hrow (id : Int) : (Sample.map [(.text "id", .scalar (.int id))]).IsJson :=
    .map (by simp) (by simp) (by simpa using IsJson.int id)
  have horder {rows : Sample} (hrows : rows.IsJson) :
      (Sample.map [(.text "rows", rows), (.text "tags", .list [])]).IsJson :=
    .map (by simp) (by simp) (by simpa using ⟨hrows, IsJson.list (by simp)⟩)
  have htwo (id : Int) : (twoRows id).IsJson :=
    horder (.list (by simpa using ⟨hrow id, IsJson.null⟩))
  have hone : (oneRow 3).IsJson := horder (.list (by simpa using hrow 3))
  have houtline : (twoRows 1).outline = (twoRows 2).outline := rfl
  have hfirst : (twoRows 1).outline.firstItems = (oneRow 3).outline.firstItems := rfl
  obtain ⟨s, t, hs, ht, hiff⟩ := (same_infer_outline (htwo 1) hone 0).2
  exact ⟨htwo 1, htwo 2, hone, houtline,
    (same_infer_outline (htwo 1) (htwo 2) 0).1 houtline .union, hfirst,
    s, t, hs, ht, hiff.mpr hfirst⟩

end Shape

end MockScaffold
