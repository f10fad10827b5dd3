import MockScaffold.Proofs.Shape.Inhabitation
import MockScaffold.Shape.Rendering

/-!
# The nodes of inferred shapes

A shape is a tree: an array has its item below it, a union its members, and an object its fields,
which are one level deeper.  `Shape.Node` says that a shape stands in another below so many objects,
and `Shape.NodeRules` what inference keeps at every such place.  The key fact is that inference
makes a union only from the items of a list, of two or more that differ (`unite_cases`); so unions
stand below arrays alone.  The main statement is `node_infer`.
-/

namespace MockScaffold.Shape

/-! ## Nodes -/

def isArray : Shape → Bool
  | .array _ => true
  | _ => false

def isUnion : Shape → Bool
  | .union _ => true
  | _ => false

/-- The item of an array or the members of a union. -/
def items : Shape → List Shape
  | .array item => [item]
  | .union members => members
  | _ => []

/-- The fields of an object. -/
def fields : Shape → List (String × Shape)
  | .object _ fields => fields
  | _ => []

/-- `t` stands in a shape, with so many objects above it. -/
inductive Node (t : Shape) : Nat → Shape → Prop
  | root : Node t 0 t
  | item {n : Nat} {s m : Shape} (hm : m ∈ s.items) (h : Node t n m) : Node t n s
  | field {n : Nat} {s : Shape} {f : String × Shape} (hf : f ∈ s.fields) (h : Node t n f.2) :
      Node t (n + 1) s

/-- What holds of a node `t` below `n` objects of the shape that is inferred for `v` at depth
`d`. -/
structure NodeRules (strategy : ArrayStrategy) (d : Int) (v : Sample) (n : Nat) (t : Shape) :
    Prop where
  /-- An array has one item, and is written around it. -/
  array : t.isArray = true → ∃ item, t.items = [item] ∧ t.render = arrayOf item item.render
  /-- An object is laid out at its depth, and is the shape of a mapping in the sample, with the keys
  of that mapping as the names of its fields. -/
  object : ∀ depth fields, t = .object depth fields → depth = d + n ∧ fields ≠ [] ∧
    ∃ entries, (Sample.map entries).Occurs depth v d ∧
      infer strategy depth (.map entries) = .object depth fields ∧
      fields.map (·.1) = entries.map (·.1.name)
  /-- A union is one of several different shapes, none of them a union. -/
  union : t.isUnion = true → strategy = .union ∧ 2 ≤ t.items.length ∧
    (t.items.Pairwise fun a b => a.same b = false) ∧ ∀ m ∈ t.items, m.isUnion = false
  /-- Only arrays and unions have items, and only objects have fields. -/
  plain : (t.items ≠ [] → t.isArray = true ∨ t.isUnion = true) ∧
    (t.fields ≠ [] → t.isObject = true)
  /-- Unions stand in arrays. -/
  parent : (∀ m ∈ t.items, m.isUnion = true → t.isArray = true) ∧
    ∀ f ∈ t.fields, f.2.isUnion = false

variable {strategy : ArrayStrategy} {d : Int} {n : Nat} {t : Shape}

/-- What holds of a node of an item holds of it in the list. -/
theorem NodeRules.of_item {items : List Sample} {x : Sample} (hx : x ∈ items)
    (h : NodeRules strategy d x n t) : NodeRules strategy d (.list items) n t :=
  { h with
    object := fun depth fields ht => by
      obtain ⟨hdepth, hne, entries, hoccurs, hmapping⟩ := h.object depth fields ht
      exact ⟨hdepth, hne, entries, .item hx hoccurs, hmapping⟩ }

/-- A node of a value is one level deeper in the mapping. -/
theorem NodeRules.of_value {entries : List (Scalar × Sample)} {e : Scalar × Sample}
    (he : e ∈ entries) (h : NodeRules strategy (d + 1) e.2 n t) :
    NodeRules strategy d (.map entries) (n + 1) t :=
  { h with
    object := fun depth fields ht => by
      obtain ⟨hdepth, hne, entries', hoccurs, hmapping⟩ := h.object depth fields ht
      refine ⟨?_, hne, entries', .value he hoccurs, hmapping⟩
      push_cast
      omega }

/-! ## Nodes below other nodes -/

/-- Where a shape has nothing below it, it is its only node. -/
theorem Node.eq_of_leaf {s : Shape} (h : t.Node n s) (hitems : s.items = [])
    (hfields : s.fields = []) : n = 0 ∧ t = s := by
  cases h with
  | root => exact ⟨rfl, rfl⟩
  | item hm _ => simp [hitems] at hm
  | field hf _ => simp [hfields] at hf

/-- Below an array is its item. -/
theorem Node.array_cases {item : Shape} (h : t.Node n (.array item)) :
    (n = 0 ∧ t = .array item) ∨ t.Node n item := by
  cases h with
  | root => exact Or.inl ⟨rfl, rfl⟩
  | item hm h => exact Or.inr (List.mem_singleton.mp hm ▸ h)
  | field hf h => simp [fields] at hf

/-- What is inferred from a sample is no union; unions stand in arrays only. -/
theorem isUnion_infer (strategy : ArrayStrategy) (d : Int) (v : Sample) :
    (infer strategy d v).isUnion = false := by
  cases v with
  | scalar s => cases s <;> simp [ofScalar, isUnion]
  | list items => cases items <;> cases strategy <;> simp [infer, isUnion]
  | map entries => cases entries <;> simp [infer, isUnion]
  | set members => simp [infer, isUnion]
  | pair first second => simp [infer, isUnion]

/-- The only node of a shape without items and fields. -/
theorem NodeRules.of_leaf {v : Sample} {s : Shape} (harray : s.isArray = false)
    (hobject : s.isObject = false) (hunion : s.isUnion = false) (ht : t.Node n s) :
    NodeRules strategy d v n t := by
  have hleaf : s.items = [] ∧ s.fields = [] := by
    cases s <;> simp_all [isArray, isObject, isUnion, items, fields]
  obtain ⟨hitems, hfields⟩ := hleaf
  obtain ⟨rfl, rfl⟩ := ht.eq_of_leaf hitems hfields
  refine ⟨by simp [harray], ?_, by simp [hunion], by simp [hitems, hfields],
    by simp [hitems, hfields]⟩
  intro depth fields heq
  simp [heq, isObject] at hobject

/-- An array of one item obeys the rules for arrays, and no others concern it. -/
theorem NodeRules.of_array {v : Sample} (item : Shape) :
    NodeRules strategy d v n (.array item) where
  array _ := ⟨item, rfl, by rw [render]⟩
  object := by simp
  union := by simp [isUnion]
  plain := by simp [isArray, fields]
  parent := by simp [isArray, fields]

/-- An object has a field for every entry of its mapping, and none of them is a union. -/
theorem NodeRules.of_object {entries : List (Scalar × Sample)} (hne : entries ≠ []) :
    NodeRules strategy d (.map entries) 0 (infer strategy d (.map entries)) := by
  have hshape := infer_map strategy d hne
  rw [hshape]
  refine ⟨by simp [isArray], ?_, by simp [isUnion], by simp [items, isObject], ?_⟩
  · intro depth fields heq
    obtain ⟨rfl, rfl⟩ := Shape.object.inj heq
    refine ⟨by simp, by simpa using hne, entries, .self, hshape, ?_⟩
    rw [List.map_map]
    rfl
  · refine ⟨by simp [items], fun f hf => ?_⟩
    obtain ⟨e, _, rfl⟩ := List.mem_map.mp hf
    exact isUnion_infer strategy (d + 1) e.2

/-- A union has two members at least, all of them different and none a union. -/
theorem NodeRules.of_union {v : Sample} {shapes : List Shape}
    (hshapes : ∀ s ∈ shapes, s.isUnion = false) (htwo : 2 ≤ (distinct shapes).length) :
    NodeRules .union d v n (.union (distinct shapes)) := by
  have hmembers : ∀ m ∈ distinct shapes, m.isUnion = false :=
    fun m hm => hshapes m (mem_of_mem_distinct hm)
  refine ⟨by simp [isArray], by simp, ?_, by simp [isUnion, fields], ?_⟩
  · exact fun _ => ⟨rfl, htwo, pairwise_distinct shapes, hmembers⟩
  · exact ⟨fun m hm hunion => by simp [hmembers m hm] at hunion, by simp [fields]⟩

/-- The nodes of what several shapes unite to. -/
theorem nodeRules_unite {items : List Sample} (hne : items ≠ [])
    (ih : ∀ x ∈ items, ∀ n, t.Node n (infer .union d x) → NodeRules .union d x n t)
    (ht : t.Node n (unite (items.map (infer .union d)))) :
    NodeRules .union d (.list items) n t := by
  have hshape {s : Shape} (hs : s ∈ items.map (infer .union d)) (h : t.Node n s) :
      NodeRules .union d (.list items) n t := by
    obtain ⟨x, hx, rfl⟩ := List.mem_map.mp hs
    exact (ih x hx n h).of_item hx
  have hshapes : items.map (infer .union d) ≠ [] := by simpa using hne
  rcases unite_cases hshapes with hone | ⟨hunion, htwo⟩
  · exact hshape hone ht
  · rw [hunion] at ht
    cases ht with
    | root =>
        refine .of_union (fun s hs => ?_) htwo
        obtain ⟨x, _, rfl⟩ := List.mem_map.mp hs
        exact isUnion_infer .union d x
    | item hm h => exact hshape (mem_of_mem_distinct hm) h
    | field hf h => simp [fields] at hf

/-- The rules hold at every node of an inferred shape. -/
theorem nodeRules_infer (strategy : ArrayStrategy) (d : Int) (v : Sample) {n : Nat} {t : Shape}
    (ht : t.Node n (infer strategy d v)) : NodeRules strategy d v n t := by
  induction v generalizing d n with
  | scalar s =>
      rw [infer_scalar] at ht
      exact .of_leaf (by cases s <;> rfl) (by cases s <;> rfl) (by cases s <;> rfl) ht
  | list samples ih =>
      cases samples with
      | nil =>
          rw [infer_list_nil] at ht
          rcases ht.array_cases with ⟨rfl, rfl⟩ | ht
          · exact .of_array _
          · exact .of_leaf rfl rfl rfl ht
      | cons x rest =>
          cases strategy with
          | firstElement =>
              rw [infer_list_first] at ht
              rcases ht.array_cases with ⟨rfl, rfl⟩ | ht
              · exact .of_array _
              · exact (ih x List.mem_cons_self d ht).of_item List.mem_cons_self
          | union =>
              have hne := List.cons_ne_nil x rest
              rw [infer_list_union d hne] at ht
              rcases ht.array_cases with ⟨rfl, rfl⟩ | ht
              · exact .of_array _
              · exact nodeRules_unite hne (fun y hy n h => ih y hy d h) ht
  | map entries ih =>
      by_cases hne : entries = []
      · subst hne
        rw [infer_map_nil] at ht
        exact .of_leaf rfl rfl rfl ht
      · have hfields : (infer strategy d (.map entries)).fields =
            entries.map fun e => (e.1.name, infer strategy (d + 1) e.2) := by
          rw [infer_map strategy d hne, fields]
        cases ht with
        | root => exact .of_object hne
        | item hm h => simp [infer_map strategy d hne, items] at hm
        | field hf h =>
            rw [hfields] at hf
            obtain ⟨e, he, rfl⟩ := List.mem_map.mp hf
            exact (ih e he (d + 1) h).of_value he
  | set members =>
      rw [infer] at ht
      exact .of_leaf rfl rfl rfl ht
  | pair first second =>
      rw [infer] at ht
      exact .of_leaf rfl rfl rfl ht

/-- **The nodes of inferred shapes.**  An inferred shape is not a union itself, and every node of it
keeps the rules: arrays have one item, objects have the keys of a mapping as fields and the depth at
which they stand, and unions stand in arrays, have two members or more that all differ, and come
from the union strategy alone. -/
theorem node_infer {strategy : ArrayStrategy} {d : Int} {v : Sample} {s : Shape}
    (hs : infer? strategy d v = .ok s) :
    s.isUnion = false ∧ ∀ n t, t.Node n s → NodeRules strategy d v n t := by
  unfold infer? at hs
  split at hs
  · cases hs
  · cases hs
    exact ⟨isUnion_infer strategy d v, fun n t ht => nodeRules_infer strategy d v ht⟩

/-- A list of a row and null, under a key. -/
def optionalRows : Sample :=
  .map [(.text "rows", .list [.map [(.null, .scalar (.int 1))], .null])]

/-- The row of `optionalRows` is an object one level deep, and stands in a union. -/
theorem node_infer_optionalRows :
    infer? .union 2 optionalRows =
        .ok (.object 2 [("rows", .array (.union [.object 3 [("None", .number)], .null]))]) ∧
      NodeRules .union 2 optionalRows 1 (.object 3 [("None", .number)]) ∧
      NodeRules .union 2 optionalRows 1 (.union [.object 3 [("None", .number)], .null]) := by
  have hs : infer? .union 2 optionalRows =
      .ok (.object 2 [("rows", .array (.union [.object 3 [("None", .number)], .null]))]) := by
    rfl
  have hunion : (union [.object 3 [("None", .number)], .null]).Node 1
      (.object 2 [("rows", .array (.union [.object 3 [("None", .number)], .null]))]) :=
    .field List.mem_cons_self (.item List.mem_cons_self .root)
  have hrow : (object 3 [("None", .number)]).Node 1
      (.object 2 [("rows", .array (.union [.object 3 [("None", .number)], .null]))]) :=
    .field List.mem_cons_self (.item List.mem_cons_self (.item List.mem_cons_self .root))
  exact ⟨hs, (node_infer hs).2 1 _ hrow, (node_infer hs).2 1 _ hunion⟩

end MockScaffold.Shape
