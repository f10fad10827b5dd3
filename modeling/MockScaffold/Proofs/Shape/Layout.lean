import MockScaffold.Proofs.Sample.Induction
import MockScaffold.Proofs.Shape.Union

/-!
# How inference lays shapes out

Inference puts every object at the depth at which it stands, gives it at least one field, and makes
a union only of the items of a list and only of two members or more.  `Shape.LaidOut` holds these
rules, one constructor for each form in which a type expression is written, and `laidOut_infer` says
that inference keeps them.  A shape that keeps them is its skeleton laid out again, so that only the
structure and one depth are free (`LaidOut.eq_of_same`).
-/

namespace MockScaffold.Shape

/-- The words for shapes that are written without looking inside. -/
def word? : Shape → Option String
  | .null => some "null"
  | .string => some "string"
  | .number => some "number"
  | .boolean => some "boolean"
  | .unknown => some "any"
  | .record => some "Record<string, any>"
  | .array .unknown => some "any[]"
  | _ => none

/-- The shapes of samples laid out at a depth. -/
inductive LaidOut : Int → Shape → Prop
  | word {d : Int} {s : Shape} {w : String} (hw : s.word? = some w) : LaidOut d s
  /-- An array of words or of arrays. -/
  | list {d : Int} {item : Shape} (hitem : LaidOut d item) (hunknown : item.isUnknown = false)
      (hobject : item.isObject = false) : LaidOut d (.array item)
  /-- An array of what has several alternatives. -/
  | choice {d : Int} {first second : Shape} {rest : List Shape}
      (hmembers : ∀ m ∈ first :: second :: rest, LaidOut d m) :
      LaidOut d (.array (.union (first :: second :: rest)))
  /-- An array of objects. -/
  | rows {d : Int} {item : Shape} (hitem : LaidOut d item) (hobject : item.isObject = true) :
      LaidOut d (.array item)
  | object {d : Int} {fields : List (String × Shape)} (hne : fields ≠ [])
      (hfields : ∀ f ∈ fields, LaidOut (d + 1) f.2) : LaidOut d (.object d fields)

/-- An array is laid out where its item is. -/
theorem LaidOut.array {d : Int} {item : Shape} (h : LaidOut d item) : LaidOut d (.array item) := by
  by_cases hobject : item.isObject = true
  · exact .rows h hobject
  · by_cases hunknown : item.isUnknown = true
    · cases item <;> simp [isUnknown] at hunknown
      exact .word rfl
    · exact .list h (by simpa using hunknown) (by simpa using hobject)

/-- Shapes that are laid out unite to the item of an array that is. -/
theorem LaidOut.array_unite {d : Int} {shapes : List Shape} (hne : shapes ≠ [])
    (h : ∀ s ∈ shapes, LaidOut d s) : LaidOut d (.array (unite shapes)) := by
  rcases unite_cases hne with hone | ⟨hunion, htwo⟩
  · exact .array (h _ hone)
  · have hdistinct : ∀ m ∈ distinct shapes, LaidOut d m :=
      fun m hm => h m (mem_of_mem_distinct hm)
    rw [hunion]
    match heq : distinct shapes with
    | [] => simp [heq] at htwo
    | [m] => simp [heq] at htwo
    | first :: second :: rest => exact .choice (heq ▸ hdistinct)

/-- **Inference lays out.**  Whatever the strategy, the shape of a sample is laid out at the depth
that is asked for. -/
theorem laidOut_infer (strategy : ArrayStrategy) (d : Int) (v : Sample) :
    LaidOut d (infer strategy d v) := by
  induction v generalizing d with
  | scalar s => cases s <;> rw [infer_scalar] <;> exact .word rfl
  | list items ih =>
      cases items with
      | nil => rw [infer_list_nil]; exact .word rfl
      | cons v rest =>
          cases strategy with
          | firstElement =>
              rw [infer_list_first]
              exact (ih v List.mem_cons_self d).array
          | union =>
              rw [infer_list_union d (List.cons_ne_nil v rest)]
              refine .array_unite (by simp) fun s hs => ?_
              obtain ⟨x, hx, rfl⟩ := List.mem_map.mp hs
              exact ih x hx d
  | map entries ih =>
      by_cases hne : entries = []
      · subst hne
        rw [infer_map_nil]
        exact .word rfl
      · rw [infer_map strategy d hne]
        refine .object (by simpa using hne) fun f hf => ?_
        obtain ⟨e, he, rfl⟩ := List.mem_map.mp hf
        exact ih e he (d + 1)
  | set members => simp only [infer]; exact .word rfl
  | pair first second => simp only [infer]; exact .word rfl

/-! ## Laying out again -/

mutual

/-- The shape with every object put at the depth at which it stands, itself at depth `d`. -/
def layOut (d : Int) : Shape → Shape
  | .null => .null
  | .string => .string
  | .number => .number
  | .boolean => .boolean
  | .unknown => .unknown
  | .record => .record
  | .array item => .array (layOut d item)
  | .object _ fields => .object d (layOutFields (d + 1) fields)
  | .union members => .union (layOutMembers d members)

def layOutMembers (d : Int) : List Shape → List Shape
  | [] => []
  | m :: rest => layOut d m :: layOutMembers d rest

def layOutFields (d : Int) : List (String × Shape) → List (String × Shape)
  | [] => []
  | (name, s) :: rest => (name, layOut d s) :: layOutFields d rest

end

/-- Members are laid out one by one. -/
theorem layOutMembers_eq_map (d : Int) (members : List Shape) :
    layOutMembers d members = members.map (layOut d) := by
  induction members with
  | nil => rfl
  | cons m rest ih => rw [layOutMembers, ih, List.map_cons]

/-- So are fields, under their names. -/
theorem layOutFields_eq_map (d : Int) (fields : List (String × Shape)) :
    layOutFields d fields = fields.map fun f => (f.1, layOut d f.2) := by
  induction fields with
  | nil => rfl
  | cons f rest ih => rw [layOutFields, ih, List.map_cons]

/-- Laying out does not look at the layout that is there. -/
theorem layOut_skeleton (d : Int) (s : Shape) : layOut d s.skeleton = layOut d s := by
  induction s generalizing d with
  | array item ih => rw [skeleton, layOut, layOut, ih]
  | object depth fields ih =>
      rw [skeleton, layOut, layOut, skeletonFields_eq_map, layOutFields_eq_map,
        layOutFields_eq_map, List.map_map]
      congr 1
      exact List.map_congr_left fun f hf => Prod.ext rfl (ih f hf (d + 1))
  | union members ih =>
      rw [skeleton, layOut, layOut, skeletonMembers_eq_map, layOutMembers_eq_map,
        layOutMembers_eq_map, List.map_map]
      congr 1
      exact List.map_congr_left fun m hm => ih m hm d
  | _ => rfl

/-- Words are not laid out. -/
theorem layOut_of_word {s : Shape} {w : String} (hw : s.word? = some w) (d : Int) :
    layOut d s = s := by
  unfold word? at hw
  split at hw <;> first | rfl | cases hw

/-- What is laid out stays as it is. -/
theorem LaidOut.layOut_eq {d : Int} {s : Shape} (hs : LaidOut d s) : layOut d s = s := by
  induction hs with
  | word hw => exact layOut_of_word hw _
  | list _ _ _ ih => rw [layOut, ih]
  | choice _ ih =>
      rw [layOut, layOut, layOutMembers_eq_map, List.map_congr_left ih, List.map_id']
  | rows _ _ ih => rw [layOut, ih]
  | @object d fields _ _ ih =>
      have hfields : fields.map (fun f => (f.1, layOut (d + 1) f.2)) = fields.map id :=
        List.map_congr_left fun f hf => Prod.ext rfl (ih f hf)
      rw [layOut, layOutFields_eq_map, hfields, List.map_id]

/-- Laid out at one depth, shapes of the same structure are equal. -/
theorem LaidOut.eq_of_same {d : Int} {s t : Shape} (hs : LaidOut d s) (ht : LaidOut d t)
    (h : s.same t = true) : s = t := by
  rw [← hs.layOut_eq, ← layOut_skeleton, (same_iff s t).mp h, layOut_skeleton, ht.layOut_eq]

end MockScaffold.Shape
