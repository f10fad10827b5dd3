import MockScaffold.Shape.Inference

/-!
# Shapes without layout

`Shape.same` compares two shapes and passes over the depths of their objects.  The skeleton of a
shape is the shape with every depth set to zero, and `same_iff` says that `same` is equality of
skeletons.  So it is an equivalence, and whatever only looks at skeletons respects it.
-/

namespace MockScaffold.Shape

/-- Structural induction on shapes, with the hypothesis for every field and for every member. -/
@[elab_as_elim, induction_eliminator]
theorem memberInduction {motive : Shape → Prop}
    (null : motive .null) (string : motive .string) (number : motive .number)
    (boolean : motive .boolean) (unknown : motive .unknown) (record : motive .record)
    (array : ∀ item, motive item → motive (.array item))
    (object : ∀ depth fields, (∀ f ∈ fields, motive f.2) → motive (.object depth fields))
    (union : ∀ members, (∀ m ∈ members, motive m) → motive (.union members))
    (s : Shape) : motive s := by
  refine @Shape.rec motive (fun fields => ∀ f ∈ fields, motive f.2)
    (fun members => ∀ m ∈ members, motive m) (fun f => motive f.2)
    null string number boolean unknown record array object union ?_ ?_ ?_ ?_ ?_ s
  · exact fun _ h => (List.not_mem_nil h).elim
  · exact fun _ _ hhead htail => List.forall_mem_cons.mpr ⟨hhead, htail⟩
  · exact fun _ h => (List.not_mem_nil h).elim
  · exact fun _ _ hhead htail => List.forall_mem_cons.mpr ⟨hhead, htail⟩
  · exact fun _ _ h => h

mutual

/-- The shape with every depth set to zero. -/
def skeleton : Shape → Shape
  | .null => .null
  | .string => .string
  | .number => .number
  | .boolean => .boolean
  | .unknown => .unknown
  | .record => .record
  | .array item => .array (skeleton item)
  | .object _ fields => .object 0 (skeletonFields fields)
  | .union members => .union (skeletonMembers members)

def skeletonMembers : List Shape → List Shape
  | [] => []
  | m :: rest => skeleton m :: skeletonMembers rest

def skeletonFields : List (String × Shape) → List (String × Shape)
  | [] => []
  | (name, s) :: rest => (name, skeleton s) :: skeletonFields rest

end

theorem skeletonMembers_eq_map (members : List Shape) :
    skeletonMembers members = members.map skeleton := by
  induction members with
  | nil => rfl
  | cons m rest ih => rw [skeletonMembers, ih, List.map_cons]

theorem skeletonFields_eq_map (fields : List (String × Shape)) :
    skeletonFields fields = fields.map fun f => (f.1, f.2.skeleton) := by
  induction fields with
  | nil => rfl
  | cons f rest ih => rw [skeletonFields, ih, List.map_cons]

/-- Members are compared one by one, if those of the first list are. -/
theorem sameMembers_iff {as : List Shape}
    (h : ∀ a ∈ as, ∀ b, a.same b = true ↔ a.skeleton = b.skeleton) (bs : List Shape) :
    sameMembers as bs = true ↔ skeletonMembers as = skeletonMembers bs := by
  induction as generalizing bs with
  | nil => cases bs <;> simp [sameMembers, skeletonMembers]
  | cons a as ih =>
      obtain ⟨ha, has⟩ := List.forall_mem_cons.mp h
      cases bs with
      | nil => simp [sameMembers, skeletonMembers]
      | cons b bs => simp [sameMembers, skeletonMembers, ha, ih has]

/-- Fields are compared one by one, if the shapes of the first list are. -/
theorem sameFields_iff {fs : List (String × Shape)}
    (h : ∀ f ∈ fs, ∀ b, f.2.same b = true ↔ f.2.skeleton = b.skeleton)
    (gs : List (String × Shape)) :
    sameFields fs gs = true ↔ skeletonFields fs = skeletonFields gs := by
  induction fs generalizing gs with
  | nil => cases gs <;> simp [sameFields, skeletonFields]
  | cons f fs ih =>
      obtain ⟨hf, hfs⟩ := List.forall_mem_cons.mp h
      cases gs with
      | nil => simp [sameFields, skeletonFields]
      | cons g gs => simp [sameFields, skeletonFields, hf, ih hfs]

/-- Two shapes have the same structure when their skeletons are equal. -/
theorem same_iff (s t : Shape) : s.same t = true ↔ s.skeleton = t.skeleton := by
  induction s generalizing t with
  | array item ih => cases t <;> simp [same, skeleton, ih]
  | object depth fields ih => cases t <;> simp [same, skeleton, sameFields_iff ih]
  | union members ih => cases t <;> simp [same, skeleton, sameMembers_iff ih]
  | _ => cases t <;> simp [same, skeleton]

/-- Every type is the same as itself. -/
@[simp] theorem same_refl (s : Shape) : s.same s = true := (same_iff s s).mpr rfl

/-- What is the same as another type, that is the same as it. -/
theorem same_symm {s t : Shape} (h : s.same t = true) : t.same s = true :=
  (same_iff t s).mpr ((same_iff s t).mp h).symm

/-- Types that are the same as one and the same type are the same. -/
theorem same_trans {s t u : Shape} (hst : s.same t = true) (htu : t.same u = true) :
    s.same u = true :=
  (same_iff s u).mpr (((same_iff s t).mp hst).trans ((same_iff t u).mp htu))

/-- A skeleton has no layout to lose. -/
@[simp] theorem skeleton_skeleton (s : Shape) : s.skeleton.skeleton = s.skeleton := by
  induction s with
  | array item ih => rw [skeleton, skeleton, ih]
  | object depth fields ih =>
      rw [skeleton, skeletonFields_eq_map, skeleton, skeletonFields_eq_map, List.map_map]
      congr 1
      exact List.map_congr_left fun f hf => Prod.ext rfl (ih f hf)
  | union members ih =>
      rw [skeleton, skeletonMembers_eq_map, skeleton, skeletonMembers_eq_map, List.map_map]
      congr 1
      exact List.map_congr_left ih
  | _ => rfl

/-- Skeletons are told apart like the shapes. -/
@[simp] theorem same_skeleton (s t : Shape) : s.skeleton.same t.skeleton = s.same t := by
  rw [Bool.eq_iff_iff, same_iff, same_iff, skeleton_skeleton, skeleton_skeleton]

end MockScaffold.Shape
