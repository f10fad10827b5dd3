import Mathlib.Data.List.Basic
import MockScaffold.Proofs.Shape.Layout
import MockScaffold.Proofs.Shape.PropertyNames

/-!
# Type expressions determine shapes

Two inferred shapes that are written alike are alike.  Type expressions are read from the left, so
the induction is on one of the shapes and speaks of what follows its text: `LaidOut.readable` says
that a text starts with the expression of one shape only, if no bracket follows that would make an
array of it.  Objects end with their closing brace and need no such condition; that is what tells an
object from an array of objects.
-/

namespace MockScaffold.Shape

/-! ## Type expressions as characters -/

/-- Members are written one by one. -/
theorem renderMembers_eq_map (members : List Shape) :
    renderMembers members = members.map render := by
  induction members with
  | nil => simp only [renderMembers, List.map_nil]
  | cons m rest ih => simp only [renderMembers, List.map_cons, ih]

/-- So are fields, each on a line of its own. -/
theorem renderFields_eq_map (indent : String) (fields : List (String × Shape)) :
    renderFields indent fields =
      fields.map fun f => indent ++ propertyName f.1 ++ ": " ++ render f.2 := by
  induction fields with
  | nil => simp only [renderFields, List.map_nil]
  | cons f rest ih => simp only [renderFields, List.map_cons, ih]

theorem toList_render_word {s : Shape} {w : String} (h : s.word? = some w) :
    s.render.toList = w.toList := by
  unfold word? at h
  split at h <;> cases h <;> simp only [render, arrayOf, isUnknown, if_true]

/-- An array of what is neither unknown nor an object is written in parentheses. -/
theorem toList_render_list {item : Shape} (hunknown : item.isUnknown = false)
    (hobject : item.isObject = false) :
    (Shape.array item).render.toList = '(' :: (item.render.toList ++ [')', '[', ']']) := by
  simp [render, arrayOf, hunknown, hobject]

/-- An array of objects is written without them. -/
theorem toList_render_rows {item : Shape} (hobject : item.isObject = true) :
    (Shape.array item).render.toList = item.render.toList ++ ['[', ']'] := by
  cases item <;> simp [isObject] at hobject
  simp [render, arrayOf, isUnknown, isObject]

/-- A member of a union after the first, with the bar before it. -/
def memberText (m : Shape) : List Char := ' ' :: '|' :: ' ' :: m.render.toList

/-- An array of a union is written in parentheses, with a bar before every further member. -/
theorem toList_render_choice (m : Shape) (rest : List Shape) :
    (Shape.array (.union (m :: rest))).render.toList =
      '(' :: (m.render.toList ++ rest.flatMap memberText ++ [')', '[', ']']) := by
  rw [toList_render_list rfl rfl, render, renderMembers_eq_map, List.map_cons,
    Text.toList_intercalate_cons, List.flatMap_map]
  rfl

theorem newline_not_mem_spaces (d : Int) : '\n' ∉ (spaces d).toList := by
  rw [spaces, String.toList_ofList]
  exact fun h => absurd (List.eq_of_mem_replicate h) (by decide)

/-- The line of a field of an object at depth `d`, up to its end. -/
def fieldText (d : Int) (f : String × Shape) : List Char :=
  (spaces d).toList ++ ' ' :: ' ' :: ((propertyName f.1).toList ++
    ':' :: ' ' :: (f.2.render.toList ++ ['\n']))

/-- An object is written in braces, with a line for each field and its own indent before the closing
brace. -/
theorem toList_render_object (d : Int) {fields : List (String × Shape)} (hne : fields ≠ []) :
    (Shape.object d fields).render.toList =
      '{' :: '\n' :: (fields.flatMap (fieldText d) ++ ((spaces d).toList ++ ['}'])) := by
  have hlines : ("\n".intercalate (renderFields (spaces d ++ "  ") fields)).toList ++ ['\n'] =
      fields.flatMap (fieldText d) := by
    rw [renderFields_eq_map]
    refine (Text.toList_intercalate_append "\n" (by simpa using hne)).trans ?_
    rw [List.flatMap_map]
    exact List.flatMap_congr fun f _ => by simp [fieldText]
  rw [← hlines]
  simp [render]

/-! ## Reading from the left -/

/-- What follows does not make an array of the expression before it. -/
def Stops (rest : List Char) : Prop := rest.head? ≠ some '['

theorem stops_cons {c : Char} (h : c ≠ '[') (rest : List Char) : Stops (c :: rest) := by
  simpa [Stops] using h

/-- The expression of `s` stands at the start of no other text than its own. -/
def Readable (d : Int) (s : Shape) : Prop :=
  ∀ t x y, LaidOut d t → (Stops x ∧ Stops y ∨ s.isObject = true ∧ t.isObject = true) →
    s.render.toList ++ x = t.render.toList ++ y → s = t ∧ x = y

/-- Words are told from each other by their letters, and `any` from `any[]` by what follows. -/
theorem word_append_inj {s t : Shape} {v w : String} {x y : List Char} (hs : s.word? = some v)
    (ht : t.word? = some w) (hx : Stops x) (hy : Stops y) (h : v.toList ++ x = w.toList ++ y) :
    s = t ∧ x = y := by
  unfold word? at hs ht
  split at hs <;> cases hs <;> split at ht <;> cases ht <;>
    simp [Stops] at h hx hy ⊢ <;> grind

/-- No word starts like an expression in parentheses or in braces. -/
theorem word_append_ne {s : Shape} {w : String} {c : Char} {x y : List Char}
    (hs : s.word? = some w) (hc : c = '(' ∨ c = '\x7b') : w.toList ++ x ≠ c :: y := by
  unfold word? at hs
  split at hs <;> cases hs <;> rcases hc with rfl | rfl <;> simp

/-- The members of a union after the first end at the closing parenthesis. -/
theorem flatMap_memberText_append_inj {d : Int} {ms ns : List Shape} {x y : List Char}
    (hms : ∀ m ∈ ms, Readable d m) (hns : ∀ n ∈ ns, LaidOut d n)
    (h : ms.flatMap memberText ++ ')' :: x = ns.flatMap memberText ++ ')' :: y) :
    ms = ns ∧ x = y := by
  have hstops (l : List Shape) (z : List Char) : Stops (l.flatMap memberText ++ ')' :: z) := by
    cases l <;> simp [Stops, memberText]
  induction ms generalizing ns with
  | nil =>
      cases ns with
      | nil => exact ⟨rfl, List.tail_eq_of_cons_eq h⟩
      | cons n ns => simp [memberText] at h
  | cons m ms ih =>
      cases ns with
      | nil => simp [memberText] at h
      | cons n ns =>
          obtain ⟨hm, hms'⟩ := List.forall_mem_cons.mp hms
          obtain ⟨hn, hns'⟩ := List.forall_mem_cons.mp hns
          simp only [List.flatMap_cons, memberText, List.cons_append, List.append_assoc,
            List.cons.injEq, true_and] at h
          obtain ⟨rfl, htail⟩ := hm n _ _ hn (Or.inl ⟨hstops ms x, hstops ns y⟩) h
          obtain ⟨rfl, rfl⟩ := ih hms' hns' htail
          exact ⟨rfl, rfl⟩

/-- The fields of an object end at its closing brace. -/
theorem flatMap_fieldText_append_inj {d : Int} {fs gs : List (String × Shape)} {x y : List Char}
    (hfs : ∀ f ∈ fs, Readable (d + 1) f.2) (hgs : ∀ g ∈ gs, LaidOut (d + 1) g.2)
    (h : fs.flatMap (fieldText d) ++ ((spaces d).toList ++ '\x7d' :: x) =
      gs.flatMap (fieldText d) ++ ((spaces d).toList ++ '\x7d' :: y)) :
    fs = gs ∧ x = y := by
  induction fs generalizing gs with
  | nil =>
      cases gs with
      | nil => simpa using h
      | cons g gs => simp [fieldText] at h
  | cons f fs ih =>
      cases gs with
      | nil => simp [fieldText] at h
      | cons g gs =>
          obtain ⟨hf, hfs'⟩ := List.forall_mem_cons.mp hfs
          obtain ⟨hg, hgs'⟩ := List.forall_mem_cons.mp hgs
          simp only [List.flatMap_cons, fieldText, List.cons_append, List.append_assoc,
            List.append_cancel_left_eq, List.cons.injEq, true_and, List.nil_append] at h
          obtain ⟨hname, htail⟩ := propertyName_append_inj h
          have hfeed (z : List Char) : Stops ('\n' :: z) := stops_cons (by decide) z
          obtain ⟨hshape, htail⟩ := hf g.2 _ _ hg (Or.inl ⟨hfeed _, hfeed _⟩)
            (List.tail_eq_of_cons_eq htail)
          obtain ⟨rfl, rfl⟩ := ih hfs' hgs' (List.tail_eq_of_cons_eq htail)
          exact ⟨by rw [Prod.ext hname hshape], rfl⟩

/-- What is laid out and is an object has fields, all laid out one level deeper. -/
theorem LaidOut.exists_fields {d : Int} {s : Shape} (hs : LaidOut d s)
    (hobject : s.isObject = true) :
    ∃ fields, s = .object d fields ∧ fields ≠ [] ∧ ∀ f ∈ fields, LaidOut (d + 1) f.2 := by
  cases hs with
  | word hw => cases s <;> simp [isObject, word?] at hobject hw
  | list _ _ _ => simp [isObject] at hobject
  | choice _ => simp [isObject] at hobject
  | rows _ _ => simp [isObject] at hobject
  | object hne hfields => exact ⟨_, rfl, hne, hfields⟩

/-- Objects start with a brace. -/
theorem LaidOut.exists_brace {d : Int} {s : Shape} (hs : LaidOut d s) (hobject : s.isObject = true)
    (x : List Char) : ∃ y, s.render.toList ++ x = '\x7b' :: y := by
  obtain ⟨fields, rfl, hne, _⟩ := hs.exists_fields hobject
  rw [toList_render_object d hne]
  exact ⟨_, rfl⟩

/-- So do arrays of objects. -/
theorem LaidOut.exists_brace_rows {d : Int} {item : Shape} (hitem : LaidOut d item)
    (hobject : item.isObject = true) (x : List Char) :
    ∃ y, (Shape.array item).render.toList ++ x = '\x7b' :: y := by
  rw [toList_render_rows hobject, List.append_assoc]
  exact hitem.exists_brace hobject _

section Readable

variable {d : Int} {s t item : Shape} {x y : List Char}

/-- A word is read back: it differs from other words in a letter, and from anything else in the
first character. -/
theorem readable_word {w : String} (hw : s.word? = some w) : Readable d s := by
  intro t x y ht hstops h
  have hplain : s.isObject = false := by cases s <;> simp [isObject, word?] at hw ⊢
  obtain ⟨hx, hy⟩ : Stops x ∧ Stops y := hstops.resolve_right (by simp [hplain])
  rw [toList_render_word hw] at h
  cases ht with
  | word hw' =>
      rw [toList_render_word hw'] at h
      exact word_append_inj hw hw' hx hy h
  | list _ hunknown hobject =>
      rw [toList_render_list hunknown hobject] at h
      exact absurd h (word_append_ne hw (Or.inl rfl))
  | choice _ =>
      rw [toList_render_choice] at h
      exact absurd h (word_append_ne hw (Or.inl rfl))
  | rows hitem hobject =>
      obtain ⟨z, hz⟩ := hitem.exists_brace_rows hobject y
      exact absurd (h.trans hz) (word_append_ne hw (Or.inr rfl))
  | object hne hfields =>
      obtain ⟨z, hz⟩ := (LaidOut.object hne hfields).exists_brace rfl y
      exact absurd (h.trans hz) (word_append_ne hw (Or.inr rfl))

/-- An array in parentheses is read back: it differs from a union in that the parenthesis closes
after the first member. -/
theorem readable_list (ih : Readable d item) (hunknown : item.isUnknown = false)
    (hobject : item.isObject = false) : Readable d (.array item) := by
  intro t x y ht hstops h
  obtain ⟨hx, hy⟩ : Stops x ∧ Stops y := hstops.resolve_right (by simp [isObject])
  rw [toList_render_list hunknown hobject] at h
  have hparen (z : List Char) : Stops (')' :: z) := stops_cons (by decide) z
  cases ht with
  | word hw =>
      rw [toList_render_word hw] at h
      exact absurd h.symm (word_append_ne hw (Or.inl rfl))
  | list hitem hunknown' hobject' =>
      rw [toList_render_list hunknown' hobject'] at h
      simp only [List.cons_append, List.append_assoc, List.cons.injEq, true_and] at h
      obtain ⟨rfl, htail⟩ := ih _ _ _ hitem (Or.inl ⟨hparen _, hparen _⟩) h
      exact ⟨rfl, by simpa using htail⟩
  | @choice _ first second rest hmembers =>
      rw [toList_render_choice] at h
      simp only [List.cons_append, List.append_assoc, List.cons.injEq, true_and,
        List.flatMap_cons, memberText] at h
      have hfirst := hmembers first List.mem_cons_self
      obtain ⟨_, htail⟩ := ih _ _ _ hfirst
        (Or.inl ⟨hparen _, stops_cons (by decide) _⟩) h
      simp at htail
  | rows hitem hobject' =>
      obtain ⟨z, hz⟩ := hitem.exists_brace_rows hobject' y
      simpa using h.trans hz
  | object hne hfields =>
      obtain ⟨z, hz⟩ := (LaidOut.object hne hfields).exists_brace rfl y
      simpa using h.trans hz

/-- An array of a union is read back, member by member up to the closing parenthesis; after the
first member a bar follows, which no other expression has there. -/
theorem readable_choice {first second : Shape} {rest : List Shape}
    (ih : ∀ m ∈ first :: second :: rest, Readable d m) :
    Readable d (.array (.union (first :: second :: rest))) := by
  intro t x y ht hstops h
  obtain ⟨hfirst, hrest⟩ := List.forall_mem_cons.mp ih
  rw [toList_render_choice] at h
  cases ht with
  | word hw =>
      rw [toList_render_word hw] at h
      exact absurd h.symm (word_append_ne hw (Or.inl rfl))
  | list hitem hunknown hobject =>
      rw [toList_render_list hunknown hobject] at h
      simp only [List.cons_append, List.append_assoc, List.cons.injEq, true_and,
        List.flatMap_cons, memberText] at h
      obtain ⟨_, htail⟩ := hfirst _ _ _ hitem
        (Or.inl ⟨stops_cons (by decide) _, stops_cons (by decide) _⟩) h
      simp at htail
  | @choice _ first' second' rest' hmembers =>
      obtain ⟨hfirst', hrest'⟩ := List.forall_mem_cons.mp hmembers
      rw [toList_render_choice] at h
      simp only [List.cons_append, List.append_assoc, List.cons.injEq, true_and] at h
      have hbar (m : Shape) (l : List Shape) (z : List Char) :
          Stops ((m :: l).flatMap memberText ++ z) := stops_cons (by decide) _
      obtain ⟨rfl, htail⟩ := hfirst _ _ _ hfirst' (Or.inl ⟨hbar _ _ _, hbar _ _ _⟩) h
      obtain ⟨hmembers, htail⟩ := flatMap_memberText_append_inj hrest hrest' htail
      exact ⟨by rw [hmembers], by simpa using htail⟩
  | rows hitem hobject =>
      obtain ⟨z, hz⟩ := hitem.exists_brace_rows hobject y
      simpa using h.trans hz
  | object hne hfields =>
      obtain ⟨z, hz⟩ := (LaidOut.object hne hfields).exists_brace rfl y
      simpa using h.trans hz

/-- Objects end with their brace, so nothing is asked of what follows them. -/
theorem object_append_inj {fs gs : List (String × Shape)} (hfs : fs ≠ []) (hgs : gs ≠ [])
    (ih : ∀ f ∈ fs, Readable (d + 1) f.2) (hfields : ∀ g ∈ gs, LaidOut (d + 1) g.2)
    (h : (Shape.object d fs).render.toList ++ x = (Shape.object d gs).render.toList ++ y) :
    fs = gs ∧ x = y := by
  rw [toList_render_object d hfs, toList_render_object d hgs] at h
  simp only [List.cons_append, List.append_assoc, List.cons.injEq, true_and, List.nil_append] at h
  exact flatMap_fieldText_append_inj ih hfields h

/-- An object is read back, field by field up to the closing brace.  Two objects differ inside of
the braces, so it does not matter what follows them. -/
theorem readable_object {fields : List (String × Shape)} (hne : fields ≠ [])
    (ih : ∀ f ∈ fields, Readable (d + 1) f.2) : Readable d (.object d fields) := by
  intro t x y ht hstops h
  have hbrace (z : List Char) :
      ∃ z', (Shape.object d fields).render.toList ++ z = '\x7b' :: z' := by
    rw [toList_render_object d hne]
    exact ⟨_, rfl⟩
  obtain ⟨z, hz⟩ := hbrace x
  cases ht with
  | word hw =>
      rw [toList_render_word hw] at h
      exact absurd (h.symm.trans hz) (word_append_ne hw (Or.inr rfl))
  | list _ hunknown hobject =>
      rw [toList_render_list hunknown hobject] at h
      simpa using h.symm.trans hz
  | choice _ =>
      rw [toList_render_choice] at h
      simpa using h.symm.trans hz
  | rows hitem hobject =>
      -- the object would be followed by the brackets of the array
      obtain ⟨hx, _⟩ : Stops x ∧ Stops y := hstops.resolve_right (by simp [isObject])
      obtain ⟨gs, rfl, hgs, hfields⟩ := hitem.exists_fields hobject
      rw [toList_render_rows hobject, List.append_assoc] at h
      obtain ⟨_, rfl⟩ := object_append_inj hne hgs ih hfields h
      exact absurd rfl hx
  | object hgs hfields =>
      obtain ⟨rfl, rfl⟩ := object_append_inj hne hgs ih hfields h
      exact ⟨rfl, rfl⟩

/-- An array of objects is read back: the brackets after the closing brace tell it from an object.
-/
theorem readable_rows (hitem : LaidOut d item) (hobject : item.isObject = true)
    (ih : Readable d item) : Readable d (.array item) := by
  intro t x y ht hstops h
  obtain ⟨hx, hy⟩ : Stops x ∧ Stops y := hstops.resolve_right (by simp [isObject])
  obtain ⟨z, hz⟩ := hitem.exists_brace_rows hobject x
  cases ht with
  | word hw =>
      rw [toList_render_word hw] at h
      exact absurd (h.symm.trans hz) (word_append_ne hw (Or.inr rfl))
  | list _ hunknown hobject' =>
      rw [toList_render_list hunknown hobject'] at h
      simpa using h.symm.trans hz
  | choice _ =>
      rw [toList_render_choice] at h
      simpa using h.symm.trans hz
  | rows hitem' hobject' =>
      rw [toList_render_rows hobject, toList_render_rows hobject', List.append_assoc,
        List.append_assoc] at h
      obtain ⟨rfl, htail⟩ := ih _ _ _ hitem' (Or.inr ⟨hobject, hobject'⟩) h
      exact ⟨rfl, by simpa using htail⟩
  | object hgs hfields =>
      -- the object would be followed by the brackets of the array
      rw [toList_render_rows hobject, List.append_assoc] at h
      obtain ⟨_, rfl⟩ := ih _ _ _ (.object hgs hfields) (Or.inr ⟨hobject, rfl⟩) h
      exact absurd rfl hy

end Readable

/-- **Unambiguity.**  Laid out at one depth, two shapes whose expressions start one text are equal,
and so is what follows. -/
theorem LaidOut.readable {d : Int} {s : Shape} (hs : LaidOut d s) : Readable d s := by
  induction hs with
  | word hw => exact readable_word hw
  | list _ hunknown hobject ih => exact readable_list ih hunknown hobject
  | choice _ ih => exact readable_choice ih
  | rows hitem hobject ih => exact readable_rows hitem hobject ih
  | object hne _ ih => exact readable_object hne ih

/-- **The text of a type determines the type.**  For two samples, each under a strategy of its own,
the inferred shapes are written alike exactly when they have the same structure. -/
theorem render_infer_eq_iff (strategy₁ strategy₂ : ArrayStrategy) (d : Int) (v w : Sample) :
    (infer strategy₁ d v).render = (infer strategy₂ d w).render ↔
      (infer strategy₁ d v).same (infer strategy₂ d w) = true := by
  have hv := laidOut_infer strategy₁ d v
  have hw := laidOut_infer strategy₂ d w
  constructor
  · intro h
    have hend : Stops [] := by simp [Stops]
    obtain ⟨heq, _⟩ := hv.readable _ [] [] hw (Or.inl ⟨hend, hend⟩) (by rw [h])
    rw [heq]
    exact same_refl _
  · intro h
    rw [hv.eq_of_same hw h]

end MockScaffold.Shape
