import MockScaffold.Text.Lines

/-!
# Further indents

`Text.indentLines` puts an indent after every line end and leaves all other characters as they are.
So it can be done part by part (`indented_append`), and changes no text on one line
(`indented_of_not_mem`).
-/

namespace MockScaffold.Text

/-- The characters of a text with an indent after every line end. -/
def indented (indent cs : List Char) : List Char :=
  cs.flatMap fun c => if c = '\n' then '\n' :: indent else [c]

/-- Indenting a text is indenting its characters. -/
theorem toList_indentLines (indent s : String) :
    (indentLines indent s).toList = indented indent.toList s.toList := by
  rw [indentLines, String.toList_ofList, indented]

@[simp] theorem indented_nil (indent : List Char) : indented indent [] = [] := rfl

@[simp] theorem indented_cons (indent : List Char) (c : Char) (cs : List Char) :
    indented indent (c :: cs) = (if c = '\n' then '\n' :: indent else [c]) ++ indented indent cs :=
  rfl

/-- Two texts are indented one after the other. -/
@[simp] theorem indented_append (indent cs ds : List Char) :
    indented indent (cs ++ ds) = indented indent cs ++ indented indent ds :=
  List.flatMap_append

theorem indented_flatMap {α : Type} (indent : List Char) (f : α → List Char) (xs : List α) :
    indented indent (xs.flatMap f) = xs.flatMap fun x => indented indent (f x) :=
  List.flatMap_assoc

/-- Without an indent nothing changes. -/
theorem indented_of_empty (cs : List Char) : indented [] cs = cs := by
  induction cs with
  | nil => rfl
  | cons c cs ih =>
      rw [indented_cons, ih]
      by_cases hc : c = '\n' <;> simp [hc]

/-- Nothing as an indent changes nothing. -/
theorem indentLines_empty (s : String) : indentLines "" s = s := by
  rw [← String.toList_inj, toList_indentLines]
  exact indented_of_empty s.toList

/-- A text on one line is left as it is. -/
theorem indented_of_not_mem {indent cs : List Char} (h : '\n' ∉ cs) : indented indent cs = cs := by
  induction cs with
  | nil => rfl
  | cons c cs ih =>
      obtain ⟨hc, hcs⟩ := not_or.mp (mt List.mem_cons.mpr h)
      rw [indented_cons, if_neg (Ne.symm hc), ih hcs, List.singleton_append]

end MockScaffold.Text
