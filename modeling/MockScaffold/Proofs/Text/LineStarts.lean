import MockScaffold.Proofs.Text.Lines

/-!
# How lines start

A text is cut into lines at its line feeds.  How all its lines but the first start is told from what
follows the line feeds: in a *continued* text each of them is followed by one of a few starts
(`Continued`).  This is kept when texts are appended, so it can be shown part by part, and it holds
of the lines too (`Continued.exists_lines`).
-/

namespace MockScaffold.Text

/-- The lines of a text, without the line feeds between them. -/
def lines (cs : List Char) : List (List Char) := cs.splitOn '\n'

/-- A text has at least one line. -/
theorem lines_ne_nil (cs : List Char) : lines cs ≠ [] := List.splitOn_ne_nil '\n' cs

/-- A line feed ends what is before it. -/
theorem lines_append (cs ds : List Char) : lines (cs ++ '\n' :: ds) = lines cs ++ lines ds :=
  List.splitOn_append_cons_self cs ds

/-- Without line feeds it has one. -/
theorem lines_of_not_mem {cs : List Char} (h : '\n' ∉ cs) : lines cs = [cs] :=
  List.splitOn_eq_singleton h

/-- A line and then other lines. -/
theorem lines_append_of_not_mem {cs : List Char} (h : '\n' ∉ cs) (ds : List Char) :
    lines (cs ++ '\n' :: ds) = cs :: lines ds :=
  List.splitOn_append_cons_self_of_not_mem h ds

/-- A character other than a line feed belongs to the first line. -/
theorem lines_cons_of_ne {c : Char} (hc : c ≠ '\n') (cs : List Char) :
    lines (c :: cs) = (lines cs).modifyHead (c :: ·) := by
  have hne : ¬ (c == '\n') = true := by simpa using hc
  rw [lines, List.splitOn_cons_eq_if_modifyHead, if_neg hne]
  rfl

/-- A text starts with its first line. -/
theorem prefix_of_lines_eq_cons {start cs first : List Char} {rest : List (List Char)}
    (hstart : '\n' ∉ start) (hcs : start <+: cs) (h : lines cs = first :: rest) :
    start <+: first := by
  obtain ⟨tail, rfl⟩ := hcs
  induction start generalizing first rest with
  | nil => exact List.nil_prefix
  | cons c start ih =>
      obtain ⟨hc, hin⟩ := not_or.mp (mt List.mem_cons.mpr hstart)
      obtain ⟨first', rest', hlines⟩ :=
        List.exists_cons_of_ne_nil (lines_ne_nil (start ++ tail))
      rw [List.cons_append, lines_cons_of_ne (Ne.symm hc), hlines, List.modifyHead_cons] at h
      rw [← List.head_eq_of_cons_eq h, List.cons_prefix_cons]
      exact ⟨rfl, ih hin hlines⟩

/-! ## Continued texts -/

/-- Every line feed is followed by one of the starts. -/
inductive Continued (starts : List (List Char)) : List Char → Prop
  | nil : Continued starts []
  | cons {c : Char} {cs : List Char} (hfeed : c = '\n' → ∃ start ∈ starts, start <+: cs)
      (hrest : Continued starts cs) : Continued starts (c :: cs)

variable {starts : List (List Char)} {cs ds : List Char}

/-- A text of one line has no further lines. -/
theorem continued_of_not_mem (h : '\n' ∉ cs) : Continued starts cs := by
  induction cs with
  | nil => exact .nil
  | cons c cs ih =>
      obtain ⟨hc, hcs⟩ := not_or.mp (mt List.mem_cons.mpr h)
      exact .cons (fun heq => absurd heq.symm hc) (ih hcs)

/-- What is put before the first line does not matter. -/
theorem continued_cons {c : Char} (hc : c ≠ '\n') (h : Continued starts cs) :
    Continued starts (c :: cs) :=
  .cons (fun heq => absurd heq hc) h

/-- A line feed, with a line that starts well. -/
theorem continued_newline {start : List Char} (hstart : start ∈ starts) (hcs : start <+: cs)
    (h : Continued starts cs) : Continued starts ('\n' :: cs) :=
  .cons (fun _ => ⟨start, hstart, hcs⟩) h

/-- Two texts, one behind the other. -/
theorem Continued.append (hcs : Continued starts cs) (hds : Continued starts ds) :
    Continued starts (cs ++ ds) := by
  induction hcs with
  | nil => exact hds
  | @cons c cs hfeed _ ih =>
      refine .cons (fun heq => ?_) ih
      obtain ⟨start, hstart, hprefix⟩ := hfeed heq
      exact ⟨start, hstart, hprefix.trans (List.prefix_append cs ds)⟩

/-- Any number of texts, one behind the other. -/
theorem continued_flatMap {α : Type} {f : α → List Char} {xs : List α}
    (h : ∀ x ∈ xs, Continued starts (f x)) : Continued starts (xs.flatMap f) := by
  induction xs with
  | nil => exact .nil
  | cons x xs ih =>
      obtain ⟨hx, hxs⟩ := List.forall_mem_cons.mp h
      exact hx.append (ih hxs)

/-- Longer starts are starts too. -/
theorem Continued.mono {starts' : List (List Char)} (h : Continued starts cs)
    (hstarts : ∀ start ∈ starts, ∃ start' ∈ starts', start' <+: start) : Continued starts' cs := by
  induction h with
  | nil => exact .nil
  | cons hfeed _ ih =>
      refine .cons (fun heq => ?_) ih
      obtain ⟨start, hstart, hprefix⟩ := hfeed heq
      obtain ⟨start', hstart', hshort⟩ := hstarts start hstart
      exact ⟨start', hstart', hshort.trans hprefix⟩

/-- With a further indent, every line but the first starts with it. -/
theorem continued_indented {indent : List Char} (hindent : '\n' ∉ indent) (cs : List Char) :
    Continued [indent] (indented indent cs) := by
  induction cs with
  | nil => exact .nil
  | cons c cs ih =>
      rw [indented_cons]
      split
      · exact continued_newline List.mem_cons_self (List.prefix_append _ _)
          ((continued_of_not_mem hindent).append ih)
      · next hc => exact continued_cons hc ih

/-- The lines of a continued text but for the first one have one of the starts. -/
theorem Continued.exists_lines (hstarts : ∀ start ∈ starts, '\n' ∉ start)
    (h : Continued starts cs) : ∃ first rest, lines cs = first :: rest ∧
      ∀ line ∈ rest, ∃ start ∈ starts, start <+: line := by
  induction h with
  | nil => exact ⟨[], [], rfl, by simp⟩
  | @cons c cs hfeed _ ih =>
      obtain ⟨first, rest, hlines, hrest⟩ := ih
      by_cases hc : c = '\n'
      · obtain ⟨start, hstart, hprefix⟩ := hfeed hc
        refine ⟨[], first :: rest, ?_, List.forall_mem_cons.mpr ⟨?_, hrest⟩⟩
        · rw [hc, ← hlines, ← lines_append_of_not_mem List.not_mem_nil, List.nil_append]
        · exact ⟨start, hstart, prefix_of_lines_eq_cons (hstarts start hstart) hprefix hlines⟩
      · refine ⟨c :: first, rest, ?_, hrest⟩
        rw [lines_cons_of_ne hc, hlines, List.modifyHead_cons]

/-- A line has one start only, unless one is the start of the other. -/
theorem prefix_exclusive {start other line : List Char}
    (h : ¬ start <+: other ∧ ¬ other <+: start) (hline : start <+: line) : ¬ other <+: line :=
  fun hother => (List.prefix_or_prefix_of_prefix hline hother).elim h.1 h.2

/-- The first line starts like the text, and no further line has a start that the text does not go
on with. -/
theorem Continued.exists_first_line (hstarts : ∀ start ∈ starts, '\n' ∉ start)
    (h : Continued starts cs) {opening other : List Char} (hopening : '\n' ∉ opening)
    (hcs : opening <+: cs) (hother : ∀ start ∈ starts, ¬ start <+: other ∧ ¬ other <+: start) :
    ∃ first rest, lines cs = first :: rest ∧ opening <+: first ∧
      ∀ line ∈ rest, ¬ other <+: line := by
  obtain ⟨first, rest, hlines, hrest⟩ := h.exists_lines hstarts
  refine ⟨first, rest, hlines, prefix_of_lines_eq_cons hopening hcs hlines, fun line hline => ?_⟩
  obtain ⟨start, hstart, hprefix⟩ := hrest line hline
  exact prefix_exclusive (hother start hstart) hprefix

end MockScaffold.Text
