import Mathlib.Data.List.TakeWhile
import MockScaffold.Route

/-!
# Route patterns and their parameters

A placeholder is a name in braces, and in a pattern a parameter is a colon and a name.  Whoever
reads a pattern takes as much for a name as can belong to one; so, as the closing brace is gone, the
word characters that follow a placeholder are read as part of its name.  `parameters_pattern` says
that no parameter comes or goes, and that its name is the name of the placeholder with just these
characters.  The main statement is `parameters_ofPath`.
-/

namespace MockScaffold.Route

open Text

/-! ## Closed names -/

/-- A closed name is a run of word characters, of one at least, and a closing brace. -/
theorem closedName?_eq_ite (cs : List Char) :
    closedName? cs =
      if cs.takeWhile isWordChar ≠ [] ∧ (cs.dropWhile isWordChar).head? = some '\x7d' then
        some (cs.takeWhile isWordChar, (cs.dropWhile isWordChar).tail)
      else none := by
  unfold closedName?
  generalize cs.takeWhile isWordChar = name
  generalize cs.dropWhile isWordChar = rest
  split
  · rfl
  · rfl
  · next hname hclosed =>
      rw [if_neg]
      intro h
      obtain ⟨c, name', rfl⟩ := List.exists_cons_of_ne_nil h.1
      obtain ⟨rest', rfl⟩ := List.head?_eq_some_iff.mp h.2
      exact hclosed c name' rest' rfl rfl

/-- What a closed name is, and where it stands. -/
theorem closedName?_eq_some {cs name rest : List Char} (h : closedName? cs = some (name, rest)) :
    name ≠ [] ∧ (∀ c ∈ name, isWordChar c = true) ∧ cs = name ++ '\x7d' :: rest := by
  rw [closedName?_eq_ite] at h
  split at h
  · next hclosed =>
      cases h
      obtain ⟨rest', hrest⟩ := List.head?_eq_some_iff.mp hclosed.2
      refine ⟨hclosed.1, fun c hc => List.mem_takeWhile_imp hc, ?_⟩
      rw [hrest, List.tail_cons, ← hrest, List.takeWhile_append_dropWhile]
  · cases h

/-- A character that belongs to no word stands in no closed name. -/
theorem not_mem_of_closedName? {cs name rest : List Char} (h : closedName? cs = some (name, rest))
    {c : Char} (hc : isWordChar c = false) : c ∉ name := by
  intro hmem
  rw [(closedName?_eq_some h).2.1 c hmem] at hc
  cases hc

/-! ## The equations of a pattern -/

/-- A closed name becomes a parameter. -/
theorem pattern_brace_of_some {cs name rest : List Char} (h : closedName? cs = some (name, rest)) :
    pattern ('\x7b' :: cs) = ':' :: (name ++ pattern rest) := by
  rw [pattern, if_pos rfl, h]
  rfl

/-- A brace that is not closed stays. -/
theorem pattern_brace_of_none {cs : List Char} (h : closedName? cs = none) :
    pattern ('\x7b' :: cs) = '\x7b' :: pattern cs := by
  rw [pattern, if_pos rfl, h]

/-- So does any other character. -/
theorem pattern_cons_of_ne {c : Char} (hc : c ≠ '\x7b') (cs : List Char) :
    pattern (c :: cs) = c :: pattern cs := by
  rw [pattern, if_neg hc]

/-- A pattern brings in colons, and nothing else. -/
theorem mem_of_mem_pattern {cs : List Char} {c : Char} (h : c ∈ pattern cs) : c = ':' ∨ c ∈ cs := by
  induction cs using pattern.induct with
  | case1 =>
      rw [pattern] at h
      exact .inr h
  | case2 cs name rest hname ih =>
      rw [pattern_brace_of_some hname, List.mem_cons, List.mem_append] at h
      rw [(closedName?_eq_some hname).2.2]
      rcases h with h | h | h
      · exact .inl h
      · exact .inr (by simp [h])
      · exact (ih h).imp_right fun h => by simp [h]
  | case3 cs hname ih =>
      rw [pattern_brace_of_none hname] at h
      rcases List.mem_cons.mp h with rfl | h
      · exact .inr List.mem_cons_self
      · exact (ih h).imp_right (List.mem_cons_of_mem _)
  | case4 d cs hd ih =>
      rw [pattern_cons_of_ne hd] at h
      rcases List.mem_cons.mp h with rfl | h
      · exact .inr List.mem_cons_self
      · exact (ih h).imp_right (List.mem_cons_of_mem _)

/-- Only the colon can be new in a pattern. -/
theorem not_mem_ofPath {path : String} {c : Char} (hc : c ≠ ':') (h : c ∉ path.toList) :
    c ∉ (ofPath path).toList := by
  rw [ofPath, String.toList_ofList]
  exact fun hmem => (mem_of_mem_pattern hmem).elim hc h

/-! ## Placeholders and parameters -/

/-- What is read after the occurrences of a mark, one after the other. -/
def readAfter {α : Type} (mark : Char) (read : List Char → Option α) : List Char → List α
  | [] => []
  | c :: cs =>
    if c = mark then (read cs).toList ++ readAfter mark read cs else readAfter mark read cs

/-- A placeholder of a path. -/
structure Placeholder where
  name : List Char
  /-- The word characters right after the closing brace. -/
  trail : List Char
  deriving DecidableEq, Repr

/-- The placeholder after an opening brace: a run of word characters and a closing brace. -/
def placeholder? (cs : List Char) : Option Placeholder :=
  let name := cs.takeWhile isWordChar
  let rest := cs.dropWhile isWordChar
  if name ≠ [] ∧ rest.head? = some '\x7d' then some ⟨name, rest.tail.takeWhile isWordChar⟩
  else none

/-- The name after a colon: a run of word characters, as long as it goes. -/
def parameter? (cs : List Char) : Option (List Char) :=
  let name := cs.takeWhile isWordChar
  if name ≠ [] then some name else none

/-- The placeholders of a path in their order. -/
def placeholders (cs : List Char) : List Placeholder := readAfter '\x7b' placeholder? cs

/-- The names of the parameters of a pattern in their order. -/
def parameters (cs : List Char) : List (List Char) := readAfter ':' parameter? cs

section ReadAfter

variable {α : Type} {mark : Char} (read : List Char → Option α)

/-- At a mark the reading after it counts. -/
theorem readAfter_cons_self (cs : List Char) :
    readAfter mark read (mark :: cs) = (read cs).toList ++ readAfter mark read cs := by
  rw [readAfter, if_pos rfl]

/-- At any other character none does. -/
theorem readAfter_cons_of_ne {c : Char} (hc : c ≠ mark) (cs : List Char) :
    readAfter mark read (c :: cs) = readAfter mark read cs := by
  rw [readAfter, if_neg hc]

/-- Nothing is read in a text without the mark. -/
theorem readAfter_append {start : List Char} (h : mark ∉ start) (cs : List Char) :
    readAfter mark read (start ++ cs) = readAfter mark read cs := by
  induction start with
  | nil => rfl
  | cons c start ih =>
      obtain ⟨hc, hstart⟩ := not_or.mp (mt List.mem_cons.mpr h)
      rw [List.cons_append, readAfter_cons_of_ne read (Ne.symm hc), ih hstart]

end ReadAfter

/-- Placeholders are closed names, with what follows them. -/
theorem placeholder?_eq_map (cs : List Char) :
    placeholder? cs =
      (closedName? cs).map fun (name, rest) => ⟨name, rest.takeWhile isWordChar⟩ := by
  rw [closedName?_eq_ite, placeholder?]
  split <;> rfl

/-- A closed name is a placeholder, with the word characters that follow it. -/
theorem placeholders_brace_of_some {cs name rest : List Char}
    (h : closedName? cs = some (name, rest)) :
    placeholders ('\x7b' :: cs) = ⟨name, rest.takeWhile isWordChar⟩ :: placeholders rest := by
  have hafter : placeholders cs = placeholders rest := by
    rw [(closedName?_eq_some h).2.2, placeholders,
      readAfter_append _ (not_mem_of_closedName? h (by decide)),
      readAfter_cons_of_ne _ (by decide), placeholders]
  rw [← hafter, placeholders, readAfter_cons_self, placeholder?_eq_map, h]
  rfl

/-- A brace that is not closed is none. -/
theorem placeholders_brace_of_none {cs : List Char} (h : closedName? cs = none) :
    placeholders ('\x7b' :: cs) = placeholders cs := by
  rw [placeholders, readAfter_cons_self, placeholder?_eq_map, h]
  rfl

/-! ## The parameters of a pattern -/

/-- A pattern starts with the same word characters as its path. -/
theorem takeWhile_pattern (cs : List Char) :
    (pattern cs).takeWhile isWordChar = cs.takeWhile isWordChar := by
  have hbrace : isWordChar '\x7b' = false := by decide
  have hcolon : isWordChar ':' = false := by decide
  induction cs using pattern.induct with
  | case1 => rw [pattern]
  | case2 cs name rest hname ih => simp [pattern_brace_of_some hname, hbrace, hcolon]
  | case3 cs hname ih => simp [pattern_brace_of_none hname, hbrace]
  | case4 c cs hc ih => rw [pattern_cons_of_ne hc, List.takeWhile_cons, List.takeWhile_cons, ih]

/-- **The parameters of a pattern.**  Without a colon in the path, the parameters are the
placeholders, each with the word characters that follow it. -/
theorem parameters_pattern {cs : List Char} (h : ':' ∉ cs) :
    parameters (pattern cs) = (placeholders cs).map fun p => p.name ++ p.trail := by
  induction cs using pattern.induct with
  | case1 =>
      rw [pattern]
      rfl
  | case2 cs name rest hname ih =>
      obtain ⟨hne, hword, hcs⟩ := closedName?_eq_some hname
      have hrest : ':' ∉ rest := fun hmem => h (by simp [hcs, hmem])
      have hcolon : ':' ∉ name := not_mem_of_closedName? hname (by decide)
      -- the closing brace is gone, so a reader goes on to the next character that is in no word
      have hread : parameter? (name ++ pattern rest) = some (name ++ rest.takeWhile isWordChar) := by
        rw [parameter?, List.takeWhile_append_of_pos hword, takeWhile_pattern,
          if_pos (by simp [hne])]
      rw [pattern_brace_of_some hname, placeholders_brace_of_some hname, List.map_cons, ← ih hrest,
        parameters, readAfter_cons_self, hread, readAfter_append _ hcolon]
      rfl
  | case3 cs hname ih =>
      rw [pattern_brace_of_none hname, placeholders_brace_of_none hname, parameters,
        readAfter_cons_of_ne _ (by decide)]
      exact ih fun hmem => h (List.mem_cons_of_mem _ hmem)
  | case4 c cs hc ih =>
      have hcolon : c ≠ ':' := fun heq => h (heq ▸ List.mem_cons_self)
      rw [pattern_cons_of_ne hc, placeholders, readAfter_cons_of_ne _ hc, parameters,
        readAfter_cons_of_ne _ hcolon]
      exact ih fun hmem => h (List.mem_cons_of_mem _ hmem)

/-- **When parameters are placeholders.**  In the route pattern of a path without a colon, the
parameters are the placeholders of the path in their order, each with the word characters that
follow its closing brace as a part of its name.  So they have the names of the placeholders just
when no word character follows a placeholder. -/
theorem parameters_ofPath {path : String} (h : ':' ∉ path.toList) :
    parameters (ofPath path).toList =
        (placeholders path.toList).map (fun p => p.name ++ p.trail) ∧
      (parameters (ofPath path).toList = (placeholders path.toList).map (·.name) ↔
        ∀ p ∈ placeholders path.toList, p.trail = []) := by
  rw [ofPath, String.toList_ofList, parameters_pattern h]
  refine ⟨rfl, ?_⟩
  rw [List.map_inj_left]
  exact forall₂_congr fun p _ => List.append_right_eq_self

/-- The parameters of a path are its placeholders, where slashes stand between them. -/
theorem parameters_ofPath_posts :
    ':' ∉ "/users/\x7bid\x7d/posts/\x7bpostId\x7d".toList ∧
      parameters (ofPath "/users/\x7bid\x7d/posts/\x7bpostId\x7d").toList =
        ["id".toList, "postId".toList] := by
  have hcolon : ':' ∉ "/users/\x7bid\x7d/posts/\x7bpostId\x7d".toList := by decide
  have hnames : placeholders "/users/\x7bid\x7d/posts/\x7bpostId\x7d".toList =
      [⟨"id".toList, []⟩, ⟨"postId".toList, []⟩] := by decide
  have htrails : ∀ p ∈ placeholders "/users/\x7bid\x7d/posts/\x7bpostId\x7d".toList,
      p.trail = [] := by
    rw [hnames]
    simp
  refine ⟨hcolon, ?_⟩
  rw [(parameters_ofPath hcolon).2.mpr htrails, hnames]
  rfl

/-- The letter after the first placeholder becomes a part of its name. -/
theorem parameters_ofPath_ne_quarters :
    ':' ∉ "/reports/\x7byear\x7dQ\x7bquarter\x7d".toList ∧
      (placeholders "/reports/\x7byear\x7dQ\x7bquarter\x7d".toList).map (·.name) =
        ["year".toList, "quarter".toList] ∧
      parameters (ofPath "/reports/\x7byear\x7dQ\x7bquarter\x7d").toList =
        ["yearQ".toList, "quarter".toList] ∧
      parameters (ofPath "/reports/\x7byear\x7dQ\x7bquarter\x7d").toList ≠
        (placeholders "/reports/\x7byear\x7dQ\x7bquarter\x7d".toList).map (·.name) := by
  have hcolon : ':' ∉ "/reports/\x7byear\x7dQ\x7bquarter\x7d".toList := by decide
  have hnames : placeholders "/reports/\x7byear\x7dQ\x7bquarter\x7d".toList =
      [⟨"year".toList, ['Q']⟩, ⟨"quarter".toList, []⟩] := by decide
  have hread : parameters (ofPath "/reports/\x7byear\x7dQ\x7bquarter\x7d").toList =
      ["yearQ".toList, "quarter".toList] := by
    rw [ofPath, String.toList_ofList, parameters_pattern hcolon, hnames]
    rfl
  rw [hread, hnames]
  exact ⟨hcolon, rfl, rfl, by decide⟩

end MockScaffold.Route
