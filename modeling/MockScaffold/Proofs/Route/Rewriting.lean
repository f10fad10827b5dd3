import MockScaffold.Proofs.Route.Pattern

/-!
# Patterns hold no placeholders

A path is rewritten in one pass from the left, and what a placeholder leaves behind starts with a
colon.  So no text of the path and no remainder of a placeholder can close up to a new one: if no
name is closed at some point of a path, then none is closed there in its pattern
(`closedName?_pattern`).  Hence the placeholders are all gone after one pass
(`placeholders_pattern`), and a second one changes nothing (`pattern_pattern`).
-/

namespace MockScaffold.Route

open Text

/-! ## Placeholders as parts of a text -/

/-- A run of word characters with a closing brace after it is a closed name. -/
theorem closedName?_append {name : List Char} (hne : name ≠ [])
    (hword : ∀ c ∈ name, isWordChar c = true) (rest : List Char) :
    closedName? (name ++ '\x7d' :: rest) = some (name, rest) := by
  have hbrace : isWordChar '\x7d' = false := by decide
  have htake : (name ++ '\x7d' :: rest).takeWhile isWordChar = name := by
    rw [List.takeWhile_append_of_pos hword]
    simp [hbrace]
  have hdrop : (name ++ '\x7d' :: rest).dropWhile isWordChar = '\x7d' :: rest := by
    rw [List.dropWhile_append_of_pos hword]
    simp [hbrace]
  rw [closedName?_eq_ite, htake, hdrop, if_pos ⟨hne, rfl⟩, List.tail_cons]

/-- A text has no placeholders just when nowhere in it a name stands between braces. -/
theorem placeholders_eq_nil_iff {cs : List Char} : placeholders cs = [] ↔
    ∀ name, name ≠ [] → (∀ c ∈ name, isWordChar c = true) →
      ¬ '\x7b' :: (name ++ ['\x7d']) <:+: cs := by
  induction cs with
  | nil =>
      constructor
      · intro _ name _ _ hinfix
        exact List.cons_ne_nil _ _ (List.infix_nil.mp hinfix)
      · intro _
        rfl
  | cons c cs ih =>
      by_cases hc : c = '\x7b'
      · subst hc
        cases hclosed : closedName? cs with
        | none =>
            rw [placeholders_brace_of_none hclosed, ih]
            refine forall₃_congr fun name hne hword => not_congr ?_
            have hprefix : ¬ '\x7b' :: (name ++ ['\x7d']) <+: '\x7b' :: cs := by
              intro hprefix
              obtain ⟨rest, rfl⟩ := (List.cons_prefix_cons.mp hprefix).2
              rw [List.append_assoc, List.singleton_append, closedName?_append hne hword] at hclosed
              cases hclosed
            rw [List.infix_cons_iff, or_iff_right hprefix]
        | some closed =>
            obtain ⟨name, rest⟩ := closed
            obtain ⟨hne, hword, hcs⟩ := closedName?_eq_some hclosed
            rw [placeholders_brace_of_some hclosed]
            constructor
            · intro h
              cases h
            · intro h
              have hinfix : '\x7b' :: (name ++ ['\x7d']) <:+: '\x7b' :: cs :=
                ⟨[], rest, by simp [hcs]⟩
              exact absurd hinfix (h name hne hword)
      · have hskip : placeholders (c :: cs) = placeholders cs := readAfter_cons_of_ne _ hc cs
        rw [hskip, ih]
        refine forall₃_congr fun name _ _ => not_congr ?_
        have hprefix : ¬ '\x7b' :: (name ++ ['\x7d']) <+: c :: cs := by
          intro hprefix
          exact hc (List.cons_prefix_cons.mp hprefix).1.symm
        rw [List.infix_cons_iff, or_iff_right hprefix]

/-- Without an opening brace there is no placeholder. -/
theorem placeholders_eq_nil_of_not_mem {cs : List Char} (h : '\x7b' ∉ cs) : placeholders cs = [] := by
  have hread := readAfter_append placeholder? h []
  rw [List.append_nil] at hread
  exact hread

/-! ## One pass is enough -/

/-- A closing brace comes after the first word of a pattern only if it does so in the path. -/
theorem head?_dropWhile_pattern {cs : List Char}
    (h : (cs.dropWhile isWordChar).head? ≠ some '\x7d') :
    ((pattern cs).dropWhile isWordChar).head? ≠ some '\x7d' := by
  have hbrace : isWordChar '\x7b' = false := by decide
  have hcolon : isWordChar ':' = false := by decide
  induction cs using pattern.induct with
  | case1 =>
      rw [pattern]
      exact h
  | case2 cs name rest hname ih =>
      rw [pattern_brace_of_some hname]
      simp [hcolon]
  | case3 cs hname ih =>
      rw [pattern_brace_of_none hname]
      simp [hbrace]
  | case4 c cs hc ih =>
      rw [pattern_cons_of_ne hc]
      cases hword : isWordChar c with
      | true =>
          rw [List.dropWhile_cons_of_pos hword] at h ⊢
          exact ih h
      | false =>
          rw [List.dropWhile_cons_of_neg (by simp [hword])] at h ⊢
          exact h

/-- A pattern closes no name where its path closes none. -/
theorem closedName?_pattern {cs : List Char} (h : closedName? cs = none) :
    closedName? (pattern cs) = none := by
  rw [closedName?_eq_ite, takeWhile_pattern]
  rw [closedName?_eq_ite] at h
  split at h
  · cases h
  · next hopen =>
      apply if_neg
      rintro ⟨hne, hclosed⟩
      have hhead : (cs.dropWhile isWordChar).head? ≠ some '\x7d' := fun hhead => hopen ⟨hne, hhead⟩
      exact head?_dropWhile_pattern hhead hclosed

/-- **No placeholder is left.** -/
theorem placeholders_pattern (cs : List Char) : placeholders (pattern cs) = [] := by
  induction cs using pattern.induct with
  | case1 =>
      rw [pattern]
      rfl
  | case2 cs name rest hname ih =>
      have hbrace : '\x7b' ∉ ':' :: name := by
        rw [List.mem_cons, not_or]
        exact ⟨by decide, not_mem_of_closedName? hname (by decide)⟩
      have hskip : placeholders (':' :: (name ++ pattern rest)) = placeholders (pattern rest) :=
        readAfter_append placeholder? hbrace (pattern rest)
      rw [pattern_brace_of_some hname, hskip, ih]
  | case3 cs hname ih =>
      rw [pattern_brace_of_none hname, placeholders_brace_of_none (closedName?_pattern hname), ih]
  | case4 c cs hc ih =>
      have hskip : placeholders (c :: pattern cs) = placeholders (pattern cs) :=
        readAfter_cons_of_ne _ hc _
      rw [pattern_cons_of_ne hc, hskip, ih]

/-- A text without placeholders is its own pattern. -/
theorem pattern_eq_self {cs : List Char} (h : placeholders cs = []) : pattern cs = cs := by
  induction cs using pattern.induct with
  | case1 => rw [pattern]
  | case2 cs name rest hname ih =>
      rw [placeholders_brace_of_some hname] at h
      cases h
  | case3 cs hname ih =>
      rw [placeholders_brace_of_none hname] at h
      rw [pattern_brace_of_none hname, ih h]
  | case4 c cs hc ih =>
      have hrest : placeholders cs = [] := (readAfter_cons_of_ne _ hc cs).symm.trans h
      rw [pattern_cons_of_ne hc, ih hrest]

/-- A second pass changes nothing. -/
theorem pattern_pattern (cs : List Char) : pattern (pattern cs) = pattern cs :=
  pattern_eq_self (placeholders_pattern cs)

/-! ## Paths that may have parameters -/

/-- A path without parameters has neither a brace nor a colon. -/
theorem not_mem_of_hasParameters_eq_false {path : String} (h : hasParameters path = false) :
    '\x7b' ∉ path.toList ∧ ':' ∉ path.toList := by
  rw [hasParameters, List.any_eq_false] at h
  constructor
  · intro hmem
    exact h _ hmem rfl
  · intro hmem
    exact h _ hmem rfl

/-- A path without opening braces and colons is its own route. -/
theorem ofPath_eq_self {path : String} (h : hasParameters path = false) : ofPath path = path := by
  have hnone := placeholders_eq_nil_of_not_mem (not_mem_of_hasParameters_eq_false h).1
  rw [ofPath, pattern_eq_self hnone, String.ofList_toList]

/-- A route with a colon is that of a path that may have parameters. -/
theorem hasParameters_of_mem_ofPath {path : String} (h : ':' ∈ (ofPath path).toList) :
    hasParameters path = true := by
  by_contra hnone
  have hnone : hasParameters path = false := by simpa using hnone
  rw [ofPath_eq_self hnone] at h
  exact (not_mem_of_hasParameters_eq_false hnone).2 h

end MockScaffold.Route
