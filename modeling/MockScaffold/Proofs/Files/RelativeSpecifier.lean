import MockScaffold.Proofs.Files.ImportSpecifier

/-!
# Specifiers that are relative

A resolver takes a specifier for a path relative to the importing module if it starts with `./` or
with `../`, and for the name of a package otherwise.  Which of the two a specifier is shows in its
parts (`isRelative_iff`), and so in the first name between the two places: `..` with more to come is
good, and a name of a directory or file is if the specifier gets `./` in front.  A name that starts
with a point does not get it.

The main statement is `isRelative_typesModule_iff`: the specifier of the types is relative unless
they are hidden, that is, the first name on the way down from the mock handlers to the types starts
with a point.
-/

namespace MockScaffold

/-- Whether a resolver reads a specifier as a relative path. -/
def IsRelative (cs : List Char) : Prop := ['.', '/'] <+: cs ∨ ['.', '.', '/'] <+: cs

instance (cs : List Char) : Decidable (IsRelative cs) :=
  inferInstanceAs (Decidable (['.', '/'] <+: cs ∨ ['.', '.', '/'] <+: cs))

/-- Whether a name starts with a point. -/
def IsHidden (name : List Char) : Prop := name.head? = some '.'

/-! ## Relative texts by their parts -/

/-- A text starts with a part and a slash if the part is the first of several. -/
theorem append_slash_prefix_iff {part : List Char} (hpart : '/' ∉ part) {cs : List Char} :
    part ++ ['/'] <+: cs ↔ ∃ rest, rest ≠ [] ∧ cs.splitOn '/' = part :: rest := by
  constructor
  · intro h
    obtain ⟨tail, rfl⟩ := h
    refine ⟨tail.splitOn '/', List.splitOn_ne_nil '/' tail, ?_⟩
    rw [List.append_assoc, List.singleton_append]
    exact List.splitOn_append_cons_self_of_not_mem hpart tail
  · intro h
    obtain ⟨rest, hne, hsplit⟩ := h
    obtain ⟨next, rest, rfl⟩ := List.exists_cons_of_ne_nil hne
    have hjoin : List.intercalate ['/'] (cs.splitOn '/') = cs := List.intercalate_splitOn '/'
    rw [hsplit, List.intercalate_cons_cons] at hjoin
    exact ⟨_, hjoin⟩

/-- A specifier is relative when the first of its names, before a slash, is `.` or `..`. -/
theorem isRelative_iff {cs : List Char} : IsRelative cs ↔
    ∃ first rest, cs.splitOn '/' = first :: rest ∧ rest ≠ [] ∧ (first = ['.'] ∨ first = up) := by
  have hpoint : ['.'] ++ ['/'] <+: cs ↔ _ := append_slash_prefix_iff (by decide)
  have hup : up ++ ['/'] <+: cs ↔ _ := append_slash_prefix_iff (by decide)
  constructor
  · intro h
    rcases h with h | h
    · obtain ⟨rest, hne, hsplit⟩ := hpoint.mp h
      exact ⟨_, rest, hsplit, hne, Or.inl rfl⟩
    · obtain ⟨rest, hne, hsplit⟩ := hup.mp h
      exact ⟨_, rest, hsplit, hne, Or.inr rfl⟩
  · intro h
    obtain ⟨first, rest, hsplit, hne, hfirst⟩ := h
    rcases hfirst with rfl | rfl
    · exact Or.inl (hpoint.mpr ⟨rest, hne, hsplit⟩)
    · exact Or.inr (hup.mpr ⟨rest, hne, hsplit⟩)

/-! ## Specifiers by their names -/

/-- A specifier has a point in front just when its first name does not start with one. -/
theorem splitOn_specifierOfNames_cons {name : List Char} {rest : List (List Char)}
    (hne : name ≠ []) (h : ∀ part ∈ name :: rest, '/' ∉ part) :
    (specifierOfNames (name :: rest)).splitOn '/' =
      if name.head? = some '.' then name :: rest else ['.'] :: name :: rest := by
  have hhead : (List.intercalate ['/'] (name :: rest)).head? = name.head? := by
    obtain ⟨c, cs, rfl⟩ := List.exists_cons_of_ne_nil hne
    cases rest with
    | nil => rfl
    | cons next rest =>
        rw [List.intercalate_cons_cons]
        rfl
  have hsplit : (List.intercalate ['/'] (name :: rest)).splitOn '/' = name :: rest :=
    List.splitOn_intercalate '/' h (List.cons_ne_nil name rest)
  simp only [specifierOfNames, hhead]
  split
  · exact hsplit
  · have hpoint : '/' ∉ ['.'] := by decide
    rw [← List.singleton_append, List.splitOn_append_cons_self_of_not_mem hpoint, hsplit]

/-- A specifier is relative if its first name does not start with a point, or leads up to more. -/
theorem isRelative_specifierOfNames_iff {name : List Char} {rest : List (List Char)}
    (hname : isName name = true) (h : ∀ part ∈ name :: rest, '/' ∉ part) :
    IsRelative (specifierOfNames (name :: rest)) ↔ ¬ IsHidden name ∨ name = up ∧ rest ≠ [] := by
  simp only [isName, Bool.and_eq_true, decide_eq_true_eq] at hname
  rw [isRelative_iff, splitOn_specifierOfNames_cons hname.1.1 h]
  by_cases hhidden : name.head? = some '.'
  · rw [if_pos hhidden]
    simp [IsHidden, hhidden, hname.1.2, and_comm]
  · rw [if_neg hhidden]
    simp [IsHidden, hhidden]

/-! ## The first name between two places -/

/-- Downwards, the names between two places are those of the target. -/
theorem namesBetween_append (start rest : List (List Char)) :
    namesBetween start (start ++ rest) = rest := by
  induction start with
  | nil => cases rest <;> rfl
  | cons s start ih => rw [List.cons_append, namesBetween, if_pos rfl, ih]

/-- Between places of which neither is above the other, the way leads up at first, and on. -/
theorem exists_namesBetween_eq_up {start target : List (List Char)} (hdown : ¬ start <+: target)
    (hup : ¬ target <+: start) : ∃ rest, rest ≠ [] ∧ namesBetween start target = up :: rest := by
  induction start generalizing target with
  | nil => exact absurd List.nil_prefix hdown
  | cons s start ih =>
      cases target with
      | nil => exact absurd List.nil_prefix hup
      | cons t target =>
          by_cases heq : s = t
          · subst heq
            rw [List.cons_prefix_cons] at hdown hup
            rw [namesBetween, if_pos rfl]
            exact ih (fun h => hdown ⟨rfl, h⟩) (fun h => hup ⟨rfl, h⟩)
          · refine ⟨List.replicate start.length up ++ t :: target, by simp, ?_⟩
            rw [namesBetween, if_neg heq, List.replicate_succ]
            rfl

/-- Whether the way from a directory down to a place starts with a name that starts with a point. -/
def IsHiddenBelow (directory place : List (List Char)) : Prop :=
  ∃ name rest, place = directory ++ name :: rest ∧ IsHidden name

/-- The specifier of a place that is not the directory itself, nor above it. -/
theorem isRelative_namesBetween_iff {directory place : List (List Char)}
    (hplace : IsDescending place) (hbeyond : ¬ place <+: directory) :
    IsRelative (specifierOfNames (namesBetween directory place)) ↔
      ¬ IsHiddenBelow directory place := by
  have hslash := slash_not_mem_namesBetween directory hplace
  by_cases hdown : directory <+: place
  · obtain ⟨below, rfl⟩ := hdown
    cases below with
    | nil => exact absurd (by simp) hbeyond
    | cons name rest =>
        have hname : LeadsDown name := hplace name (by simp)
        rw [namesBetween_append] at hslash ⊢
        rw [isRelative_specifierOfNames_iff hname.1 hslash]
        have hiff : IsHiddenBelow directory (directory ++ name :: rest) ↔ IsHidden name := by
          constructor
          · intro h
            obtain ⟨other, more, heq, hhidden⟩ := h
            obtain ⟨rfl, _⟩ := List.cons.inj (List.append_cancel_left heq)
            exact hhidden
          · exact fun h => ⟨name, rest, rfl, h⟩
        rw [hiff]
        simp [hname.2]
  · obtain ⟨rest, hne, hup⟩ := exists_namesBetween_eq_up hdown hbeyond
    rw [hup] at hslash ⊢
    have hrelative := (isRelative_specifierOfNames_iff (by decide) hslash).mpr (Or.inr ⟨rfl, hne⟩)
    refine iff_of_true hrelative fun h => hdown ?_
    obtain ⟨name, more, heq, _⟩ := h
    exact ⟨name :: more, heq.symm⟩

/-! ## The specifier of the types -/

/-- A stem that is not empty has a specifier, made of the names on the way to it. -/
theorem Artifacts.typesModule_eq (workingDirectory : Place) {config : Config} {stem : List Char}
    (hstem : IsStemOf stem config.typesPath.chars) (hne : stem ≠ []) :
    Artifacts.typesModule workingDirectory config =
      .ok (String.ofList (specifierOfNames (namesBetween
        (walkText workingDirectory config.mocksPath.parent.chars)
        (walkText workingDirectory stem)))) := by
  rw [Artifacts.typesModule, importSpecifier?, moduleStem_eq_iff.mpr hstem]
  cases stem with
  | nil => exact absurd rfl hne
  | cons c cs => rfl

/-- **When the specifier is relative.**  Let the path of the types have a stem that is not empty and
leads neither to the directory of the mock handlers nor above it.  Then the types have a specifier,
and it is relative just when they are not hidden below that directory. -/
theorem isRelative_typesModule_iff {workingDirectory : Place}
    (hdirectory : IsDescending workingDirectory) {config : Config} {stem : List Char}
    (hstem : IsStemOf stem config.typesPath.chars) (hne : stem ≠ [])
    (hbeyond : ¬ walkText workingDirectory stem <+:
      walkText workingDirectory config.mocksPath.parent.chars) :
    ∃ specifier, Artifacts.typesModule workingDirectory config = .ok specifier ∧
      (IsRelative specifier.toList ↔ ¬ IsHiddenBelow
        (walkText workingDirectory config.mocksPath.parent.chars)
        (walkText workingDirectory stem)) := by
  refine ⟨_, Artifacts.typesModule_eq workingDirectory hstem hne, ?_⟩
  rw [String.toList_ofList]
  exact isRelative_namesBetween_iff (isDescending_walkText hdirectory stem) hbeyond

/-- Mock handlers and types in two hidden directories of one hidden directory. -/
def hiddenDirectories : Config :=
  ⟨.ofText ".app/.mocks/handlers.ts", .ofText ".app/.types/api.d.ts", .firstWins, .union, none⟩

/-- From `/srv/.app/.mocks` the specifier leads up first, so it is relative. -/
theorem isRelative_typesModule_hiddenDirectories :
    IsDescending ["srv".toList] ∧
      IsStemOf ".app/.types/api".toList hiddenDirectories.typesPath.chars ∧
      ¬ walkText ["srv".toList] ".app/.types/api".toList <+:
        walkText ["srv".toList] hiddenDirectories.mocksPath.parent.chars ∧
      ∃ specifier, Artifacts.typesModule ["srv".toList] hiddenDirectories = .ok specifier ∧
        IsRelative specifier.toList := by
  have hdirectory : IsDescending ["srv".toList] := by decide
  have hstem : IsStemOf ".app/.types/api".toList hiddenDirectories.typesPath.chars :=
    Or.inl (by decide +kernel)
  have hstart : walkText ["srv".toList] hiddenDirectories.mocksPath.parent.chars =
      ["srv".toList, ".app".toList, ".mocks".toList] := by decide +kernel
  have htarget : walkText ["srv".toList] ".app/.types/api".toList =
      ["srv".toList, ".app".toList, ".types".toList, "api".toList] := by decide +kernel
  have hbeyond : ¬ walkText ["srv".toList] ".app/.types/api".toList <+:
      walkText ["srv".toList] hiddenDirectories.mocksPath.parent.chars := by
    rw [hstart, htarget]
    decide
  obtain ⟨specifier, hspecifier, hiff⟩ :=
    isRelative_typesModule_iff hdirectory hstem (by decide) hbeyond
  refine ⟨hdirectory, hstem, hbeyond, specifier, hspecifier, hiff.mpr fun h => ?_⟩
  obtain ⟨name, rest, heq, _⟩ := h
  rw [hstart, htarget] at heq
  simp at heq

/-- Types in a hidden file beside the mock handlers. -/
def hiddenTypes : Config :=
  ⟨.ofText "out/handlers.ts", .ofText "out/.types.ts", .firstWins, .firstElement, none⟩

/-- The specifier for `hiddenTypes` is `.types`, which names a package. -/
theorem not_isRelative_hiddenTypes :
    IsStemOf "out/.types".toList hiddenTypes.typesPath.chars ∧
      ¬ walkText [] "out/.types".toList <+: walkText [] hiddenTypes.mocksPath.parent.chars ∧
      Artifacts.typesModule [] hiddenTypes = .ok ".types" ∧ ¬ IsRelative ".types".toList :=
  ⟨moduleStem_eq_iff.mp (by decide +kernel), by decide +kernel, by decide +kernel, by decide⟩

end MockScaffold
