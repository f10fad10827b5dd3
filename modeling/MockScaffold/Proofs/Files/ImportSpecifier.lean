import MockScaffold.Document.Artifacts
import MockScaffold.Proofs.Files.Walk

/-!
# Import specifiers lead back

A specifier is written from two places, that of the importing module's directory and that of the
imported module.  The main statement, `walk_typesModule`, is that its parts lead from the one to the
other.  The key fact is `exists_namesBetween`: the names between two places are as many `..` as the
start has names of its own, and then the target's own names.  Since those lead down, no `..` comes
after a name.
-/

namespace MockScaffold

/-! ## Names between two places -/

/-- Two places share the names above both; between them lie the other names of each. -/
theorem exists_namesBetween (start target : List (List Char)) :
    ∃ above below rest, start = above ++ below ∧ target = above ++ rest ∧
      namesBetween start target = List.replicate below.length up ++ rest := by
  induction start generalizing target with
  | nil => exact ⟨[], [], target, rfl, rfl, by cases target <;> rfl⟩
  | cons s start ih =>
      cases target with
      | nil => exact ⟨[], s :: start, [], rfl, rfl, rfl⟩
      | cons t target =>
          by_cases heq : s = t
          · obtain ⟨above, below, rest, rfl, rfl, hbetween⟩ := ih target
            refine ⟨t :: above, below, rest, by rw [heq]; rfl, rfl, ?_⟩
            rw [namesBetween, if_pos heq, hbetween]
          · refine ⟨[], s :: start, t :: target, rfl, rfl, ?_⟩
            rw [namesBetween, if_neg heq]
            rfl

/-- The names between two places lead from one to the other. -/
theorem walk_namesBetween (start : List (List Char)) {target : List (List Char)}
    (htarget : IsDescending target) : walk start (namesBetween start target) = target := by
  obtain ⟨above, below, rest, rfl, rfl, hbetween⟩ := exists_namesBetween start target
  have hrest : IsDescending rest := fun name hname => htarget name (List.mem_append_right _ hname)
  rw [hbetween, walk_append, walk_replicate_up, walk_of_isDescending hrest]

/-- No `..` comes after a name that leads down. -/
def ClimbsFirst (names : List (List Char)) : Prop :=
  names.Pairwise fun name later => LeadsDown name → later ≠ up

/-- The way between two places goes up first and down then. -/
theorem climbsFirst_namesBetween (start : List (List Char)) {target : List (List Char)}
    (htarget : IsDescending target) : ClimbsFirst (namesBetween start target) := by
  obtain ⟨above, below, rest, rfl, rfl, hbetween⟩ := exists_namesBetween start target
  rw [hbetween, ClimbsFirst, List.pairwise_append]
  refine ⟨?_, ?_, ?_⟩
  · exact List.pairwise_replicate.mpr (Or.inr fun hdown => absurd rfl hdown.2)
  · refine List.pairwise_of_forall_mem_list fun _ _ later hlater _ => ?_
    exact (htarget later (List.mem_append_right _ hlater)).2
  · intro name hname _ _ hdown
    exact absurd (List.eq_of_mem_replicate hname) hdown.2

/-! ## The text of a specifier -/

/-- None of the names on it has a slash. -/
theorem slash_not_mem_namesBetween (start : List (List Char)) {target : List (List Char)}
    (htarget : IsDescending target) : ∀ name ∈ namesBetween start target, '/' ∉ name := by
  obtain ⟨above, below, rest, rfl, rfl, hbetween⟩ := exists_namesBetween start target
  intro name hname
  rw [hbetween] at hname
  rcases List.mem_append.mp hname with hname | hname
  · rw [List.eq_of_mem_replicate hname]
    decide
  · exact (htarget name (List.mem_append_right _ hname)).slash_not_mem

/-- The parts of a specifier are its names, which a point may precede. -/
theorem splitOn_specifierOfNames {names : List (List Char)} (h : ∀ name ∈ names, '/' ∉ name) :
    (specifierOfNames names).splitOn '/' = names ∨
      (specifierOfNames names).splitOn '/' = ['.'] :: names := by
  unfold specifierOfNames
  split
  · exact Or.inr (by decide)
  · next hne =>
      have hsplit : (List.intercalate ['/'] names).splitOn '/' = names :=
        List.splitOn_intercalate '/' h hne
      dsimp only
      split
      · exact Or.inl hsplit
      · have hpoint : '/' ∉ ['.'] := by decide
        refine Or.inr ?_
        rw [← List.singleton_append, List.splitOn_append_cons_self_of_not_mem hpoint, hsplit]

/-- A point in front leads nowhere. -/
theorem walk_splitOn_specifierOfNames {names : List (List Char)} (h : ∀ name ∈ names, '/' ∉ name)
    (directory : List (List Char)) :
    walk directory ((specifierOfNames names).splitOn '/') = walk directory names := by
  rcases splitOn_specifierOfNames h with hsplit | hsplit
  · rw [hsplit]
  · rw [hsplit, walk_cons, walkName_of_not_isName (by decide) rfl]

/-- Written as a specifier, the way still goes up first. -/
theorem climbsFirst_splitOn_specifierOfNames {names : List (List Char)}
    (h : ∀ name ∈ names, '/' ∉ name) (hnames : ClimbsFirst names) :
    ClimbsFirst ((specifierOfNames names).splitOn '/') := by
  rcases splitOn_specifierOfNames h with hsplit | hsplit
  · rwa [hsplit]
  · rw [hsplit]
    have hpoint : ¬ LeadsDown ['.'] := fun hdown => absurd hdown.1 (by decide)
    exact List.pairwise_cons.mpr ⟨fun _ _ hdown => absurd hdown hpoint, hnames⟩

/-! ## Stems -/

/-- Characters without one `.d.ts` at their end, or else without one `.ts` there. -/
def IsStemOf (stem cs : List Char) : Prop :=
  cs = stem ++ ['.', 'd', '.', 't', 's'] ∨
    ¬ ['.', 'd', '.', 't', 's'] <:+ cs ∧
      (cs = stem ++ ['.', 't', 's'] ∨ ¬ ['.', 't', 's'] <:+ cs ∧ cs = stem)

/-- The stem of a module is told by how its file name ends. -/
theorem moduleStem_eq_iff {stem cs : List Char} : moduleStem cs = stem ↔ IsStemOf stem cs := by
  have hends (suffix : List Char) : suffix.isSuffixOf cs = decide (suffix <:+ cs) := by
    rw [Bool.eq_iff_iff, List.isSuffixOf_iff_suffix, decide_eq_true_iff]
  unfold moduleStem IsStemOf moduleSuffixes
  simp only [List.find?_cons, List.find?_nil, hends]
  by_cases hlong : ['.', 'd', '.', 't', 's'] <:+ cs
  · obtain ⟨start, rfl⟩ := hlong
    simp
  · have hne : cs ≠ stem ++ ['.', 'd', '.', 't', 's'] := by
      rintro rfl
      exact hlong (List.suffix_append _ _)
    by_cases hshort : ['.', 't', 's'] <:+ cs
    · simp only [hlong, hshort, hne, decide_true, decide_false, not_true, not_false_eq_true,
        false_and, or_false, true_and, false_or]
      obtain ⟨start, rfl⟩ := hshort
      simp
    · have hne' : cs ≠ stem ++ ['.', 't', 's'] := by
        rintro rfl
        exact hshort (List.suffix_append _ _)
      simp [hlong, hshort, hne, hne']

/-! ## The specifier of the types -/

/-- **The specifier leads back.**  If the path of the types has a stem that is not empty, the types
have a specifier.  From the directory of the mock handlers its parts lead to where the stem leads,
and no `..` among them comes after a name.  The place they lead to is told by names that lead down,
since the working directory is. -/
theorem walk_typesModule {workingDirectory : Place} (hdirectory : IsDescending workingDirectory)
    {config : Config} {stem : List Char} (hstem : IsStemOf stem config.typesPath.chars)
    (hne : stem ≠ []) :
    ∃ specifier, Artifacts.typesModule workingDirectory config = .ok specifier ∧
      walk (walkText workingDirectory config.mocksPath.parent.chars)
          (specifier.toList.splitOn '/') = walkText workingDirectory stem ∧
      IsDescending (walkText workingDirectory stem) ∧
      ClimbsFirst (specifier.toList.splitOn '/') := by
  have htarget := isDescending_walkText hdirectory stem
  have hslash := slash_not_mem_namesBetween
    (walkText workingDirectory config.mocksPath.parent.chars) htarget
  refine ⟨String.ofList (specifierOfNames (namesBetween
    (walkText workingDirectory config.mocksPath.parent.chars)
    (walkText workingDirectory stem))), ?_, ?_, htarget, ?_⟩
  · rw [Artifacts.typesModule, importSpecifier?, moduleStem_eq_iff.mpr hstem]
    cases stem with
    | nil => exact absurd rfl hne
    | cons c cs => rfl
  · rw [String.toList_ofList, walk_splitOn_specifierOfNames hslash, walk_namesBetween _ htarget]
  · rw [String.toList_ofList]
    exact climbsFirst_splitOn_specifierOfNames hslash (climbsFirst_namesBetween _ htarget)

/-- Mock handlers in a directory that the path leaves again, and types beside it. -/
def tangledPaths : Config :=
  ⟨.ofText "../app/./mocks/../tests/mocks.ts", .ofText "/srv/app/types/api.d.ts", .firstWins, .union,
    none⟩

/-- From `/srv/app/tests` the specifier leads up once and then down to `/srv/app/types/api`. -/
theorem walk_typesModule_tangledPaths :
    IsDescending ["srv".toList, "www".toList] ∧
      IsStemOf "/srv/app/types/api".toList tangledPaths.typesPath.chars ∧
      ∃ specifier, Artifacts.typesModule ["srv".toList, "www".toList] tangledPaths = .ok specifier ∧
        walk ["srv".toList, "app".toList, "tests".toList] (specifier.toList.splitOn '/') =
          ["srv".toList, "app".toList, "types".toList, "api".toList] := by
  have hdirectory : IsDescending ["srv".toList, "www".toList] := by decide
  have hstem : IsStemOf "/srv/app/types/api".toList tangledPaths.typesPath.chars :=
    Or.inl (by decide +kernel)
  have hstart : walkText ["srv".toList, "www".toList] tangledPaths.mocksPath.parent.chars =
      ["srv".toList, "app".toList, "tests".toList] := by decide +kernel
  have htarget : walkText ["srv".toList, "www".toList] "/srv/app/types/api".toList =
      ["srv".toList, "app".toList, "types".toList, "api".toList] := by decide +kernel
  obtain ⟨specifier, hspecifier, hwalk, _, _⟩ := walk_typesModule hdirectory hstem (by decide)
  rw [hstart, htarget] at hwalk
  exact ⟨hdirectory, hstem, specifier, hspecifier, hwalk⟩

end MockScaffold
