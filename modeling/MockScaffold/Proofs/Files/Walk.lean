import Mathlib.Data.List.Induction
import MockScaffold.Files.Path

/-!
# Where names lead

A walk over names gives each of them its meaning, one after the other.  A name that leads down is put
behind the directory (`walk_of_isDescending`), and as many `..` as there are such names lead back up
again (`walk_replicate_up`).  All other names vanish on the way, so that a text leads to names that
lead down, whatever it holds (`isDescending_walkText`).
-/

namespace MockScaffold

/-- The name that leads to the directory above. -/
def up : List Char := ['.', '.']

/-- Whether a name leads to a place one directory down. -/
def LeadsDown (name : List Char) : Prop := isName name = true ∧ name ≠ up

/-- Names that all lead down, as those of a place do. -/
def IsDescending (names : List (List Char)) : Prop := ∀ name ∈ names, LeadsDown name

instance (names : List (List Char)) : Decidable (IsDescending names) :=
  inferInstanceAs (Decidable (∀ name ∈ names, isName name = true ∧ name ≠ up))

/-- A name that leads down has no slash. -/
theorem LeadsDown.slash_not_mem {name : List Char} (h : LeadsDown name) : '/' ∉ name := by
  have hname := h.1
  simp only [isName, Bool.and_eq_true, Bool.not_eq_true', List.contains_eq_mem,
    decide_eq_false_iff_not] at hname
  exact hname.2

/-! ## One name -/

/-- The name `..` leads to the directory above. -/
theorem walkName_up (directory : List (List Char)) : walkName directory up = directory.dropLast :=
  rfl

/-- Names that lead nowhere are without slash, but not names of a path, nor `..`. -/
theorem walkName_of_not_isName {name : List Char} (hslash : '/' ∉ name) (h : isName name = false)
    (directory : List (List Char)) : walkName directory name = directory := by
  have hempty : name = [] ∨ name = ['.'] := by
    by_contra hne
    simp_all [isName]
  rw [walkName, if_pos hempty]

/-- A name that leads down is added to the place. -/
theorem walkName_of_leadsDown {name : List Char} (h : LeadsDown name)
    (directory : List (List Char)) : walkName directory name = directory ++ [name] := by
  obtain ⟨hname, hup⟩ := h
  simp only [isName, Bool.and_eq_true, decide_eq_true_eq] at hname
  rw [walkName, if_neg (not_or.mpr hname.1)]
  exact if_neg hup

/-- A name without slash leads from a place to a place. -/
theorem isDescending_walkName {directory : List (List Char)} (hdirectory : IsDescending directory)
    {name : List Char} (hslash : '/' ∉ name) : IsDescending (walkName directory name) := by
  cases hname : isName name with
  | false => rwa [walkName_of_not_isName hslash hname]
  | true =>
      by_cases hup : name = up
      · rw [hup, walkName_up]
        exact fun other hother => hdirectory other (List.dropLast_subset _ hother)
      · rw [walkName_of_leadsDown ⟨hname, hup⟩]
        intro other hother
        rcases List.mem_append.mp hother with hother | hother
        · exact hdirectory other hother
        · exact List.mem_singleton.mp hother ▸ ⟨hname, hup⟩

/-! ## Names one after the other -/

/-- A walk goes on from where its first name leads. -/
theorem walk_cons (directory : List (List Char)) (name : List Char) (rest : List (List Char)) :
    walk directory (name :: rest) = walk (walkName directory name) rest := rfl

/-- Two walks, one after the other. -/
theorem walk_append (directory names others : List (List Char)) :
    walk directory (names ++ others) = walk (walk directory names) others :=
  List.foldl_append

/-- A walk down adds all its names. -/
theorem walk_of_isDescending {names : List (List Char)} (h : IsDescending names)
    (directory : List (List Char)) : walk directory names = directory ++ names := by
  induction names generalizing directory with
  | nil => simp [walk]
  | cons name rest ih =>
      obtain ⟨hname, hrest⟩ := List.forall_mem_cons.mp h
      rw [walk_cons, walkName_of_leadsDown hname, ih hrest, List.append_assoc,
        List.singleton_append]

/-- As many steps up as there are names below lead above them. -/
theorem walk_replicate_up (above below : List (List Char)) :
    walk (above ++ below) (List.replicate below.length up) = above := by
  induction below using List.reverseRecOn with
  | nil => simp [walk]
  | append_singleton names last ih =>
      rw [List.length_append, List.length_singleton, List.replicate_succ, walk_cons, walkName_up,
        ← List.append_assoc, List.dropLast_concat, ih]

/-- Wherever a walk leads from a place, that is a place again. -/
theorem isDescending_walk {directory : List (List Char)} (hdirectory : IsDescending directory)
    {names : List (List Char)} (hslash : ∀ name ∈ names, '/' ∉ name) :
    IsDescending (walk directory names) := by
  induction names generalizing directory with
  | nil => exact hdirectory
  | cons name rest ih =>
      obtain ⟨hname, hrest⟩ := List.forall_mem_cons.mp hslash
      exact ih (isDescending_walkName hdirectory hname) hrest

/-! ## Texts -/

/-- The parts between separators hold none. -/
theorem not_mem_of_mem_splitOn {c : Char} {cs part : List Char} (h : part ∈ cs.splitOn c) :
    c ∉ part := by
  induction cs generalizing part with
  | nil =>
      rw [List.splitOn_nil, List.mem_singleton] at h
      simp [h]
  | cons d cs ih =>
      rw [List.splitOn_cons_eq_if_modifyHead] at h
      obtain ⟨first, rest, hparts⟩ := List.exists_cons_of_ne_nil (List.splitOn_ne_nil c cs)
      rw [hparts] at h ih
      split at h
      · rcases List.mem_cons.mp h with rfl | h
        · exact List.not_mem_nil
        · exact ih h
      · next hne =>
          rw [List.modifyHead_cons] at h
          rcases List.mem_cons.mp h with rfl | h
          · have hcd : c ≠ d := fun heq => hne (beq_iff_eq.mpr heq.symm)
            rw [List.mem_cons, not_or]
            exact ⟨hcd, ih List.mem_cons_self⟩
          · exact ih (List.mem_cons_of_mem _ h)

/-- Every text leads to a place. -/
theorem isDescending_walkText {workingDirectory : List (List Char)}
    (h : IsDescending workingDirectory) (cs : List Char) :
    IsDescending (walkText workingDirectory cs) := by
  have hstart : IsDescending (if cs.head? = some '/' then [] else workingDirectory) := by
    split
    · exact fun name hname => absurd hname List.not_mem_nil
    · exact h
  exact isDescending_walk hstart fun name hname => not_mem_of_mem_splitOn hname

end MockScaffold
