import Mathlib.Data.List.Nodup
import MockScaffold.Document.MocksModule

/-!
# Texts in the order of first occurrence

`MocksModule.insertNew`, folded over a list, keeps every text at its first place.  The fold commutes
with what is done to the texts one by one: with dropping some of them, and with rewriting them by a
map that tells them apart.
-/

namespace MockScaffold.MocksModule

/-- What is there already is not put in again. -/
theorem insertNew_of_mem {texts : List String} {s : String} (h : s ∈ texts) :
    insertNew texts s = texts := by
  rw [insertNew, if_pos (List.contains_iff_mem.mpr h)]

/-- What is new is put at the end. -/
theorem insertNew_of_not_mem {texts : List String} {s : String} (h : s ∉ texts) :
    insertNew texts s = texts ++ [s] := by
  rw [insertNew, if_neg fun hc => h (List.contains_iff_mem.mp hc)]

/-- Afterwards there is what was there, and the new text. -/
theorem mem_insertNew {texts : List String} {s t : String} :
    t ∈ insertNew texts s ↔ t ∈ texts ∨ t = s := by
  by_cases hs : s ∈ texts
  · rw [insertNew_of_mem hs]
    exact ⟨Or.inl, fun ht => ht.elim id fun heq => heq ▸ hs⟩
  · simp [insertNew_of_not_mem hs]

/-- The same for many texts, one after the other. -/
theorem mem_foldl_insertNew {texts new : List String} {t : String} :
    t ∈ new.foldl insertNew texts ↔ t ∈ texts ∨ t ∈ new := by
  induction new generalizing texts with
  | nil => simp
  | cons s rest ih => rw [List.foldl_cons, ih, mem_insertNew, List.mem_cons, or_assoc]

/-- No text is there twice. -/
theorem nodup_insertNew {texts : List String} (h : texts.Nodup) (s : String) :
    (insertNew texts s).Nodup := by
  by_cases hs : s ∈ texts
  · rwa [insertNew_of_mem hs]
  · rw [insertNew_of_not_mem hs]
    refine List.nodup_append.mpr ⟨h, List.nodup_singleton s, ?_⟩
    intro a ha b hb heq
    exact hs (List.mem_singleton.mp hb ▸ heq ▸ ha)

/-- Nor after many. -/
theorem nodup_foldl_insertNew {texts : List String} (h : texts.Nodup) (new : List String) :
    (new.foldl insertNew texts).Nodup := by
  induction new generalizing texts with
  | nil => exact h
  | cons s rest ih => exact ih (nodup_insertNew h s)

/-- What the fold adds are the new texts, without repetitions. -/
theorem foldl_insertNew (texts new : List String) :
    new.foldl insertNew texts = texts ++ (new.filter (!texts.contains ·)).eraseDups := by
  induction new generalizing texts with
  | nil => simp
  | cons s rest ih =>
      rw [List.foldl_cons, ih]
      by_cases hs : s ∈ texts
      · simp [insertNew_of_mem hs, hs]
      · have hfilter : rest.filter (!(texts ++ [s]).contains ·) =
            (rest.filter (!texts.contains ·)).filter (!· == s) := by
          rw [List.filter_filter]
          refine List.filter_congr fun t _ => ?_
          simp [Bool.and_comm, beq_eq_decide]
        rw [insertNew_of_not_mem hs, hfilter, List.filter_cons_of_pos (by simpa using hs),
          List.eraseDups_cons, List.append_assoc, List.singleton_append]

/-- Starting from nothing, this is removing repetitions. -/
theorem foldl_insertNew_nil (texts : List String) :
    texts.foldl insertNew [] = texts.eraseDups := by
  simp [foldl_insertNew]

/-- Choosing before putting in is choosing afterwards. -/
theorem filter_insertNew (p : String → Bool) (texts : List String) (s : String) :
    (insertNew texts s).filter p =
      if p s = true then insertNew (texts.filter p) s else texts.filter p := by
  by_cases hs : s ∈ texts
  · rw [insertNew_of_mem hs]
    split
    · next hp => rw [insertNew_of_mem (List.mem_filter.mpr ⟨hs, hp⟩)]
    · rfl
  · rw [insertNew_of_not_mem hs, List.filter_append]
    split
    · next hp =>
        rw [insertNew_of_not_mem fun h => hs (List.mem_filter.mp h).1]
        simp [hp]
    · next hp => simp [hp]

/-- Dropping some texts leaves the others in the order of first occurrence. -/
theorem filter_foldl_insertNew (p : String → Bool) (texts new : List String) :
    (new.foldl insertNew texts).filter p = (new.filter p).foldl insertNew (texts.filter p) := by
  induction new generalizing texts with
  | nil => rfl
  | cons s rest ih =>
      rw [List.foldl_cons, ih, filter_insertNew, List.filter_cons]
      split
      · rw [List.foldl_cons]
      · rfl

/-- So does rewriting them, if no two of them become one. -/
theorem map_foldl_insertNew {f : String → String} {texts new : List String}
    (hf : ∀ s ∈ texts ++ new, ∀ t ∈ texts ++ new, f s = f t → s = t) :
    (new.foldl insertNew texts).map f = (new.map f).foldl insertNew (texts.map f) := by
  induction new generalizing texts with
  | nil => rfl
  | cons s rest ih =>
      have hmem : f s ∈ texts.map f ↔ s ∈ texts := by
        constructor
        · intro h
          obtain ⟨t, ht, heq⟩ := List.mem_map.mp h
          exact hf t (by simp [ht]) s (by simp) heq ▸ ht
        · exact List.mem_map_of_mem
      have hstep : (insertNew texts s).map f = insertNew (texts.map f) (f s) := by
        by_cases hs : s ∈ texts
        · rw [insertNew_of_mem hs, insertNew_of_mem (hmem.mpr hs)]
        · rw [insertNew_of_not_mem hs, insertNew_of_not_mem (mt hmem.mp hs), List.map_append,
            List.map_singleton]
      have hsub : ∀ t ∈ insertNew texts s ++ rest, t ∈ texts ++ s :: rest := by
        intro t ht
        rcases List.mem_append.mp ht with ht | ht
        · rcases mem_insertNew.mp ht with ht | rfl
          · simp [ht]
          · simp
        · simp [ht]
      rw [List.foldl_cons, ih fun a ha b hb => hf a (hsub a ha) b (hsub b hb), hstep, List.map_cons,
        List.foldl_cons]

end MockScaffold.MocksModule
