import MockScaffold.Sample.Basic

/-!
# Entries of mappings

Entries are put into a mapping one after the other, and a key that is there keeps its place.  So
where no two keys are the same, as with texts that differ, they stand in the order in which they
were put (`putEntries_of_texts`).
-/

namespace MockScaffold

variable {α : Type}

/-- Texts that differ are different keys. -/
theorem Scalar.sameKey_text_of_ne {s t : String} (h : s ≠ t) :
    (text s).sameKey (text t) = false := by
  simpa [sameKey, asInt?] using h

/-- A new key is put at the end. -/
theorem putEntry_of_new {key : Scalar} {entries : List (Scalar × α)} (value : α)
    (h : ∀ e ∈ entries, e.1.sameKey key = false) :
    putEntry key value entries = entries ++ [(key, value)] := by
  induction entries with
  | nil => rfl
  | cons e rest ih =>
      obtain ⟨hhead, htail⟩ := List.forall_mem_cons.mp h
      rw [putEntry, hhead, ih htail]
      rfl

/-- Texts that differ are put one after the other. -/
theorem putEntries_of_texts {old new : List (Scalar × α)}
    (hkeys : ∀ e ∈ old ++ new, ∃ s, e.1 = .text s) (hdistinct : ((old ++ new).map (·.1)).Nodup) :
    putEntries old new = old ++ new := by
  induction new generalizing old with
  | nil => simp [putEntries]
  | cons e rest ih =>
      have hnew : ∀ f ∈ old, f.1.sameKey e.1 = false := by
        intro f hf
        obtain ⟨s, hs⟩ := hkeys f (List.mem_append_left _ hf)
        obtain ⟨t, ht⟩ := hkeys e (by simp)
        rw [List.map_append, List.map_cons] at hdistinct
        have hne : f.1 ≠ e.1 :=
          (List.nodup_append.mp hdistinct).2.2 _ (List.mem_map_of_mem hf) _ List.mem_cons_self
        rw [hs, ht] at hne ⊢
        exact Scalar.sameKey_text_of_ne fun heq => hne (by rw [heq])
      have hassoc : old ++ e :: rest = (old ++ [e]) ++ rest := by simp
      rw [hassoc] at hkeys hdistinct ⊢
      rw [← ih hkeys hdistinct, ← putEntry_of_new e.2 hnew]
      rfl

end MockScaffold
