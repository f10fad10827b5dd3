import MockScaffold.Proofs.Files.Walk

/-!
# Characters of paths

Reading a path drops slashes and points, and nothing else: any other character is in the path just
when it is in the text (`FilePath.mem_chars_ofText_iff`).
-/

namespace MockScaffold

/-- Joining brings in the separator only. -/
theorem mem_intercalate_iff {c separator : Char} (hc : c ≠ separator) {parts : List (List Char)} :
    c ∈ List.intercalate [separator] parts ↔ ∃ part ∈ parts, c ∈ part := by
  induction parts with
  | nil => simp
  | cons part rest ih =>
      cases rest with
      | nil => simp
      | cons next rest =>
          rw [List.intercalate_cons_cons, List.mem_append, List.mem_append, ih]
          simp [hc]

namespace FilePath

/-- Other characters are kept by reading a path. -/
theorem mem_chars_ofText_iff {c : Char} (hslash : c ≠ '/') (hpoint : c ≠ '.') (s : String) :
    c ∈ (ofText s).chars ↔ c ∈ s.toList := by
  have hjoined : c ∈ s.toList ↔ ∃ part ∈ s.toList.splitOn '/', c ∈ part := by
    rw [← mem_intercalate_iff hslash, List.intercalate_splitOn]
  have hnames : (∃ name ∈ (ofText s).names, c ∈ name) ↔
      ∃ part ∈ s.toList.splitOn '/', c ∈ part := by
    constructor
    · rintro ⟨name, hname, hmem⟩
      exact ⟨name, (List.mem_filter.mp hname).1, hmem⟩
    · rintro ⟨part, hpart, hmem⟩
      have hinside : '/' ∉ part := not_mem_of_mem_splitOn hpart
      have hempty : part ≠ [] := List.ne_nil_of_mem hmem
      have hdot : part ≠ ['.'] := by
        intro heq
        exact hpoint (List.mem_singleton.mp (heq ▸ hmem))
      exact ⟨part, List.mem_filter.mpr ⟨hpart, by simp [isName, hinside, hempty, hdot]⟩, hmem⟩
  have hanchor : c ∉ (ofText s).anchor.text := by
    cases (ofText s).anchor <;> simp [Anchor.text, hslash]
  have hchars : c ∈ (ofText s).chars ↔
      c ∈ (ofText s).anchor.text ++ List.intercalate ['/'] (ofText s).names := by
    unfold chars
    split
    · next hnil => simp [hnil, hpoint]
    · rfl
  rw [hchars, List.mem_append, or_iff_right hanchor, mem_intercalate_iff hslash, hnames, hjoined]

end FilePath

end MockScaffold
