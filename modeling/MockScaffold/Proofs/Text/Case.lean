import MockScaffold.Text.Case

/-!
# Characters that a change of case brings in

Upper case brings in capital letters and characters beyond ASCII, and lower case small letters and
characters beyond ASCII.  Both are told by their tables alone (`eq_of_mem_mapCase`), which are
checked once.  So every other ASCII character of the result is one of the text
(`eq_of_mem_upperChar`, `mem_of_mem_lower`).
-/

namespace MockScaffold.Text

/-- What holds of the first 128 code points holds of every ASCII character. -/
theorem of_ascii {p : Char → Prop} (h : ∀ n < 128, p (Char.ofNat n)) {c : Char}
    (hc : c.toNat < 128) : p c := by
  have hchar := h c.toNat hc
  rw [Char.ofNat_toNat] at hchar
  exact hchar

theorem eq_toNat_of_ofNat_eq {n : Nat} {d : Char} (hd : 0 < d.toNat) (h : Char.ofNat n = d) :
    n = d.toNat := by
  by_cases hn : n.isValidChar
  · have hchar : Char.ofNat n = Char.ofNatAux n hn := dif_pos hn
    exact congrArg Char.toNat (hchar.symm.trans h)
  · have hchar : Char.ofNat n = '\x00' := dif_neg hn
    rw [← h, hchar] at hd
    exact absurd hd (by decide)

/-- Whether characters grow into no ASCII characters but those of an interval. -/
def ExpandsInto (least greatest : Nat) (expansions : List (Nat × List Nat)) : Prop :=
  ∀ e ∈ expansions, ∀ n ∈ e.2, n < 128 → least ≤ n ∧ n ≤ greatest

/-- Whether runs map to no ASCII characters but those of an interval. -/
def RunsInto (least greatest : Nat) (runs : List CaseRun) : Prop :=
  ∀ r ∈ runs, 128 ≤ (r.first : Int) + r.offset ∨
    (least : Int) ≤ (r.first : Int) + r.offset ∧ (r.last : Int) + r.offset ≤ greatest

section

variable {least greatest : Nat} {runs : List CaseRun} {expansions : List (Nat × List Nat)}

/-- An image under a run is an ASCII character only inside the interval. -/
theorem RunsInto.of_map? (hruns : RunsInto least greatest runs) {r : CaseRun} (hr : r ∈ runs)
    {n m : Nat} (hm : r.map? n = some m) (hlow : m < 128) : least ≤ m ∧ m ≤ greatest := by
  have hrun := hruns r hr
  unfold CaseRun.map? at hm
  split at hm
  · next hin =>
      simp only [Bool.and_eq_true, decide_eq_true_eq] at hin
      have hvalue := Option.some.inj hm
      omega
  · cases hm

/-- An ASCII character outside the interval is the image of itself alone. -/
theorem eq_of_mem_mapCase (hexpansions : ExpandsInto least greatest expansions)
    (hruns : RunsInto least greatest runs) {c d : Char} (hpos : 0 < d.toNat) (hlow : d.toNat < 128)
    (hout : ¬ (least ≤ d.toNat ∧ d.toNat ≤ greatest)) (h : d ∈ mapCase runs expansions c) :
    c = d := by
  unfold mapCase at h
  split at h
  · next image hlookup =>
      obtain ⟨n, hn, heq⟩ := List.mem_map.mp h
      obtain ⟨before, after, htable, _⟩ := List.lookup_eq_some_iff.mp hlookup
      have hmem : (c.toNat, image) ∈ expansions := by rw [htable]; simp
      obtain rfl := eq_toNat_of_ofNat_eq hpos heq
      exact absurd (hexpansions _ hmem _ hn hlow) hout
  · have heq := List.mem_singleton.mp h
    cases hrun : runs.findSome? (·.map? c.toNat) with
    | none => simpa [hrun] using heq.symm
    | some m =>
        obtain ⟨r, hr, hm⟩ := List.exists_of_findSome?_eq_some hrun
        have hchar : Char.ofNat m = d := by simpa [hrun] using heq.symm
        obtain rfl := eq_toNat_of_ofNat_eq hpos hchar
        exact absurd (hruns.of_map? hr hm hlow) hout

end

/-! ## Upper case -/

/-- The ASCII characters but for capital letters and the null character. -/
def isUncapital (c : Char) : Bool := 0 < c.toNat && c.toNat < 65 || 90 < c.toNat && c.toNat < 128

theorem upperExpansions_ascii : ExpandsInto 65 90 upperExpansions := by
  unfold ExpandsInto
  decide

theorem upperRuns_ascii : RunsInto 65 90 upperRuns := by
  unfold RunsInto
  decide +kernel

/-- The upper case of a character holds such a character only if it is the same. -/
theorem eq_of_mem_upperChar {c d : Char} (hd : isUncapital d = true) (h : d ∈ upperChar c) :
    c = d := by
  have hrange : 0 < d.toNat ∧ d.toNat < 128 ∧ ¬ (65 ≤ d.toNat ∧ d.toNat ≤ 90) := by
    simp only [isUncapital, Bool.or_eq_true, Bool.and_eq_true, decide_eq_true_eq] at hd
    omega
  obtain ⟨hpos, hlow, hcapital⟩ := hrange
  unfold upperChar at h
  split at h
  · next hc =>
      have hfixed : isUncapital c.toUpper = true → c = c.toUpper :=
        of_ascii (p := fun c => isUncapital c.toUpper = true → c = c.toUpper) (by decide) hc
      rw [List.mem_singleton.mp h] at hd ⊢
      exact hfixed hd
  · exact eq_of_mem_mapCase upperExpansions_ascii upperRuns_ascii hpos hlow hcapital h

/-! ## Lower case -/

/-- The ASCII characters but for small letters and the null character. -/
def isUnsmall (c : Char) : Bool := 0 < c.toNat && c.toNat < 97 || 122 < c.toNat && c.toNat < 128

theorem lowerExpansions_ascii : ExpandsInto 97 122 lowerExpansions := by
  unfold ExpandsInto
  decide

theorem lowerRuns_ascii : RunsInto 97 122 lowerRuns := by
  unfold RunsInto
  decide +kernel

/-- The lower case of a character holds such a character only if it is the same. -/
theorem eq_of_mem_lowerChar {c d : Char} (hd : isUnsmall d = true) (h : d ∈ lowerChar c) :
    c = d := by
  have hrange : 0 < d.toNat ∧ d.toNat < 128 ∧ ¬ (97 ≤ d.toNat ∧ d.toNat ≤ 122) := by
    simp only [isUnsmall, Bool.or_eq_true, Bool.and_eq_true, decide_eq_true_eq] at hd
    omega
  obtain ⟨hpos, hlow, hsmall⟩ := hrange
  unfold lowerChar at h
  split at h
  · next hc =>
      have hfixed : isUnsmall c.toLower = true → c = c.toLower :=
        of_ascii (p := fun c => isUnsmall c.toLower = true → c = c.toLower) (by decide) hc
      rw [List.mem_singleton.mp h] at hd ⊢
      exact hfixed hd
  · exact eq_of_mem_mapCase lowerExpansions_ascii lowerRuns_ascii hpos hlow hsmall h

/-- No character becomes an unsmall one in lower case; those found there were in the text. -/
theorem mem_of_mem_lowerAfter {d : Char} (hd : isUnsmall d = true) {before cs : List Char}
    (h : d ∈ lowerAfter before cs) : d ∈ cs := by
  induction cs generalizing before with
  | nil => exact absurd h List.not_mem_nil
  | cons c rest ih =>
      rcases List.mem_append.mp h with h | h
      · split at h
        · -- both forms of the small sigma are beyond ASCII
          split at h <;> rw [List.mem_singleton.mp h] at hd <;> cases hd
        · exact eq_of_mem_lowerChar hd h ▸ List.mem_cons_self
      · exact List.mem_cons_of_mem c (ih h)

/-- So does the lower case of a text. -/
theorem mem_of_mem_lower {d : Char} (hd : isUnsmall d = true) {s : String}
    (h : d ∈ (lower s).toList) : d ∈ s.toList := by
  rw [lower, String.toList_ofList] at h
  exact mem_of_mem_lowerAfter hd h

/-! ## Texts in ASCII -/

/-- The letters of ASCII by their codes. -/
theorem toNat_of_isAlpha {c : Char} (h : c.isAlpha = true) :
    65 ≤ c.toNat ∧ c.toNat ≤ 90 ∨ 97 ≤ c.toNat ∧ c.toNat ≤ 122 := by
  have hcase : (decide (65 ≤ c.val ∧ c.val ≤ 90) || (decide (97 ≤ c.val) && decide (c.val ≤ 122))) =
      true := h
  simp only [Bool.or_eq_true, Bool.and_eq_true, decide_eq_true_eq, UInt32.le_iff_toNat_le] at hcase
  exact hcase

/-- Only small letters of ASCII have another upper case. -/
theorem toUpper_of_not_ascii {c : Char} (h : 128 ≤ c.toNat) : c.toUpper = c := by
  unfold Char.toUpper
  rw [dif_neg]
  rintro ⟨_, hsmall⟩
  rw [UInt32.le_iff_toNat_le] at hsmall
  have hlow : c.toNat ≤ 122 := hsmall
  omega

/-- What does not tell small letters of ASCII from capitals does not see upper case. -/
theorem toUpper_congr {α : Type} {f : Char → α}
    (h : ∀ n < 128, f (Char.ofNat n).toUpper = f (Char.ofNat n)) (c : Char) :
    f c.toUpper = f c := by
  by_cases hc : c.toNat < 128
  · exact of_ascii (p := fun c => f c.toUpper = f c) h hc
  · rw [toUpper_of_not_ascii (by omega)]

/-- In ASCII, upper case twice is upper case, and a capital is one character. -/
theorem map_toUpper_capitalize {cs : List Char} (h : ∀ c ∈ cs, c.toNat < 128) :
    (capitalize cs).map Char.toUpper = cs.map Char.toUpper := by
  cases cs with
  | nil => rfl
  | cons c cs =>
      have hc : c.toNat < 128 := h c List.mem_cons_self
      have hupper : c.toUpper.toUpper = c.toUpper :=
        of_ascii (p := fun c => c.toUpper.toUpper = c.toUpper) (by decide) hc
      rw [capitalize, upperChar, if_pos hc, List.singleton_append, List.map_cons, hupper,
        List.map_cons]

/-- In ASCII, lower case does not depend on the characters around. -/
theorem lowerAfter_of_ascii {cs : List Char} (h : ∀ c ∈ cs, c.toNat < 128) (before : List Char) :
    lowerAfter before cs = cs.map Char.toLower := by
  induction cs generalizing before with
  | nil => rfl
  | cons c cs ih =>
      obtain ⟨hc, hcs⟩ := List.forall_mem_cons.mp h
      have hsigma : c ≠ 'Σ' := by
        rintro rfl
        exact absurd hc (by decide)
      rw [lowerAfter, if_neg hsigma, lowerChar, if_pos hc, ih hcs, List.singleton_append,
        List.map_cons]

end MockScaffold.Text
