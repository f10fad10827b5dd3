import Mathlib.Data.List.TakeDrop
import MockScaffold.Number.Digits

/-!
# Digits read back

A run of digits is read as far as it goes, so its end is known wherever no digit follows.  The key
facts are `span_isDigit`, which reads a run off the text it starts, and `ofAsciiDigits_toDigits`,
which takes the digits of a natural number back to the number.
-/

namespace MockScaffold

/-- No digit follows. -/
def NoDigitNext (rest : List Char) : Prop := ∀ c ∈ rest.head?, c.isDigit = false

/-- At the end of the text no digit is next. -/
theorem NoDigitNext.nil : NoDigitNext [] := by simp [NoDigitNext]

/-- Nor is one before another character. -/
theorem NoDigitNext.cons {c : Char} {rest : List Char} (hc : c.isDigit = false) :
    NoDigitNext (c :: rest) := by
  simpa [NoDigitNext] using hc

/-- A run of digits is read up to its end. -/
theorem span_isDigit {digits rest : List Char} (hdigits : ∀ c ∈ digits, c.isDigit = true)
    (hrest : NoDigitNext rest) : (digits ++ rest).span Char.isDigit = (digits, rest) := by
  have hnone : rest.takeWhile Char.isDigit = [] ∧ rest.dropWhile Char.isDigit = rest := by
    cases rest with
    | nil => exact ⟨rfl, rfl⟩
    | cons c rest =>
        have hc : c.isDigit = false := hrest c rfl
        simp [hc]
  rw [List.span_eq_takeWhile_dropWhile, List.takeWhile_append_of_pos hdigits,
    List.dropWhile_append_of_pos hdigits, hnone.1, hnone.2, List.append_nil]

/-- The value of digits is the library's. -/
theorem ofAsciiDigits_eq_ofDigitChars (cs : List Char) :
    ofAsciiDigits cs = Nat.ofDigitChars 10 cs 0 := by
  rw [ofAsciiDigits, ofDigitValues, List.foldl_map, Nat.ofDigitChars_eq_foldl]
  rfl

/-- The digits of a number read back as the number. -/
theorem ofAsciiDigits_toDigits (n : Nat) : ofAsciiDigits (Nat.toDigits 10 n) = n := by
  rw [ofAsciiDigits_eq_ofDigitChars, Nat.ofDigitChars_ten_toDigits]

/-- A number is written in digits. -/
theorem isDigit_of_mem_toDigits {n : Nat} {c : Char} (hc : c ∈ Nat.toDigits 10 n) :
    c.isDigit = true :=
  Nat.isDigit_of_mem_toDigits (by decide) (by decide) hc

/-- Digits without a superfluous zero: a run of digits that starts with a zero only if it is one. -/
inductive Numeral : List Char → Prop
  | zero : Numeral ['0']
  | digits {c : Char} {cs : List Char} (hfirst : c ≠ '0')
      (hdigits : ∀ d ∈ c :: cs, d.isDigit = true) : Numeral (c :: cs)

/-- The first of them is not zero, unless the number is. -/
theorem head?_toDigits {n : Nat} (hn : 0 < n) : ∀ c ∈ (Nat.toDigits 10 n).head?, c ≠ '0' := by
  induction n using Nat.strongRecOn with
  | ind n ih =>
      intro c hc
      by_cases hsmall : n < 10
      · rw [Nat.toDigits_of_lt_base hsmall, List.head?_cons, Option.mem_some_iff] at hc
        subst hc
        exact fun h => absurd (Nat.digitChar_eq_zero.mp h) (Nat.ne_of_gt hn)
      · rw [Nat.toDigits_of_base_le (by decide) (Nat.le_of_not_lt hsmall),
          List.head?_append, Option.or_of_isSome (by simp)] at hc
        exact ih (n / 10) (by omega) (by omega) c hc

/-- The digits of a number are a numeral. -/
theorem numeral_toDigits (n : Nat) : Numeral (Nat.toDigits 10 n) := by
  rcases Nat.eq_zero_or_pos n with rfl | hn
  · exact Nat.toDigits_zero 10 ▸ .zero
  · cases h : Nat.toDigits 10 n with
    | nil => exact absurd h Nat.toDigits_ne_nil
    | cons c cs =>
        have hfirst : c ≠ '0' := head?_toDigits hn c (by rw [h]; rfl)
        exact .digits hfirst fun d hd => isDigit_of_mem_toDigits (h ▸ hd)

/-- A numeral has digits only. -/
theorem Numeral.isDigit {cs : List Char} (h : Numeral cs) : ∀ c ∈ cs, c.isDigit = true := by
  cases h with
  | zero => exact List.forall_mem_singleton.mpr rfl
  | digits _ hdigits => exact hdigits

end MockScaffold
