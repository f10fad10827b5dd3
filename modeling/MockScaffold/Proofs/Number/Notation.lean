import Mathlib.Data.List.DropRight
import MockScaffold.Number.Notation
import MockScaffold.Proofs.Number.Digits

/-!
# The texts of finite numbers

A finite number is written as a numeral with a fraction, an exponent or both, behind a sign if it
is negative (`toList_write_of_finite`).  The layout only chooses between the two forms, and the key
fact for both is `shortest_digits_pos`: the shortest decimal of a number other than zero has a digit
other than zero, so that one comes first and is kept.
-/

namespace MockScaffold.Double

/-! ## The shortest decimal is not zero -/

/-- The numbers that round to a positive one are positive. -/
theorem roundingInterval_low_pos {mantissa : Nat} (hm : 0 < mantissa) (exponent : Int) :
    0 < (roundingInterval mantissa exponent).low := by
  simp only [roundingInterval]
  split <;> omega

/-- An interval above zero does not hold zero. -/
theorem not_holds_zero {i : Interval} (hlow : 0 < i.low) (k : Int) : i.holds 0 k = false := by
  have hpos : 0 < i.low * Nat.pow 2 i.exponent.toNat * Nat.pow 10 (-k).toNat :=
    Nat.mul_pos (Nat.mul_pos hlow (Nat.two_pow_pos _)) (Nat.pow_pos (by decide))
  simp only [Interval.holds, scalePair, Nat.zero_mul]
  split
  · rw [decide_eq_false (Nat.not_le.mpr hpos), Bool.false_and]
  · rw [decide_eq_false (Nat.not_lt_zero _), Bool.false_and]

/-- A decimal that is taken for a positive number is positive. -/
theorem decimal?_digits_pos {i : Interval} (hlow : 0 < i.low) {top : Int} {count : Nat}
    {d : Decimal} (h : i.decimal? top count = some d) : 0 < d.digits := by
  simp only [Interval.decimal?] at h
  generalize (scalePair i.value i.exponent 1 (top - count + 1)) = scaled at h
  generalize top - count + 1 = k at h
  generalize hbelow : scaled.1 / scaled.2 = below at h
  cases below with
  | zero =>
      -- zero is not held, so the decimal above is taken
      rw [not_holds_zero hlow] at h
      simp only [Bool.false_and, Bool.false_or, Bool.false_eq_true, if_false, Nat.zero_add] at h
      split at h <;> cases h
      exact Nat.one_pos
  | succ n =>
      split at h
      · cases h
        have hpos : ∀ lower : Bool, 0 < if lower then n + 1 else n + 1 + 1 := by
          intro lower
          cases lower <;> exact Nat.succ_pos _
        exact hpos _
      · cases h

/-- So the shortest of them has a digit other than zero. -/
theorem shortest_digits_pos {mantissa : Nat} (hm : 0 < mantissa) (exponent : Int) :
    0 < (shortest mantissa exponent).digits := by
  unfold shortest
  cases hfound : (List.range 17).findSome? fun n =>
      (roundingInterval mantissa exponent).decimal?
        (decimalExponent (roundingInterval mantissa exponent).value
          (roundingInterval mantissa exponent).exponent) (n + 1) with
  | none => simpa [hfound] using hm
  | some d =>
      obtain ⟨n, _, hd⟩ := List.exists_of_findSome?_eq_some hfound
      simpa [hfound] using decimal?_digits_pos (roundingInterval_low_pos hm exponent) hd

/-- The digits of a positive decimal, without the zeros at its end, start with one that is not a
zero. -/
theorem normalize_digits {d : Decimal} (hd : 0 < d.digits) :
    ∃ c cs, d.normalize.1 = c :: cs ∧ c ≠ '0' ∧ ∀ x ∈ c :: cs, x.isDigit = true := by
  have hkept : d.normalize.1 = (Nat.toDigits 10 d.digits).rdropWhile (· == '0') := by
    simp [Decimal.normalize, List.rdropWhile]
  have hprefix : d.normalize.1 <+: Nat.toDigits 10 d.digits := hkept ▸ List.rdropWhile_prefix _ _
  have hfirst := head?_toDigits hd
  cases h : d.normalize.1 with
  | nil =>
      rw [h] at hkept
      have hzeros := List.rdropWhile_eq_nil_iff.mp hkept.symm
      cases hdigits : Nat.toDigits 10 d.digits with
      | nil => exact absurd hdigits Nat.toDigits_ne_nil
      | cons c cs =>
          rw [hdigits] at hfirst hzeros
          exact absurd (by simpa using hzeros c List.mem_cons_self) (hfirst c rfl)
  | cons c cs =>
      rw [h] at hprefix
      obtain ⟨rest, hrest⟩ := hprefix
      refine ⟨c, cs, rfl, hfirst c (by rw [← hrest]; rfl), fun x hx => ?_⟩
      exact isDigit_of_mem_toDigits (hrest ▸ List.mem_append_left rest hx)

/-! ## The two forms -/

/-- Nothing, or a point and digits. -/
inductive FractionText : List Char → Prop
  | none : FractionText []
  | some {c : Char} {cs : List Char} (hdigits : ∀ d ∈ c :: cs, d.isDigit = true) :
      FractionText ('.' :: c :: cs)

/-- Nothing, or the letter of an exponent, a sign and digits. -/
inductive ExponentText : List Char → Prop
  | none : ExponentText []
  | some {sign c : Char} {cs : List Char} (hsign : sign = '-' ∨ sign = '+')
      (hdigits : ∀ d ∈ c :: cs, d.isDigit = true) : ExponentText ('e' :: sign :: c :: cs)

/-- A numeral with a fraction, an exponent or both. -/
inductive DecimalText : List Char → Prop
  | mk {whole fraction exponent : List Char} (hwhole : Numeral whole)
      (hfraction : FractionText fraction) (hexponent : ExponentText exponent)
      (hsome : fraction ≠ [] ∨ exponent ≠ []) : DecimalText (whole ++ (fraction ++ exponent))

/-- A numeral, a point and digits. -/
theorem DecimalText.positional {whole fraction : List Char} (hwhole : Numeral whole)
    (hne : fraction ≠ []) (hfraction : ∀ c ∈ fraction, c.isDigit = true) :
    DecimalText (whole ++ '.' :: fraction) := by
  cases fraction with
  | nil => exact absurd rfl hne
  | cons c cs =>
      have hdecimal := DecimalText.mk hwhole (.some hfraction) .none (Or.inl (List.cons_ne_nil _ _))
      simpa using hdecimal

/-- Zero is written with a point and two zeros. -/
theorem DecimalText.zero : DecimalText "0.0".toList :=
  .positional .zero (List.cons_ne_nil _ _) (List.forall_mem_singleton.mpr rfl)

/-- A row of zeros is one of digits. -/
theorem isDigit_of_mem_zeros {n : Nat} {c : Char} (hc : c ∈ List.replicate n '0') :
    c.isDigit = true :=
  List.eq_of_mem_replicate hc ▸ rfl

/-- Digits written in place are a decimal text, wherever the point falls: after all of them, before
all of them, where zeros fill the gap, or among them. -/
theorem decimalText_plainDigits {c : Char} {cs : List Char} (hfirst : c ≠ '0')
    (hdigits : ∀ d ∈ c :: cs, d.isDigit = true) (exponent : Int) :
    DecimalText (plainDigits (c :: cs) exponent) := by
  unfold plainDigits
  split
  · have hall : ∀ d ∈ (c :: cs) ++ List.replicate exponent.toNat '0', d.isDigit = true := by
      intro d hd
      rcases List.mem_append.mp hd with hd | hd
      · exact hdigits d hd
      · exact isDigit_of_mem_zeros hd
    exact .positional (.digits hfirst hall) (List.cons_ne_nil _ _) (List.forall_mem_singleton.mpr rfl)
  · next hneg =>
      generalize hplaces : (-exponent).toNat = places
      have hpositive : 0 < places := by omega
      dsimp only
      generalize hpadded : List.replicate (places + 1 - (c :: cs).length) '0' ++ (c :: cs) = padded
      have hall : ∀ d ∈ padded, d.isDigit = true := by
        subst hpadded
        intro d hd
        rcases List.mem_append.mp hd with hd | hd
        · exact isDigit_of_mem_zeros hd
        · exact hdigits d hd
      have hlength : padded.length = places + 1 - (c :: cs).length + (c :: cs).length := by
        rw [← hpadded, List.length_append, List.length_replicate]
      refine .positional ?_ ?_ fun d hd => hall d (List.mem_of_mem_drop hd)
      · by_cases hshort : (c :: cs).length ≤ places
        · -- zeros were put in front, and one of them is the integer part
          have hone : padded.length - places = 1 := by omega
          have hcount : places + 1 - (c :: cs).length = places - (c :: cs).length + 1 := by omega
          rw [hone, ← hpadded, hcount, List.replicate_succ]
          exact .zero
        · have hcount : places + 1 - (c :: cs).length = 0 := by omega
          obtain ⟨n, hn⟩ := Nat.exists_eq_add_one_of_ne_zero
            (show padded.length - places ≠ 0 by omega)
          rw [hn, ← hpadded, hcount, List.replicate_zero, List.nil_append, List.take_succ_cons]
          refine .digits hfirst fun d hd => hdigits d ?_
          exact List.mem_of_mem_take (List.take_succ_cons ▸ hd)
      · intro hnil
        have := congrArg List.length hnil
        rw [List.length_drop, List.length_nil] at this
        omega

/-- So are digits written with an exponent, whose sign is always given and which has two digits at
least. -/
theorem decimalText_scientificDigits {c : Char} {cs : List Char} (hfirst : c ≠ '0')
    (hdigits : ∀ d ∈ c :: cs, d.isDigit = true) (top : Int) :
    DecimalText (scientificDigits (c :: cs) top) := by
  obtain ⟨hc, hcs⟩ := List.forall_mem_cons.mp hdigits
  have hwhole : Numeral [c] := .digits hfirst (by simpa using hc)
  generalize htext : (toString top.natAbs).toList = magnitude
  have hmagnitude : ∀ d ∈ magnitude, d.isDigit = true := by
    intro d hd
    rw [← htext] at hd
    exact isDigit_of_mem_toDigits (by simpa using hd)
  generalize hpadded : (if magnitude.length < 2 then '0' :: magnitude else magnitude) = padded
  have hexponent : ExponentText ('e' :: (if top < 0 then '-' else '+') :: padded) := by
    have hsign : (if top < 0 then '-' else '+') = '-' ∨ (if top < 0 then '-' else '+') = '+' := by
      split <;> simp
    split at hpadded
    · subst hpadded
      exact .some hsign (List.forall_mem_cons.mpr ⟨rfl, hmagnitude⟩)
    · next hlong =>
        subst hpadded
        cases magnitude with
        | nil => exact absurd (by decide) hlong
        | cons d ds => exact .some hsign hmagnitude
  have hsome : ∀ fraction, FractionText fraction → DecimalText (c :: (fraction ++ _)) :=
    fun _ hfraction => .mk hwhole hfraction hexponent (Or.inr (List.cons_ne_nil _ _))
  subst hpadded
  rw [scientificDigits, htext]
  cases cs with
  | nil => exact hsome [] .none
  | cons d ds => exact hsome ('.' :: d :: ds) (.some hcs)

/-- The sign of a negative number. -/
def signText (negative : Bool) : List Char := if negative then ['-'] else []

/-- A finite number is written as a sign and a decimal. -/
theorem toList_write_of_finite (layout : Layout) {x : Double} {negative : Bool} {mantissa : Nat}
    {exponent : Int} (hx : x.value = .finite negative mantissa exponent) :
    ∃ cs, DecimalText cs ∧ (x.write layout).toList = signText negative ++ cs := by
  have hsign : ∀ s : String,
      (if negative then "-" ++ s else s).toList = signText negative ++ s.toList := by
    intro s
    cases negative <;> simp [signText]
  unfold write
  rw [hx]
  cases mantissa with
  | zero => exact ⟨_, .zero, hsign "0.0"⟩
  | succ m =>
      have hpos := shortest_digits_pos (Nat.succ_pos m) exponent
      obtain ⟨c, cs, hkept, hfirst, hdigits⟩ := normalize_digits hpos
      cases hnormalized : (shortest (m + 1) exponent).normalize with
      | mk kept place =>
          rw [hnormalized] at hkept
          subst hkept
          simp only [hnormalized]
          refine ⟨_, ?_, (hsign _).trans (by rw [String.toList_ofList])⟩
          split
          · exact decimalText_plainDigits hfirst hdigits _
          · exact decimalText_scientificDigits hfirst hdigits _

end MockScaffold.Double
