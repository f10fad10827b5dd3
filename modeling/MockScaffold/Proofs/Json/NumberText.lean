import MockScaffold.Json.Reader
import MockScaffold.Proofs.Number.Notation

/-!
# Numbers read back

A number is read up to the first character that cannot continue it, and what follows a value in a
text is such a character (`Follows`).  So the digits of an integer are read as the integer, and the
text of a finite number, which has a fraction or an exponent, as a floating-point number.
-/

namespace MockScaffold.Json

open Double

/-- What may follow a value: a blank, a comma, a closing bracket or brace, or the end. -/
def Follows (rest : List Char) : Prop :=
  ∀ c ∈ rest.head?, isSpace c = true ∨ c = ',' ∨ c = ']' ∨ c = '}'

/-- The end of the text may follow a number. -/
theorem Follows.nil : Follows [] := by simp [Follows]

/-- So may a blank, a comma and a closing bracket. -/
theorem Follows.cons {c : Char} {rest : List Char}
    (hc : isSpace c = true ∨ c = ',' ∨ c = ']' ∨ c = '}') : Follows (c :: rest) := by
  simpa [Follows] using hc

/-- What follows a value starts with a character of no number. -/
theorem Follows.cases {rest : List Char} (h : Follows rest) :
    rest = [] ∨ ∃ c cs, rest = c :: cs ∧ c.isDigit = false ∧ c ≠ '.' ∧ c ≠ 'e' ∧ c ≠ 'E' := by
  cases rest with
  | nil => exact Or.inl rfl
  | cons c cs =>
      refine Or.inr ⟨c, cs, rfl, ?_⟩
      have hc := h c rfl
      simp only [isSpace, Bool.or_eq_true, beq_iff_eq] at hc
      rcases hc with (((hc | hc) | hc) | hc) | hc | hc | hc <;> subst hc <;> decide

/-- No digit may. -/
theorem Follows.noDigitNext {rest : List Char} (h : Follows rest) : NoDigitNext rest := by
  rcases h.cases with rfl | ⟨c, cs, rfl, hc, _⟩
  · exact .nil
  · exact .cons hc

/-! ## The parts of a number -/

/-- The integer part is read up to where no digit follows. -/
theorem wholePart?_append {whole rest : List Char} (hwhole : Numeral whole)
    (hrest : NoDigitNext rest) : wholePart? (whole ++ rest) = some (whole, rest) := by
  cases hwhole with
  | zero => rfl
  | @digits c cs hfirst hdigits =>
      have hspan := span_isDigit hdigits hrest
      rw [List.cons_append] at hspan ⊢
      rw [wholePart?, if_pos (hdigits c List.mem_cons_self), hspan]
      exact hfirst

/-- Without a point there is no fraction. -/
theorem fractionPart?_eq_none {rest : List Char} (h : '.' ∉ rest.head?) :
    fractionPart? rest = none := by
  unfold fractionPart?
  split
  · exact absurd rfl h
  · rfl

/-- What may follow a number is no exponent. -/
theorem exponentPart?_eq_none {rest : List Char} (h : Follows rest) :
    exponentPart? rest = none := by
  rcases h.cases with rfl | ⟨c, cs, rfl, _, _, he, hE⟩
  · rfl
  · rw [exponentPart?, if_neg (by simp [he, hE])]

/-- After an exponent or none, neither a digit nor a point follows. -/
theorem head?_exponent_append {exponent rest : List Char} (h : ExponentText exponent)
    (hrest : Follows rest) : NoDigitNext (exponent ++ rest) ∧ '.' ∉ (exponent ++ rest).head? := by
  cases h with
  | none =>
      rcases hrest.cases with rfl | ⟨c, cs, rfl, hc, hpoint, _⟩
      · exact ⟨.nil, by simp⟩
      · exact ⟨.cons hc, by simpa using hpoint⟩
  | some => exact ⟨.cons rfl, by simp⟩

/-- A fraction starts with its point, if there is one. -/
theorem noDigitNext_fraction_append {fraction rest : List Char} (h : FractionText fraction)
    (hrest : NoDigitNext rest) : NoDigitNext (fraction ++ rest) := by
  cases h with
  | none => exact hrest
  | some => exact .cons rfl

/-- A fraction is read up to its end. -/
theorem fractionPart?_append {fraction : List Char} (h : FractionText fraction) :
    ∃ digits, ∀ rest, NoDigitNext rest → '.' ∉ rest.head? →
      fractionPart? (fraction ++ rest) = if fraction = [] then none else some (digits, rest) := by
  cases h with
  | none => exact ⟨[], fun rest _ hpoint => fractionPart?_eq_none hpoint⟩
  | @some c cs hdigits =>
      refine ⟨c :: cs, ?_⟩
      intro rest hrest _
      have hspan := span_isDigit hdigits hrest
      have hc : c.isDigit = true := hdigits c List.mem_cons_self
      rw [List.cons_append] at hspan
      rw [List.cons_append, List.cons_append, fractionPart?, if_pos hc, hspan,
        if_neg (List.cons_ne_nil _ _)]

/-- An exponent is read up to its end. -/
theorem exponentPart?_append {exponent : List Char} (h : ExponentText exponent) :
    ∃ n, ∀ rest, Follows rest →
      exponentPart? (exponent ++ rest) = if exponent = [] then none else some (n, rest) := by
  cases h with
  | none => exact ⟨0, fun rest hrest => exponentPart?_eq_none hrest⟩
  | @some sign c cs hsign hdigits =>
      refine ⟨if sign = '-' then -ofAsciiDigits (c :: cs) else ofAsciiDigits (c :: cs), ?_⟩
      intro rest hrest
      have hspan := span_isDigit hdigits hrest.noDigitNext
      rw [List.cons_append] at hspan
      rw [if_neg (List.cons_ne_nil _ _)]
      rcases hsign with rfl | rfl
      · simp only [exponentPart?, splitSign, List.cons_append, hspan]
        rfl
      · simp only [exponentPart?, splitSign, List.cons_append, hspan]
        rfl

/-! ## Numbers -/

/-- The digits of an integer are read as the integer. -/
theorem readNumber_integer (start : List Char) (negative : Bool) {n : Nat}
    (hn : n < Nat.pow 10 digitLimit) {rest : List Char} (hrest : Follows rest) :
    readNumber start negative (Nat.toDigits 10 n ++ rest) =
      .ok (.int (if negative then -n else n), rest) := by
  have hfraction : fractionPart? rest = none := by
    rcases hrest.cases with rfl | ⟨c, cs, rfl, _, hpoint, _⟩
    · rfl
    · exact fractionPart?_eq_none (by simpa using hpoint)
  have hshort : ¬ digitLimit < (Nat.toDigits 10 n).length := by
    rw [Nat.pow_eq, ← Nat.length_toDigits_le_iff (by decide) (by decide)] at hn
    exact Nat.not_lt.mpr hn
  unfold readNumber
  rw [wholePart?_append (numeral_toDigits n) hrest.noDigitNext]
  simp [hfraction, exponentPart?_eq_none hrest, if_neg hshort, ofAsciiDigits_toDigits]

/-- A decimal is read as a floating-point number. -/
theorem readNumber_decimal (negative : Bool) {cs : List Char} (hcs : DecimalText cs) :
    ∃ x, ∀ start rest, Follows rest →
      readNumber start negative (cs ++ rest) = .ok (.float x, rest) := by
  cases hcs with
  | @mk whole fraction exponent hwhole hfraction hexponent hsome =>
      obtain ⟨digits, hdigits⟩ := fractionPart?_append hfraction
      obtain ⟨n, hn⟩ := exponentPart?_append hexponent
      refine ⟨ofDecimal negative (ofAsciiDigits (whole ++ if fraction = [] then [] else digits))
        ((if exponent = [] then 0 else n) - (if fraction = [] then [] else digits).length), ?_⟩
      intro start rest hrest
      obtain ⟨hnodigit, hpoint⟩ := head?_exponent_append hexponent hrest
      rw [readNumber, List.append_assoc, List.append_assoc,
        wholePart?_append hwhole (noDigitNext_fraction_append hfraction hnodigit)]
      have hdigits := hdigits _ hnodigit hpoint
      have hn := hn rest hrest
      by_cases hf : fraction = []
      · have he : exponent ≠ [] := hsome.resolve_left (fun h => h hf)
        simp only [hf, he, if_true, if_false, List.nil_append] at hdigits hn ⊢
        simp [hdigits, hn]
      · by_cases he : exponent = []
        · simp only [hf, he, if_true, if_false, List.nil_append] at hdigits hn ⊢
          simp [hdigits, hn]
        · simp only [hf, he, if_false] at hdigits hn ⊢
          simp [hdigits, hn]

/-! ## Literals -/

/-- A text that starts with a digit, or with a sign and a digit, is none of the words. -/
theorem find?_words_eq_none {c : Char} (hc : c.isDigit = true) (negative : Bool) (cs : List Char) :
    words.find? (fun w => w.1.isPrefixOf (signText negative ++ c :: cs)) = none := by
  have hne : ∀ d : Char, d.isDigit = false → d ≠ c := by
    rintro d hd rfl
    rw [hc] at hd
    cases hd
  cases negative <;>
    simp [words, signText, hne 'n' rfl, hne 't' rfl, hne 'f' rfl, hne 'N' rfl, hne 'I' rfl,
      hne '-' rfl]

/-- Behind a sign or none, what starts with a digit is read as a number. -/
theorem readLiteral_of_isDigit {c : Char} (hc : c.isDigit = true) (negative : Bool)
    (cs : List Char) :
    readLiteral (signText negative ++ c :: cs) =
      readNumber (signText negative ++ c :: cs) negative (c :: cs) := by
  unfold readLiteral
  rw [find?_words_eq_none hc]
  cases negative with
  | true => rfl
  | false =>
      simp only [signText, Bool.false_eq_true, if_false, List.nil_append]
      split
      · next h =>
          have hminus : c = '-' := List.head_eq_of_cons_eq h
          rw [hminus] at hc
          cases hc
      · rfl

/-- A number without sign starts with a digit. -/
theorem exists_isDigit_of_numeral {whole : List Char} (h : Numeral whole) (rest : List Char) :
    ∃ c cs, c.isDigit = true ∧ whole ++ rest = c :: cs := by
  cases h with
  | zero => exact ⟨'0', rest, rfl, rfl⟩
  | @digits c cs _ hdigits => exact ⟨c, cs ++ rest, hdigits c List.mem_cons_self, rfl⟩

/-- A decimal text starts with a digit. -/
theorem exists_isDigit_of_decimalText {cs : List Char} (h : DecimalText cs) (rest : List Char) :
    ∃ c cs', c.isDigit = true ∧ cs ++ rest = c :: cs' := by
  cases h with
  | mk hwhole =>
      rw [List.append_assoc]
      exact exists_isDigit_of_numeral hwhole _

/-- An integer is written as its sign and its digits. -/
theorem toList_toString_int (n : Int) :
    (toString n).toList = signText (decide (n < 0)) ++ Nat.toDigits 10 n.natAbs := by
  rw [Int.toString_eq_repr, Int.repr_eq_if]
  by_cases hn : n < 0
  · have habs : (-n).toNat = n.natAbs := by omega
    rw [if_neg (Int.not_le.mpr hn), String.toList_append, Nat.toList_repr, habs, decide_eq_true hn]
    rfl
  · have habs : n.toNat = n.natAbs := by omega
    rw [if_pos (Int.not_lt.mp hn), Nat.toList_repr, habs, decide_eq_false hn]
    rfl

/-- The text of an integer is read as the integer. -/
theorem readLiteral_toString {n : Int} (hn : n.natAbs < Nat.pow 10 digitLimit) {rest : List Char}
    (hrest : Follows rest) : readLiteral ((toString n).toList ++ rest) = .ok (.int n, rest) := by
  obtain ⟨c, cs, hc, hcs⟩ := exists_isDigit_of_numeral (numeral_toDigits n.natAbs) rest
  have hvalue : (if decide (n < 0) = true then -(n.natAbs : Int) else n.natAbs) = n := by
    by_cases hneg : n < 0
    · rw [decide_eq_true hneg, if_pos rfl]
      omega
    · rw [decide_eq_false hneg, if_neg Bool.false_ne_true]
      omega
  rw [toList_toString_int, List.append_assoc, hcs, readLiteral_of_isDigit hc, ← hcs,
    readNumber_integer _ _ hn hrest, hvalue]

/-- The text of a number is one of three words, or a sign and a decimal. -/
theorem write_cases (x : Double) :
    x.write jsonLayout ∈ ["NaN", "Infinity", "-Infinity"] ∨
      ∃ negative cs, DecimalText cs ∧ (x.write jsonLayout).toList = signText negative ++ cs := by
  cases hx : x.value with
  | nan => exact Or.inl (by simp [write, hx, jsonLayout])
  | infinite negative =>
      refine Or.inl ?_
      cases negative <;> simp [write, hx, jsonLayout]
  | finite negative mantissa exponent =>
      exact Or.inr ⟨negative, toList_write_of_finite jsonLayout hx⟩

/-- The number that the text of a number is read as. -/
def reread (x : Double) : Double :=
  match readLiteral (x.write jsonLayout).toList with
  | .ok (.float y, _) => y
  | _ => x

/-- The text of a number is read as one number, whatever follows. -/
theorem readLiteral_write (x : Double) {rest : List Char} (hrest : Follows rest) :
    readLiteral ((x.write jsonLayout).toList ++ rest) = .ok (.float (reread x), rest) := by
  suffices h : ∃ y, ∀ rest, Follows rest →
      readLiteral ((x.write jsonLayout).toList ++ rest) = .ok (.float y, rest) by
    obtain ⟨y, hy⟩ := h
    have hend := hy [] .nil
    rw [List.append_nil] at hend
    rw [hy rest hrest, reread, hend]
  rcases write_cases x with hword | ⟨negative, cs, hcs, htext⟩
  · simp only [List.mem_cons, List.not_mem_nil, or_false] at hword
    rcases hword with hword | hword | hword <;> exact ⟨_, fun rest _ => by rw [hword]; rfl⟩
  · obtain ⟨y, hy⟩ := readNumber_decimal negative hcs
    refine ⟨y, ?_⟩
    intro rest hrest
    obtain ⟨c, cs', hc, hcs'⟩ := exists_isDigit_of_decimalText hcs rest
    rw [htext, List.append_assoc, hcs', readLiteral_of_isDigit hc, ← hcs', hy _ rest hrest]

end MockScaffold.Json
