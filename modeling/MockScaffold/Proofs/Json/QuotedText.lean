import MockScaffold.Json.Printer
import MockScaffold.Json.Reader

/-!
# String literals read back

`Json.quote` writes a text as a string literal and `Json.readString` reads one.  The key fact is
`readString_escapeChar`: what stands for one character is read as that character, whatever
follows, as long as anything follows.  So a literal is read back as its text (`readString_quote`),
and a text is told from the literal it starts (`quote_append_inj`).
-/

namespace MockScaffold.Text

/-- A digit that is written is read back. -/
theorem hexDigit?_digitChar : ∀ d < 16, hexDigit? (Nat.digitChar d) = some d := by decide

/-- Hexadecimal places read back as the value they can hold. -/
theorem ofHex?_hex (places n : Nat) : ofHex? (hex places n) = some (n % Nat.pow 16 places) := by
  unfold ofHex?
  induction places generalizing n with
  | zero => simp [hex, Nat.mod_one]
  | succ k ih =>
      have hpow : Nat.pow 16 (k + 1) = 16 * Nat.pow 16 k := Nat.pow_succ'
      have hvalue : 16 * (n / 16 % Nat.pow 16 k) + n % 16 = n % Nat.pow 16 (k + 1) := by
        rw [hpow, Nat.mod_mul, Nat.add_comm]
      have hdigit := hexDigit?_digitChar (n % 16) (Nat.mod_lt _ (by decide))
      simpa [hex, List.foldlM_append, ih, hdigit] using hvalue

end MockScaffold.Text

namespace MockScaffold.Json

/-- Four places spell a unit wherever a further character follows. -/
theorem unit?_hex {n : Nat} (hn : n < 0x20) {rest : List Char} (hrest : rest ≠ []) :
    unit? (Text.hex 4 n ++ rest) = some n := by
  have hlen : 4 < (Text.hex 4 n ++ rest).length := by
    have := List.length_pos_iff.mpr hrest
    rw [List.length_append, Text.length_hex]
    omega
  have htake : (Text.hex 4 n ++ rest).take 4 = Text.hex 4 n :=
    List.take_left' (Text.length_hex 4 n)
  rw [unit?, if_pos hlen, htake, Text.ofHex?_hex, Nat.mod_eq_of_lt (Nat.lt_trans hn (by decide))]

/-- The reader passes over the characters that an escape has taken. -/
theorem readString_taken (start done taken rest : List Char) :
    readString start done taken.length (taken ++ rest) = readString start done 0 rest := by
  induction taken with
  | nil => rfl
  | cons c cs ih => exact ih

/-- An escape is read as its character. -/
theorem readString_escape {start done code rest : List Char} {c : Char}
    (h : readEscape start (code ++ rest) = .ok (c, code.length)) :
    readString start done 0 ('\\' :: code ++ rest) = readString start (c :: done) 0 rest := by
  rw [List.cons_append, readString]
  simp only [h, if_neg (by decide : ¬ '\\' = '"'), if_true]
  exact readString_taken start (c :: done) code rest

/-- What stands for one character is read as that character. -/
theorem readString_escapeChar (start done : List Char) (c : Char) {rest : List Char}
    (hrest : rest ≠ []) :
    readString start done 0 (escapeChar c ++ rest) = readString start (c :: done) 0 rest := by
  unfold escapeChar
  -- one case for each of the escapes of a letter, then the escape by number, then a plain character
  split
  · next h => subst h; exact readString_escape rfl
  split
  · next h => subst h; exact readString_escape rfl
  split
  · next h => subst h; exact readString_escape rfl
  split
  · next h => subst h; exact readString_escape rfl
  split
  · next h => subst h; exact readString_escape rfl
  split
  · next h => subst h; exact readString_escape rfl
  split
  · next h => subst h; exact readString_escape rfl
  split
  · next hlow =>
      apply readString_escape
      have hsurrogate : Text.isHighSurrogate c.toNat = false := by
        simp only [Text.isHighSurrogate, Bool.and_eq_false_imp, decide_eq_true_eq]
        omega
      have hchar : Text.unitChar c.toNat = c := by
        rw [Text.unitChar, if_pos (show c.toNat.isValidChar from c.valid), Char.ofNat_toNat]
      rw [List.cons_append, readEscape]
      simp only [unit?_hex hlow hrest, hsurrogate, hchar, List.length_cons, Text.length_hex]
  · next hquote hslash _ _ _ _ _ hlow =>
      rw [List.singleton_append, readString, if_neg hquote, if_neg hslash, if_neg hlow]

/-- The inside of a literal is read as the text it stands for. -/
theorem readString_flatMap (start done cs rest : List Char) :
    readString start done 0 (cs.flatMap escapeChar ++ '"' :: rest) =
      .ok (String.ofList (done.reverse ++ cs), rest) := by
  induction cs generalizing done with
  | nil => simp [readString]
  | cons c cs ih =>
      rw [List.flatMap_cons, List.append_assoc, readString_escapeChar start done c (by simp), ih]
      simp

/-- A quoted text is its characters, escaped one by one, between two marks. -/
theorem toList_quote (s : String) :
    (quote s).toList = '"' :: (s.toList.flatMap escapeChar ++ ['"']) := by
  simp [quote]

/-- A line feed is always escaped. -/
theorem newline_not_mem_escapeChar (c : Char) : '\n' ∉ escapeChar c := by
  have hhex : ∀ places n, '\n' ∉ Text.hex places n := by
    intro places n
    induction places generalizing n with
    | zero => exact List.not_mem_nil
    | succ k ih => simp [Text.hex, ih]
  unfold escapeChar
  repeat' split
  all_goals simp_all [Ne.symm]

/-- A literal stands on one line. -/
theorem newline_not_mem_quote (s : String) : '\n' ∉ (quote s).toList := by
  simp [toList_quote, newline_not_mem_escapeChar]

/-- A literal is read back as its text, wherever it stands. -/
theorem readString_quote (start : List Char) (s : String) (rest : List Char) :
    readString start [] 0 (s.toList.flatMap escapeChar ++ '"' :: rest) = .ok (s, rest) := by
  rw [readString_flatMap, List.reverse_nil, List.nil_append, String.ofList_toList]

/-- A literal at the start of a text can be told from the rest. -/
theorem quote_append_inj {s t : String} {x y : List Char}
    (h : (quote s).toList ++ x = (quote t).toList ++ y) : s = t ∧ x = y := by
  simp only [toList_quote, List.cons_append, List.append_assoc, List.nil_append,
    List.cons.injEq, true_and] at h
  have hread := readString_quote [] s x
  rw [h, readString_quote [] t y] at hread
  exact Prod.mk.inj (Except.ok.inj hread.symm)

end MockScaffold.Json
