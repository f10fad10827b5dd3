import Mathlib.Data.List.TakeWhile
import MockScaffold.Proofs.Outcome
import MockScaffold.Yaml.Token

/-!
# What lexemes can be at fault for

Two lexemes hold numbers of their own: an escape in double quotes names a character by its code
point, and the directive of the version names the version.  They are the only lexemes that can be
in form and without a value (`LooseNumber`); whatever else is wrong with a lexeme is a fault of form.

The readers go through the text from left to right, so what remains of the text at any place is an
end of it (`Cursor.Within`).  A reading that starts at such a place stops at such a place, or it
finds a fault that is in the text (`Reads`), and this is kept when one reading goes on where another
one stopped (`Reads.bind`).  The results are one lemma for each lexeme, down to `reads_directive` for
the version and `reads_escapedCodePoint` for escapes, where the numbers are located.
-/

namespace MockScaffold.Yaml

/-- A number outside of scalars that has no value, with the place where the text has it. -/
inductive LooseNumber (text : List Char) : ValueFault → Prop
  /-- The escape of a character beyond the last code point. -/
  | escape {digits : List Char} {n : Nat} (hin : '\\' :: 'U' :: digits <:+: text)
      (hlength : digits.length = 8) (hvalue : Text.ofHex? digits = some n) (hlarge : 0x110000 ≤ n) :
      LooseNumber text (.codePoint n)
  /-- One of the two numbers of the version, with too many digits. -/
  | version {before digits : List Char} (hin : "%YAML".toList ++ before ++ digits <:+: text)
      (hbefore : ∀ c ∈ before, c = ' ' ∨ c = '.' ∨ c.isDigit = true)
      (hdigits : ∀ c ∈ digits, c.isDigit = true) (hlong : digitLimit < digits.length) :
      LooseNumber text (.digits (.reading digits.length))

/-! ## What remains of a text -/

namespace Cursor

/-- At a place of a text, what remains is an end of it. -/
def Within (text : List Char) (c : Cursor) : Prop := c.rest <:+ text

/-- One character on, one character less remains; nothing remains of nothing. -/
@[simp] theorem rest_next (c : Cursor) : c.next.rest = c.rest.tail := by
  unfold next
  split
  · next h => simp [h]
  · next h =>
      rw [h]
      split <;> rfl

/-- The next character and what remains after it. -/
theorem cons_rest_next {c : Cursor} {ch : Char} (h : c.peek = some ch) :
    ch :: c.next.rest = c.rest := by
  rw [rest_next]
  exact List.cons_head?_tail (by simpa [peek] using h)

/-- Skipping drops characters from the front. -/
@[simp] theorem rest_skip (n : Nat) (c : Cursor) : (c.skip n).rest = c.rest.drop n := by
  induction n generalizing c with
  | zero => rfl
  | succ n ih => rw [skip, ih, rest_next, List.drop_tail]

/-- A run of a class is what the text starts with of that class. -/
@[simp] theorem takeRun_fst (p : Char → Bool) (c : Cursor) :
    (c.takeRun p).1 = c.rest.takeWhile p := rfl

/-- After a run of a class, the text goes on with the first character outside of it. -/
@[simp] theorem rest_takeRun (p : Char → Bool) (c : Cursor) :
    (c.takeRun p).2.rest = c.rest.dropWhile p := by
  have hsplit : c.rest.takeWhile p ++ c.rest.dropWhile p = c.rest :=
    List.takeWhile_append_dropWhile
  calc (c.takeRun p).2.rest = c.rest.drop (c.rest.takeWhile p).length := rest_skip _ c
    _ = (c.rest.takeWhile p ++ c.rest.dropWhile p).drop (c.rest.takeWhile p).length := by
        rw [hsplit]
    _ = c.rest.dropWhile p := List.drop_left

/-- The same for a run that is passed over. -/
@[simp] theorem rest_skipRun (p : Char → Bool) (c : Cursor) :
    (c.skipRun p).rest = c.rest.dropWhile p := rest_takeRun p c

namespace Within

variable {text : List Char} {c d : Cursor}

/-- The next place is one of the text as well. -/
theorem next (h : c.Within text) : c.next.Within text := by
  rw [Within, rest_next]
  exact (List.tail_suffix c.rest).trans h

/-- So is every place further on. -/
theorem skip (h : c.Within text) (n : Nat) : (c.skip n).Within text := by
  rw [Within, rest_skip]
  exact (List.drop_suffix n c.rest).trans h

/-- A run ends at a place of the text. -/
theorem takeRun (h : c.Within text) (p : Char → Bool) : (c.takeRun p).2.Within text := h.skip _

/-- The same for a run that is passed over. -/
theorem skipRun (h : c.Within text) (p : Char → Bool) : (c.skipRun p).Within text := h.takeRun p

/-- A comment ends at a place of the text. -/
theorem skipComment (h : c.Within text) : c.skipComment.Within text := by
  unfold Cursor.skipComment
  split
  · exact h.skipRun _
  · exact h

/-- A line break, in one or two characters, ends at a place of the text. -/
theorem lineBreak? (h : c.Within text) {b : Char} (heq : c.lineBreak? = some (b, d)) :
    d.Within text := by
  unfold Cursor.lineBreak? at heq
  split at heq
  · cases heq
    exact h.skip 2
  · split at heq
    · cases heq
      exact h.next
    · cases heq
  · cases heq

end Within

end Cursor

/-! ## Readings -/

/-- A computation gives what has a property, or it fails with a fault of form or with one of the
faults of value for which there is a reason. -/
inductive Gives {α : Type} (reason : ValueFault → Prop) (p : α → Prop) : Except Fault α → Prop
  | ok {a : α} (h : p a) : Gives reason p (.ok a)
  | malformed (m : Malformed) : Gives reason p (.error (.malformed m))
  | value {v : ValueFault} (h : reason v) : Gives reason p (.error (.value v))

section

variable {α β : Type} {reason : ValueFault → Prop} {p : α → Prop} {q : β → Prop}
  {r : Except Fault α}

/-- A computation that uses what another one gave. -/
theorem Gives.bind {f : α → Except Fault β} (h : Gives reason p r)
    (hnext : ∀ a, r = .ok a → p a → Gives reason q (f a)) : Gives reason q (r >>= f) := by
  cases h with
  | ok h => exact hnext _ rfl h
  | malformed m => exact .malformed m
  | value h => exact .value h

/-- What is given has also whatever follows from the property. -/
theorem Gives.imp {p' : α → Prop} (h : Gives reason p r) (himp : ∀ a, p a → p' a) :
    Gives reason p' r := by
  cases h with
  | ok h => exact .ok (himp _ h)
  | malformed m => exact .malformed m
  | value h => exact .value h

/-- A choice between two computations. -/
theorem Gives.ite {c : Prop} [Decidable c] {s : Except Fault α} (hr : c → Gives reason p r)
    (hs : ¬ c → Gives reason p s) : Gives reason p (if c then r else s) := by
  split
  · next h => exact hr h
  · next h => exact hs h

/-- A fault of value has its reason. -/
theorem Gives.reason_of_eq (h : Gives reason p r) {v : ValueFault} (heq : r = .error (.value v)) :
    reason v := by
  subst heq
  cases h with
  | value h => exact h

/-- What is given has the property. -/
theorem Gives.of_eq_ok (h : Gives reason p r) {a : α} (heq : r = .ok a) : p a := by
  subst heq
  cases h with
  | ok h => exact h

end

/-- A reading of a text stops at a place of the text. -/
abbrev Reads {α : Type} (text : List Char) (r : Except Fault (α × Cursor)) : Prop :=
  Gives (LooseNumber text) (fun found => found.2.Within text) r

section

variable {α β : Type} {text : List Char}

/-- A reading that goes on where another one stopped. -/
theorem Reads.bind {r : Except Fault (α × Cursor)} {f : α × Cursor → Except Fault (β × Cursor)}
    (h : Reads text r) (hnext : ∀ a d, d.Within text → Reads text (f (a, d))) :
    Reads text (r >>= f) :=
  Gives.bind h fun found _ hd => hnext found.1 found.2 hd

/-- A reading whose value is changed. -/
theorem Reads.map {r : Except Fault (α × Cursor)} (h : Reads text r) (f : α → β) :
    Reads text (r.map fun found => (f found.1, found.2)) :=
  Reads.bind h fun _ _ hd => .ok hd

end

namespace Cursor

variable {text : List Char} {c : Cursor}

/-- The rest of a blank line ends at a place of the text; anything else there is a fault of form. -/
theorem gives_blankLine (hc : c.Within text) (fault : Malformed) :
    Gives (LooseNumber text) (Within text) (c.blankLine fault) := by
  have hplace := (hc.skipRun (· == ' ')).skipComment
  unfold blankLine
  dsimp only
  split
  · next heq => exact .ok (hplace.lineBreak? heq)
  · split
    · exact .ok hplace
    · exact .malformed _

/-! ## Names and tags -/

/-- The names of anchors and aliases. -/
theorem reads_anchorName (hc : c.Within text) : Reads text c.anchorName := by
  unfold anchorName
  dsimp only
  split
  · exact .ok (hc.next.takeRun _)
  · exact .malformed _

/-- The handles of tags. -/
theorem reads_tagHandle (hc : c.Within text) (fault : Malformed) :
    Reads text (c.tagHandle fault) := by
  unfold tagHandle
  dsimp only
  repeat' split
  · exact .malformed _
  · exact .ok hc.next
  · exact .ok (hc.next.takeRun _).next
  · exact .malformed _

/-- A run of percent-encoded bytes, by induction on their number. -/
theorem reads_encodedBytes (fault : Malformed) (fuel : Nat) (hc : c.Within text) :
    Reads text (encodedBytes fault fuel c) := by
  induction fuel generalizing c with
  | zero => exact .ok hc
  | succ fuel ih =>
      unfold encodedBytes
      split
      · split
        · exact (ih (hc.skip 3)).map _
        · exact .malformed _
      · exact .malformed _
      · exact .ok hc

/-- The text of a tag.  Encoded bytes that are no UTF-8 are a fault of form. -/
theorem reads_uriParts (fault : Malformed) (fuel : Nat) (hc : c.Within text) :
    Reads text (uriParts fault fuel c) := by
  induction fuel generalizing c with
  | zero => exact .ok hc
  | succ fuel ih =>
      unfold uriParts
      split
      · have hbytes := reads_encodedBytes fault c.rest.length hc
        split
        · next e he =>
            cases e with
            | malformed m => exact .malformed m
            | value v => exact .value (hbytes.reason_of_eq he)
        · next bytes d hd =>
            split
            · exact .malformed _
            · exact (ih (hbytes.of_eq_ok hd)).map _
      · split
        · exact (ih hc.next).map _
        · exact .ok hc
      · exact .ok hc

/-- The text of a tag, which may not be empty. -/
theorem reads_uri (hc : c.Within text) (fault : Malformed) : Reads text (c.uri fault) := by
  unfold uri
  refine (reads_uriParts fault _ hc).bind fun cs d hd => ?_
  dsimp only
  split
  · exact .malformed _
  · exact .ok hd

/-- A tag between angle brackets. -/
theorem reads_fullTag (hc : c.Within text) : Reads text c.fullTag := by
  unfold fullTag
  refine (reads_uri (hc.skip 2) .tagName).bind fun name d hd => ?_
  dsimp only
  split
  · exact .ok hd.next
  · exact .malformed _

/-- A tag with a handle. -/
theorem reads_shortTag (hc : c.Within text) : Reads text c.shortTag := by
  have hhandle : Reads text c.leadingHandle := by
    unfold leadingHandle
    dsimp only
    split
    · exact reads_tagHandle hc .tagName
    · exact .ok hc.next
  exact hhandle.bind fun handle d hd => (reads_uri hd .tagName).bind fun suffix e he => .ok he

/-- A whole tag. -/
theorem reads_tag (hc : c.Within text) : Reads text c.tag := by
  have hparts : Reads text c.tagParts := by
    unfold tagParts
    split
    · exact (reads_fullTag hc).map _
    · split
      · exact .ok hc.next
      · exact reads_shortTag hc
  refine hparts.bind fun parts d hd => ?_
  dsimp only
  split
  · exact .ok hd
  · exact .malformed _

/-! ## Directives -/

/-- A number of the version, after the directive's name and what stands between: `before` is all of
that. -/
theorem reads_versionNumber (hc : c.Within text) (before : List Char)
    (hin : "%YAML".toList ++ before ++ c.rest <:+ text)
    (hbefore : ∀ ch ∈ before, ch = ' ' ∨ ch = '.' ∨ ch.isDigit = true) :
    Reads text c.versionNumber := by
  unfold versionNumber
  split
  · exact .malformed _
  · next digits d _ heq =>
      obtain ⟨rfl, rfl⟩ := Prod.mk.inj heq
      split
      · next hlong =>
          have hsplit : c.rest.takeWhile Char.isDigit ++ c.rest.dropWhile Char.isDigit = c.rest :=
            List.takeWhile_append_dropWhile
          have hplace : "%YAML".toList ++ before ++ c.rest.takeWhile Char.isDigit <:+: text := by
            refine List.IsInfix.trans ?_ hin.isInfix
            nth_rewrite 2 [← hsplit]
            rw [← List.append_assoc]
            exact (List.prefix_append _ _).isInfix
          exact .value (.version hplace hbefore (fun _ h => List.mem_takeWhile_imp h) hlong)
      · exact .ok (hc.takeRun _)

/-- A number of the version is the run of digits at its place. -/
theorem rest_of_versionNumber {d : Cursor} {n : Nat} (h : c.versionNumber = .ok (n, d)) :
    d.rest = c.rest.dropWhile Char.isDigit := by
  rw [← rest_takeRun]
  unfold versionNumber at h
  split at h
  · cases h
  · next heq =>
      split at h
      · cases h
      · cases h
        rw [heq]

/-- The version, after the name of its directive.  Its second number comes after the blanks, the
first number and the point. -/
theorem reads_version (hc : c.Within text) (hin : "%YAML".toList ++ c.rest <:+ text) :
    Reads text c.version := by
  let blanks := c.rest.takeWhile (· == ' ')
  have hblanks : ∀ ch ∈ blanks, ch = ' ' := fun ch hch => by simpa using List.mem_takeWhile_imp hch
  have hsplit : blanks ++ (c.skipRun (· == ' ')).rest = c.rest := by
    rw [rest_skipRun]
    exact List.takeWhile_append_dropWhile
  have hmajor : Reads text (c.skipRun (· == ' ')).versionNumber := by
    refine reads_versionNumber (hc.skipRun _) blanks ?_ fun ch hch =>
      .inl (hblanks ch hch)
    rwa [List.append_assoc, hsplit]
  refine Gives.bind hmajor fun ⟨major, d⟩ heq hd => ?_
  have hrest := rest_of_versionNumber heq
  dsimp only
  split
  · exact .malformed _
  · next hpoint =>
      let digits := (c.skipRun (· == ' ')).rest.takeWhile Char.isDigit
      have hafter : '.' :: d.next.rest = d.rest := cons_rest_next (by simpa using hpoint)
      have hminor : Reads text d.next.versionNumber := by
        refine reads_versionNumber hd.next (blanks ++ digits ++ ['.']) ?_ ?_
        · -- nothing of the text is lost on the way to the second number
          have hall : blanks ++ digits ++ ['.'] ++ d.next.rest = c.rest := by
            calc blanks ++ digits ++ ['.'] ++ d.next.rest
                = blanks ++ (digits ++ '.' :: d.next.rest) := by simp
              _ = blanks ++ (c.skipRun (· == ' ')).rest := by
                  rw [hafter, hrest, List.takeWhile_append_dropWhile]
              _ = c.rest := hsplit
          rwa [List.append_assoc, hall]
        · simp only [List.mem_append, List.mem_singleton]
          rintro ch ((hch | hch) | hch)
          · exact .inl (hblanks ch hch)
          · exact .inr (.inr (List.mem_takeWhile_imp hch))
          · exact .inr (.inl hch)
      refine hminor.bind fun minor e he => ?_
      dsimp only
      split
      · exact .ok he
      · exact .malformed _

/-- An abbreviation for tags has no numbers at all. -/
theorem reads_tagAbbreviation (hc : c.Within text) : Reads text c.tagAbbreviation := by
  refine (reads_tagHandle (hc.skipRun _) .directive).bind fun handle d hd => ?_
  dsimp only
  split
  · exact .malformed _
  · refine (reads_uri (hd.skipRun _) .directive).bind fun leading e he => ?_
    dsimp only
    split
    · exact .ok he
    · exact .malformed _

/-- A directive line.  The name after its mark tells whether the numbers of a version follow, so the
digits found there stand behind `%YAML`. -/
theorem reads_directive (hc : c.Within text) (hmark : c.peek = some '%') :
    Reads text c.directive := by
  have hrest : '%' :: c.next.rest = c.rest := cons_rest_next hmark
  unfold directive
  dsimp only
  split
  · exact .malformed _
  · refine Reads.bind ?_ fun d e he => ?_
    · unfold directiveValue
      split
      · next hname =>
          refine reads_version (hc.next.takeRun _) ?_
          have hsplit : "YAML".toList ++ (c.next.takeRun isNameChar).2.rest = c.next.rest := by
            rw [← hname, takeRun_fst, rest_takeRun, List.takeWhile_append_dropWhile]
          have hall : "%YAML".toList ++ (c.next.takeRun isNameChar).2.rest = c.rest := by
            rw [← hrest, ← hsplit]
            rfl
          rw [hall]
          exact hc
      · split
        · exact reads_tagAbbreviation (hc.next.takeRun _)
        · exact .ok ((hc.next.takeRun _).skipRun _)
    · dsimp only
      exact (gives_blankLine he .directive).bind fun e' _ he' => .ok he'

/-! ## Quoted scalars -/

/-- The empty lines inside quotes. -/
theorem reads_quotedBreaks (fuel : Nat) (hc : c.Within text) :
    Reads text (quotedBreaks fuel c) := by
  induction fuel generalizing c with
  | zero => exact .ok hc
  | succ fuel ih =>
      unfold quotedBreaks
      split
      · exact .malformed _
      · dsimp only
        split
        · next heq => exact (ih ((hc.skipRun _).lineBreak? heq)).map _
        · exact .ok (hc.skipRun _)

/-- Blanks inside quotes, with the line break among them if there is one. -/
theorem reads_quotedBlanks (hc : c.Within text) : Reads text c.quotedBlanks := by
  unfold quotedBlanks
  dsimp only
  split
  · next heq => exact (reads_quotedBreaks _ ((hc.takeRun _).lineBreak? heq)).map _
  · split
    · exact .malformed _
    · exact .ok (hc.takeRun _)

/-- Only an escape of eight digits can name a code point that is too large. -/
theorem reads_escapedCodePoint {places : Nat} {letter : Char}
    (hplaces : escapeDigits? letter = some places) (hin : '\\' :: letter :: c.rest <:+ text) :
    Reads text (c.escapedCodePoint places) := by
  have hc : c.Within text := (List.suffix_cons _ _).trans ((List.suffix_cons _ _).trans hin)
  unfold escapedCodePoint
  split
  · exact .malformed _
  · next n hpoint =>
      split
      · next hlarge =>
          unfold codePoint? at hpoint
          dsimp only at hpoint
          split at hpoint
          · next hlength =>
              have hbound := Text.ofHex?_lt hpoint
              rw [hlength] at hbound
              -- two digits are less than 256 and four less than 65536
              have hletter : letter = 'U' ∧ places = 8 := by
                unfold escapeDigits? at hplaces
                split at hplaces <;> cases hplaces
                · exact absurd (Nat.lt_of_lt_of_le hbound (by decide)) (Nat.not_lt.mpr hlarge)
                · exact absurd (Nat.lt_of_lt_of_le hbound (by decide)) (Nat.not_lt.mpr hlarge)
                · exact ⟨rfl, rfl⟩
              obtain ⟨rfl, rfl⟩ := hletter
              have hdigits : '\\' :: 'U' :: c.rest.take 8 <+: '\\' :: 'U' :: c.rest := by
                simp [List.take_prefix]
              exact .value (.escape (hdigits.isInfix.trans hin.isInfix) hlength hpoint hlarge)
          · cases hpoint
      · dsimp only
        split
        · exact .ok ((hc.skip _).skip _)
        · exact .ok (hc.skip _)

/-- An escape, after its backslash. -/
theorem reads_escaped (hin : '\\' :: c.rest <:+ text) : Reads text c.escaped := by
  have hc : c.Within text := (List.suffix_cons _ _).trans hin
  unfold escaped
  split
  · exact .malformed _
  · next ch hch =>
      have hrest : ch :: c.next.rest = c.rest := cons_rest_next hch
      split
      · exact .ok hc.next
      · next hplaces => exact reads_escapedCodePoint hplaces (by rwa [hrest])
      · split
        · next heq => exact reads_quotedBreaks _ (hc.lineBreak? heq)
        · exact .malformed _

/-- The text between quotes, by induction on the runs that it is read in. -/
theorem reads_quotedText (double : Bool) (fuel : Nat) (hc : c.Within text) :
    Reads text (quotedText double fuel c) := by
  induction fuel generalizing c with
  | zero => exact .malformed _
  | succ fuel ih =>
      have hplace := hc.takeRun (!stopsQuoted ·)
      unfold quotedText
      dsimp only
      -- from here on only the place counts where the run has ended
      generalize (c.takeRun (!stopsQuoted ·)).1 = first
      generalize (c.takeRun (!stopsQuoted ·)).2 = d at hplace ⊢
      split
      · exact .malformed _
      · next ch after hrest =>
          split
          · exact .ok hplace.next
          · split
            · next hescape =>
                obtain rfl : ch = '\\' := beq_iff_eq.mp (Bool.and_eq_true_iff.mp hescape).2
                refine (reads_escaped ?_).bind fun cs e he => (ih he).bind fun others f hf => .ok hf
                rw [rest_next, hrest, List.tail_cons, ← hrest]
                exact hplace
            · split
              · split
                · exact (ih (hplace.skip 2)).bind fun others e he => .ok he
                · exact .ok hplace.next
              · split
                · exact (ih hplace.next).bind fun others e he => .ok he
                · exact (reads_quotedBlanks hplace).bind fun cs e he =>
                    (ih he).bind fun others f hf => .ok hf

/-- A quoted scalar is read to a place of the text, unless an escape in it names no character. -/
theorem reads_quotedScalar (double : Bool) (hc : c.Within text) :
    Reads text (c.quotedScalar double) :=
  (reads_quotedText double _ hc.next).map _

/-! ## Plain and block scalars -/

/-- The empty lines of a plain scalar end at a place of the text. -/
theorem within_plainBreaks (fuel : Nat) (hc : c.Within text) :
    (plainBreaks fuel c).2.Within text := by
  induction fuel generalizing c with
  | zero => exact hc
  | succ fuel ih =>
      have hplace := hc.skipRun (· == ' ')
      unfold plainBreaks
      dsimp only
      split
      · next heq =>
          have hafter := hplace.lineBreak? heq
          split
          · exact hafter
          · exact ih hafter
      · exact hplace

/-- So does what stands between two of its words. -/
theorem within_plainBlanks (hc : c.Within text) : c.plainBlanks.2.1.Within text := by
  have hplace := hc.takeRun (· == ' ')
  unfold plainBlanks
  dsimp only
  split
  · exact hplace
  · next heq =>
      have hafter := hplace.lineBreak? heq
      split
      · exact hafter
      · exact within_plainBreaks _ hafter

/-- And so does the whole of it, word by word. -/
theorem within_plainText (inFlow : Bool) (least : Int) (fuel : Nat) (blanks : List Char)
    (ended : Bool) (hc : c.Within text) :
    (plainText inFlow least fuel blanks ended c).2.1.Within text := by
  induction fuel generalizing blanks ended c with
  | zero => exact hc
  | succ fuel ih =>
      unfold plainText
      dsimp only
      generalize (if c.peek == some '#' then 0 else plainWordLength inFlow c.rest) = length
      split
      · exact hc
      · have hplace := within_plainBlanks (hc.skip length)
        generalize (c.skip length).plainBlanks = blanks' at hplace ⊢
        split
        · exact hplace
        · exact ih _ _ hplace

/-- A plain scalar is read to a place of the text, and nothing in it is at fault. -/
theorem within_plainScalar (inFlow : Bool) (least : Int) (hc : c.Within text) :
    (c.plainScalar inFlow least).2.1.Within text := by
  unfold plainScalar
  exact within_plainText inFlow least _ [] false hc

/-- A digit for the indentation; the digit zero is a fault of form. -/
theorem reads_indentDigit (hc : c.Within text) : Reads text c.indentDigit := by
  unfold indentDigit
  repeat' split
  · exact .malformed _
  · exact .ok hc.next
  · exact .ok hc
  · exact .ok hc

/-- The indicators of a block scalar, in either order. -/
theorem reads_blockIndicators (hc : c.Within text) : Reads text c.blockIndicators := by
  unfold blockIndicators
  split
  · exact (reads_indentDigit hc.next).map _
  · refine (reads_indentDigit hc).bind fun digit d hd => ?_
    dsimp only
    split
    · exact .ok hd.next
    · exact .ok hd

/-- The header of a block scalar, with the rest of its line. -/
theorem reads_blockHeader (hc : c.Within text) : Reads text c.blockHeader := by
  refine (reads_blockIndicators hc).bind fun header d hd => ?_
  dsimp only
  split
  · exact (gives_blankLine hd .blockIndicator).bind fun e _ he => .ok he
  · exact .malformed _

/-- The empty lines at the start of a block scalar end at a place of the text. -/
theorem within_leadingBreaks (fuel deepest : Nat) (hc : c.Within text) :
    (leadingBreaks fuel deepest c).2.2.Within text := by
  induction fuel generalizing deepest c with
  | zero => exact hc
  | succ fuel ih =>
      unfold leadingBreaks
      split
      · exact ih _ hc.next
      · split
        · next heq => exact ih deepest (hc.lineBreak? heq)
        · exact hc

/-- So do the empty lines inside of it. -/
theorem within_blockBreaks (indent fuel : Nat) (hc : c.Within text) :
    (blockBreaks indent fuel c).2.Within text := by
  induction fuel generalizing c with
  | zero => exact hc
  | succ fuel ih =>
      have hplace : (c.skipIndent indent).Within text := hc.skip _
      unfold blockBreaks
      dsimp only
      split
      · next heq => exact ih (hplace.lineBreak? heq)
      · exact hplace

/-- And the break of each of its lines. -/
theorem within_ownBreak (hc : c.Within text) : c.ownBreak.2.Within text := by
  unfold ownBreak
  split
  · next heq => exact hc.lineBreak? heq
  · exact hc

/-- The lines of a block scalar, one after the other. -/
theorem within_blockLines (folded : Bool) (indent fuel : Nat) (breaks : List Char)
    (hc : c.Within text) : (blockLines folded indent fuel breaks c).2.2.2.Within text := by
  induction fuel generalizing breaks c with
  | zero => exact hc
  | succ fuel ih =>
      have hown := within_ownBreak (hc.takeRun (!isBreak ·))
      have hafter := within_blockBreaks indent
        ((c.takeRun (!isBreak ·)).2.ownBreak.2.rest.length + 1) hown
      unfold blockLines
      dsimp only
      split
      · exact ih _ hafter
      · exact hafter

/-- What comes before the text of a block scalar. -/
theorem within_blockStart (least : Nat) (digit? : Option Nat) (hc : c.Within text) :
    (c.blockStart least digit?).2.2.Within text := by
  unfold blockStart
  split
  · exact within_blockBreaks _ _ hc
  · exact within_leadingBreaks _ 0 hc

/-- The text of a block scalar. -/
theorem within_blockText (folded : Bool) (indent : Nat) (breaks : List Char) (hc : c.Within text) :
    (c.blockText folded indent breaks).2.2.2.Within text := by
  unfold blockText
  split
  · exact within_blockLines folded indent _ breaks hc
  · exact hc

/-- A block scalar is read to a place of the text; only its header can be at fault. -/
theorem reads_blockScalar (folded : Bool) (least : Nat) (hc : c.Within text) :
    Reads text (c.blockScalar folded least) := by
  refine (reads_blockHeader hc.next).bind fun header d hd => ?_
  exact .ok (within_blockText folded _ _ (within_blockStart least header.2 hd))

end Cursor

end MockScaffold.Yaml
