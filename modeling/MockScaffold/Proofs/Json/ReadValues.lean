import MockScaffold.Proofs.Json.Embedding
import MockScaffold.Proofs.Number.Digits
import MockScaffold.Json.Reader

/-!
# What the reader of JSON gives

Whatever text is read as JSON, the value has texts as the keys of its mappings, and as its scalars
those of JSON, among them no integer that is too long (`Json.isPlain_of_read_eq_ok`); such a value
can always be embedded again (`Sample.IsPlain.isEmbeddable`).  Where the reader gives up because of
an integer that is too long, the text has a run of that many digits
(`Json.hasLongRun_of_read_eq_error`).

The reader goes through a text from left to right.  So both are said of a reading of what remains of
the text, together with the fact that it leaves an end of it (`Json.Yields`), and are kept when one
reading goes on where another one stopped (`Json.Yields.bind`).
-/

namespace MockScaffold

/-! ## The size of integers read -/

/-- Digits of a base, added to a number one by one, keep below the next power of the base. -/
theorem foldl_digits_lt {base : Nat} {values : List Nat} (h : ∀ d ∈ values, d < base) (n : Nat) :
    values.foldl (fun n d => base * n + d) n < (n + 1) * Nat.pow base values.length := by
  induction values generalizing n with
  | nil => simp
  | cons d rest ih =>
      obtain ⟨hd, hrest⟩ := List.forall_mem_cons.mp h
      have hstep : base * n + d + 1 ≤ (n + 1) * base := by
        rw [Nat.add_mul, Nat.mul_comm base n]
        omega
      have hpow : Nat.pow base (d :: rest).length = base * Nat.pow base rest.length :=
        Nat.pow_succ'
      calc rest.foldl (fun n d => base * n + d) (base * n + d)
          < (base * n + d + 1) * Nat.pow base rest.length := ih hrest _
        _ ≤ (n + 1) * base * Nat.pow base rest.length := Nat.mul_le_mul_right _ hstep
        _ = (n + 1) * Nat.pow base (d :: rest).length := by rw [hpow, Nat.mul_assoc]

/-- The digits of a number bound it. -/
theorem ofAsciiDigits_lt_of_length_le {cs : List Char} (h : ∀ c ∈ cs, c.isDigit = true)
    {limit : Nat} (hlength : cs.length ≤ limit) : ofAsciiDigits cs < Nat.pow 10 limit := by
  have hvalues : ∀ d ∈ cs.map (fun c => c.toNat - 48), d < 10 := by
    intro d hd
    obtain ⟨c, hc, rfl⟩ := List.mem_map.mp hd
    have hdigit := h c hc
    simp only [Char.isDigit, Bool.and_eq_true, decide_eq_true_eq] at hdigit
    have hnat : c.toNat ≤ 57 := hdigit.2
    omega
  have hvalue : ofAsciiDigits cs < Nat.pow 10 cs.length := by
    simpa [ofAsciiDigits, ofDigitValues] using foldl_digits_lt hvalues 0
  exact Nat.lt_of_lt_of_le hvalue (Nat.pow_le_pow_right (by decide) hlength)

/-! ## Values of JSON -/

/-- Scalars of JSON that are not too long. -/
def Scalar.IsPlain (s : Scalar) : Prop := s.isJsonKey = true ∧ s.isOverlong = false

/-- Values whose scalars are those of JSON and not too long, with texts as keys. -/
inductive Sample.IsPlain : Sample → Prop
  | scalar {s : Scalar} (hs : s.IsPlain) : IsPlain (.scalar s)
  | list {items : List Sample} (hitems : ∀ v ∈ items, IsPlain v) : IsPlain (.list items)
  | map {entries : List (Scalar × Sample)} (hkeys : ∀ e ∈ entries, ∃ s, e.1 = .text s)
      (hvalues : ∀ e ∈ entries, IsPlain e.2) : IsPlain (.map entries)

/-- A value of JSON can be embedded. -/
theorem Sample.IsPlain.isEmbeddable {v : Sample} (hv : v.IsPlain) : v.IsEmbeddable := by
  induction hv with
  | scalar hs => exact .scalar hs.2
  | list _ ih => exact .list ih
  | map hkeys _ ih =>
      refine .map (fun e he => ?_) ih
      obtain ⟨s, hs⟩ := hkeys e he
      rw [hs]
      exact ⟨rfl, rfl⟩

/-- Whatever all entries of a mapping have, they have after others are put into it that have it.  A
key that is there keeps its spelling, so this is said of keys and of values. -/
theorem forall_mem_putEntry {α : Type} {p : Scalar → Prop} {q : α → Prop} {key : Scalar} {value : α}
    {entries : List (Scalar × α)} (hkey : p key) (hvalue : q value)
    (h : ∀ e ∈ entries, p e.1 ∧ q e.2) : ∀ e ∈ putEntry key value entries, p e.1 ∧ q e.2 := by
  induction entries with
  | nil => exact List.forall_mem_singleton.mpr ⟨hkey, hvalue⟩
  | cons e rest ih =>
      obtain ⟨he, hrest⟩ := List.forall_mem_cons.mp h
      rw [putEntry]
      split
      · exact List.forall_mem_cons.mpr ⟨⟨he.1, hvalue⟩, hrest⟩
      · exact List.forall_mem_cons.mpr ⟨he, ih hrest⟩

/-- The same for many entries, one after the other. -/
theorem forall_mem_putEntries {α : Type} {p : Scalar → Prop} {q : α → Prop}
    {old new : List (Scalar × α)} (hold : ∀ e ∈ old, p e.1 ∧ q e.2)
    (hnew : ∀ e ∈ new, p e.1 ∧ q e.2) : ∀ e ∈ putEntries old new, p e.1 ∧ q e.2 := by
  unfold putEntries
  induction new generalizing old with
  | nil => exact hold
  | cons e rest ih =>
      obtain ⟨he, hrest⟩ := List.forall_mem_cons.mp hnew
      exact ih (forall_mem_putEntry he.1 he.2 hold) hrest

namespace Json

/-- A text has a run of digits that is too long, and the overflow tells its length. -/
def HasLongRun (cs : List Char) (o : DigitOverflow) : Prop :=
  ∃ digits, digits <:+: cs ∧ (∀ c ∈ digits, c.isDigit = true) ∧ digitLimit < digits.length ∧
    o = .reading digits.length

/-- What the end of a text has the text has. -/
theorem HasLongRun.of_suffix {cs ds : List Char} {o : DigitOverflow} (h : HasLongRun ds o)
    (hsuffix : ds <:+ cs) : HasLongRun cs o := by
  obtain ⟨digits, hinfix, hdigits⟩ := h
  exact ⟨digits, hinfix.trans hsuffix.isInfix, hdigits⟩

/-! ## Readings -/

/-- A reading gives what has a property and leaves an end of the text; it gives up over digits only
where there are too many. -/
structure Yields {α : Type} (p : α → Prop) (cs : List Char) (r : Except Failure (α × List Char)) :
    Prop where
  value : ∀ {a rest}, r = .ok (a, rest) → p a
  rest : ∀ {a rest}, r = .ok (a, rest) → rest <:+ cs
  run : ∀ {o}, r = .error (.digits o) → HasLongRun cs o

section

variable {α β : Type} {p : α → Prop} {q : β → Prop} {cs ds : List Char}

/-- A value that is found, and an end of the text. -/
theorem yields_ok {a : α} (ha : p a) (h : ds <:+ cs) : Yields p cs (.ok (a, ds)) where
  value heq := by
    cases heq
    exact ha
  rest heq := by
    cases heq
    exact h
  run heq := nomatch heq

/-- Where the text is malformed there is nothing to show. -/
theorem yields_malformed {problem : Problem} {rest : List Char} :
    Yields p cs (.error (.malformed problem rest)) :=
  ⟨nofun, nofun, nofun⟩

/-- Giving up over digits, where there are too many. -/
theorem yields_digits {o : DigitOverflow} (h : HasLongRun cs o) :
    Yields p cs (.error (.digits o)) where
  value heq := nomatch heq
  rest heq := nomatch heq
  run heq := by
    cases heq
    exact h

/-- A reading of an end of the text is one of the text. -/
theorem Yields.of_suffix {r : Except Failure (α × List Char)} (h : Yields p ds r)
    (hsuffix : ds <:+ cs) : Yields p cs r where
  value := h.value
  rest heq := (h.rest heq).trans hsuffix
  run heq := (h.run heq).of_suffix hsuffix

/-- A reading that goes on where another one stopped. -/
theorem Yields.bind {r : Except Failure (α × List Char)}
    {f : α × List Char → Except Failure (β × List Char)} (h : Yields p cs r)
    (hnext : ∀ a rest, p a → Yields q rest (f (a, rest))) : Yields q cs (r >>= f) := by
  cases r with
  | error e =>
      cases e with
      | malformed problem rest => exact yields_malformed
      | digits o => exact yields_digits (h.run rfl)
  | ok found => exact (hnext found.1 found.2 (h.value rfl)).of_suffix (h.rest rfl)

/-- A reading whose value is changed. -/
theorem Yields.map {r : Except Failure (α × List Char)} (h : Yields p cs r) {f : α → β}
    (hf : ∀ a, p a → q (f a)) : Yields q cs (r.map fun found => (f found.1, found.2)) :=
  h.bind fun a _ ha => yields_ok (hf a ha) List.suffix_rfl

end

/-- After blanks there remains an end of the text. -/
theorem skipSpace_suffix (cs : List Char) : skipSpace cs <:+ cs := List.dropWhile_suffix isSpace

/-- What remains after a blank and a mark. -/
theorem suffix_of_skipSpace_eq {c : Char} {cs rest : List Char} (h : skipSpace cs = c :: rest) :
    rest <:+ cs :=
  (List.suffix_cons c rest).trans (h ▸ skipSpace_suffix cs)

/-! ## Texts and numbers -/

/-- Escapes have no digits to give up over. -/
theorem readEscape_ne_digits (start cs : List Char) (o : DigitOverflow) :
    readEscape start cs ≠ .error (.digits o) := by
  unfold readEscape
  repeat' split
  all_goals exact nofun

/-- A text, character by character; of an escape the further characters are passed over. -/
theorem yields_readString (start done : List Char) (taken : Nat) (cs : List Char) :
    Yields (fun _ => True) cs (readString start done taken cs) := by
  induction cs generalizing done taken with
  | nil => cases taken <;> exact yields_malformed
  | cons c rest ih =>
      have hrest : rest <:+ c :: rest := List.suffix_cons c rest
      cases taken with
      | succ taken => exact (ih done taken).of_suffix hrest
      | zero =>
          rw [readString]
          split
          · exact yields_ok trivial hrest
          · split
            · split
              · exact (ih _ _).of_suffix hrest
              · next e he =>
                  cases e with
                  | malformed problem after => exact yields_malformed
                  | digits o => exact absurd he (readEscape_ne_digits start rest o)
            · split
              · exact yields_malformed
              · exact (ih _ _).of_suffix hrest

/-- The integer part of a number is a run of digits, before what remains. -/
theorem eq_append_of_wholePart? {cs whole rest : List Char}
    (h : wholePart? cs = some (whole, rest)) :
    cs = whole ++ rest ∧ ∀ c ∈ whole, c.isDigit = true := by
  unfold wholePart? at h
  split at h
  · cases h
    exact ⟨rfl, List.forall_mem_singleton.mpr rfl⟩
  · split at h
    · rw [List.span_eq_takeWhile_dropWhile] at h
      cases h
      exact ⟨List.takeWhile_append_dropWhile.symm, fun c hc => List.mem_takeWhile_imp hc⟩
    · cases h
  · cases h

/-- After a fraction there remains an end of the text. -/
theorem fractionPart?_suffix {cs fraction rest : List Char}
    (h : fractionPart? cs = some (fraction, rest)) : rest <:+ cs := by
  unfold fractionPart? at h
  split at h
  · split at h
    · rw [List.span_eq_takeWhile_dropWhile] at h
      cases h
      exact (List.dropWhile_suffix _).trans (List.suffix_cons _ _)
    · cases h
  · cases h

/-- So it does after a sign. -/
theorem splitSign_suffix (cs : List Char) : (splitSign cs).2 <:+ cs := by
  unfold splitSign
  split <;> simp

/-- And after an exponent, which is a mark, a sign and digits. -/
theorem exponentPart?_suffix {cs rest : List Char} {exponent : Int}
    (h : exponentPart? cs = some (exponent, rest)) : rest <:+ cs := by
  unfold exponentPart? at h
  split at h
  · next c cs' =>
      split at h
      · have hdigits := (splitSign_suffix cs').trans (List.suffix_cons c cs')
        dsimp only at h
        rw [List.span_eq_takeWhile_dropWhile] at h
        split at h
        · cases h
        · next ds after _ hspan =>
            cases h
            obtain ⟨_, rfl⟩ := Prod.mk.inj hspan
            exact (List.dropWhile_suffix _).trans hdigits
      · cases h
  · cases h

/-- What remains after an optional part. -/
theorem getD_suffix {α : Type} {part : Option (α × List Char)} {cs : List Char} {none : α}
    (h : ∀ a rest, part = some (a, rest) → rest <:+ cs) : (part.getD (none, cs)).2 <:+ cs := by
  cases part with
  | none => exact List.suffix_rfl
  | some found => exact h found.1 found.2 rfl

/-- An integer is taken only if it has few digits, so it is not too long. -/
theorem yields_readNumber (start : List Char) (negative : Bool) (cs : List Char) :
    Yields Scalar.IsPlain cs (readNumber start negative cs) := by
  unfold readNumber
  split
  · exact yields_malformed
  · next whole rest hwhole =>
      obtain ⟨rfl, hdigits⟩ := eq_append_of_wholePart? hwhole
      have hrest : rest <:+ whole ++ rest := List.suffix_append whole rest
      have hfraction : ((fractionPart? rest).getD ([], rest)).2 <:+ rest :=
        getD_suffix fun _ _ => fractionPart?_suffix
      dsimp only
      generalize (fractionPart? rest).getD ([], rest) = fraction at hfraction ⊢
      have hexponent : ((exponentPart? fraction.2).getD (0, fraction.2)).2 <:+ fraction.2 :=
        getD_suffix fun _ _ => exponentPart?_suffix
      split
      · exact yields_ok ⟨rfl, rfl⟩ (hexponent.trans (hfraction.trans hrest))
      · split
        · next hlength =>
            exact yields_digits
              ⟨whole, (List.prefix_append whole rest).isInfix, hdigits, hlength, rfl⟩
        · next hlength =>
            have hlimit := ofAsciiDigits_lt_of_length_le hdigits (Nat.le_of_not_lt hlength)
            have hshort : ∀ n : Int, n.natAbs < Nat.pow 10 digitLimit → Scalar.IsPlain (.int n) :=
              fun n hn => ⟨rfl, isOverlong_int_eq_false_iff.mpr hn⟩
            refine yields_ok (hshort _ ?_) (hexponent.trans (hfraction.trans hrest))
            cases negative <;> simpa using hlimit

/-- A word or a number.  A word is none of the scalars that are too long. -/
theorem yields_readLiteral (cs : List Char) : Yields Scalar.IsPlain cs (readLiteral cs) := by
  have hwords : ∀ w ∈ words, w.2.isJsonKey = true ∧ w.2.isOverlong = false := by decide
  unfold readLiteral
  split
  · next word s hfind =>
      exact yields_ok (hwords _ (List.mem_of_find?_eq_some hfind)) (List.drop_suffix _ _)
  · split
    · exact (yields_readNumber _ _ _).of_suffix (List.suffix_cons _ _)
    · exact yields_readNumber _ _ _

/-! ## Values -/

/-- An entry of a mapping in JSON. -/
def IsPlainEntry (e : Scalar × Sample) : Prop := (∃ s, e.1 = .text s) ∧ e.2.IsPlain

/-- A mapping whose members are values of JSON is one itself. -/
theorem isPlain_map_putEntries {members : List (Scalar × Sample)}
    (h : ∀ e ∈ members, IsPlainEntry e) : (Sample.map (putEntries [] members)).IsPlain := by
  have hentries : ∀ e ∈ putEntries [] members, (∃ s, e.1 = .text s) ∧ e.2.IsPlain :=
    forall_mem_putEntries (p := fun k => ∃ s, k = .text s) (by simp) h
  exact .map (fun e he => (hentries e he).1) fun e he => (hentries e he).2

/-- Readings of a bounded number of steps give values of JSON. -/
structure YieldsValues (fuel : Nat) : Prop where
  value : ∀ cs, Yields Sample.IsPlain cs (readValue fuel cs)
  items : ∀ cs, Yields (fun items => ∀ v ∈ items, v.IsPlain) cs (readItems fuel cs)
  members : ∀ cs, Yields (fun members => ∀ e ∈ members, IsPlainEntry e) cs (readMembers fuel cs)

section

variable {fuel : Nat} (h : YieldsValues fuel) (cs : List Char)

include h

/-- A value: a text, a list, a mapping or a literal, told by its first character. -/
theorem YieldsValues.value_succ : Yields Sample.IsPlain cs (readValue (fuel + 1) cs) := by
  unfold readValue
  split
  · next rest =>
      have htext := (yields_readString ('"' :: rest) [] 0 rest).of_suffix
        (List.suffix_cons '"' rest)
      exact htext.map fun s _ => .scalar ⟨rfl, rfl⟩
  · next rest =>
      split
      · next after hclose =>
          exact (yields_ok (.list (by simp)) (suffix_of_skipSpace_eq hclose)).of_suffix
            (List.suffix_cons _ rest)
      · have hitems := (h.items (skipSpace rest)).of_suffix
          ((skipSpace_suffix rest).trans (List.suffix_cons '[' rest))
        exact hitems.map fun items hplain => .list hplain
  · next rest =>
      split
      · next after hclose =>
          exact (yields_ok (.map (by simp) (by simp)) (suffix_of_skipSpace_eq hclose)).of_suffix
            (List.suffix_cons _ rest)
      · have hmembers := (h.members (skipSpace rest)).of_suffix
          ((skipSpace_suffix rest).trans (List.suffix_cons '\x7b' rest))
        exact hmembers.map fun members hplain => isPlain_map_putEntries hplain
  · exact (yields_readLiteral cs).map fun s hs => .scalar hs

/-- The items of a list: a value, and then a comma with further items or the closing bracket. -/
theorem YieldsValues.items_succ :
    Yields (fun items => ∀ v ∈ items, v.IsPlain) cs (readItems (fuel + 1) cs) := by
  unfold readItems
  refine (h.value cs).bind fun v rest hv => ?_
  dsimp only
  split
  · next after hclose =>
      exact yields_ok (List.forall_mem_singleton.mpr hv) (suffix_of_skipSpace_eq hclose)
  · next after hcomma =>
      have hothers := (h.items (skipSpace after)).of_suffix
        ((skipSpace_suffix after).trans (suffix_of_skipSpace_eq hcomma))
      exact hothers.map fun others hplain => List.forall_mem_cons.mpr ⟨hv, hplain⟩
  · exact yields_malformed

/-- The members of a mapping: a key, a colon and a value, and then a comma with further members or
the closing brace. -/
theorem YieldsValues.members_succ :
    Yields (fun members => ∀ e ∈ members, IsPlainEntry e) cs (readMembers (fuel + 1) cs) := by
  unfold readMembers
  split
  · next start =>
      have hkey := (yields_readString ('"' :: start) [] 0 start).of_suffix
        (List.suffix_cons '"' start)
      refine hkey.bind fun key rest _ => ?_
      dsimp only
      split
      · next after hcolon =>
          have hvalue := (h.value (skipSpace after)).of_suffix
            ((skipSpace_suffix after).trans (suffix_of_skipSpace_eq hcolon))
          refine hvalue.bind fun v rest' hv => ?_
          have hentry : IsPlainEntry (.text key, v) := ⟨⟨key, rfl⟩, hv⟩
          dsimp only
          split
          · next last hclose =>
              exact yields_ok (List.forall_mem_singleton.mpr hentry) (suffix_of_skipSpace_eq hclose)
          · next next' hcomma =>
              have hothers := (h.members (skipSpace next')).of_suffix
                ((skipSpace_suffix next').trans (suffix_of_skipSpace_eq hcomma))
              exact hothers.map fun others hplain => List.forall_mem_cons.mpr ⟨hentry, hplain⟩
          · exact yields_malformed
      · exact yields_malformed
  · exact yields_malformed

end

/-- Values hold items and members, which hold values; so one induction on the number of steps is for
all three. -/
theorem yieldsValues (fuel : Nat) : YieldsValues fuel := by
  induction fuel with
  | zero => exact ⟨fun _ => yields_malformed, fun _ => yields_malformed, fun _ => yields_malformed⟩
  | succ fuel ih => exact ⟨ih.value_succ, ih.items_succ, ih.members_succ⟩

/-! ## Whole texts -/

/-- **What the reader gives.**  Whatever the text, the value is one of JSON. -/
theorem isPlain_of_read_eq_ok {text : String} {v : Sample} (h : read text = .ok v) : v.IsPlain := by
  unfold read readText at h
  split at h
  · cases h
  · obtain ⟨⟨value, rest⟩, hvalue, h⟩ := bind_eq_ok h
    dsimp only at h
    split at h
    · cases h
      exact ((yieldsValues _).value _).value hvalue
    · cases h

/-- **Where the reader gives up over digits.**  Then the text has a run of digits that is too
long. -/
theorem hasLongRun_of_read_eq_error {text : String} {o : DigitOverflow}
    (h : read text = .error (.digits o)) : HasLongRun text.toList o := by
  unfold read readText at h
  split at h
  · cases h
  · have hyields := ((yieldsValues (2 * text.toList.length + 1)).value
      (skipSpace text.toList)).of_suffix (skipSpace_suffix text.toList)
    rcases bind_eq_error_iff.mp h with hvalue | ⟨⟨v, rest⟩, _, h⟩
    · exact hyields.run hvalue
    · dsimp only at h
      split at h <;> cases h

end Json

end MockScaffold
