import Mathlib.Data.List.Forall2
import MockScaffold.Proofs.Json.NumberText
import MockScaffold.Proofs.Json.QuotedText

/-!
# Values read back

`ReadsAs cs w` says that a text is read as a value wherever a value can end.  Words, numbers and
string literals are such texts, and so is what collects such texts between brackets or braces, with
a comma between two of them and any blanks around them (`readsAs_list`, `readsAs_map`).

The reader's allowance of steps is twice the length of the text.  Each item uses up two of its
steps, one for the item and one for the place between it and the next, and so a text is always
longer than what its items need.
-/

namespace MockScaffold.Json

/-! ## Blanks -/

/-- A text of blanks only. -/
def Blank (cs : List Char) : Prop := ∀ c ∈ cs, isSpace c = true

/-- Blanks in front are passed over. -/
theorem skipSpace_append {gap : List Char} (hgap : Blank gap) (rest : List Char) :
    skipSpace (gap ++ rest) = skipSpace rest :=
  List.dropWhile_append_of_pos hgap

/-- Nothing is passed over in front of another character. -/
theorem skipSpace_cons {c : Char} (hc : isSpace c = false) (rest : List Char) :
    skipSpace (c :: rest) = c :: rest := by
  simp [skipSpace, hc]

/-- A comma, a bracket or a brace may follow a value, behind any blanks. -/
theorem Follows.append {gap : List Char} (hgap : Blank gap) {c : Char}
    (hc : c = ',' ∨ c = ']' ∨ c = '}') (rest : List Char) : Follows (gap ++ c :: rest) := by
  cases gap with
  | nil => exact .cons (Or.inr hc)
  | cons d cs => exact .cons (Or.inl (hgap d List.mem_cons_self))

/-! ## Texts of values -/

/-- The text starts like a value: not with a blank, a closing bracket or a byte order mark. -/
def StartsValue (cs : List Char) : Prop :=
  ∃ c cs', cs = c :: cs' ∧ isSpace c = false ∧ c ≠ ']' ∧ c ≠ '\uFEFF'

/-- A quotation mark and the opening brackets start a value. -/
theorem StartsValue.mark {c : Char} (hc : c ∈ ['"', '[', '{']) (cs : List Char) :
    StartsValue (c :: cs) := by
  refine ⟨c, cs, rfl, ?_⟩
  simp only [List.mem_cons, List.not_mem_nil, or_false] at hc
  rcases hc with rfl | rfl | rfl <;> decide

/-- What starts a value is not empty. -/
theorem StartsValue.length_pos {cs : List Char} (h : StartsValue cs) : 0 < cs.length := by
  obtain ⟨c, cs', rfl, _⟩ := h
  exact Nat.succ_pos _

/-- Blanks in front of a value are skipped, and nothing else. -/
theorem StartsValue.skipSpace_append {cs : List Char} (h : StartsValue cs) (rest : List Char) :
    skipSpace (cs ++ rest) = cs ++ rest := by
  obtain ⟨c, cs', rfl, hc, _⟩ := h
  exact skipSpace_cons hc _

/-- The text is read as the value, whatever follows the value. -/
structure ReadsAs (cs : List Char) (w : Sample) : Prop where
  starts : StartsValue cs
  reads : ∀ {fuel : Nat} {rest : List Char}, 2 * cs.length ≤ fuel + 1 → Follows rest →
    readValue fuel (cs ++ rest) = .ok (w, rest)

/-- It is enough that a text is read where a step is allowed. -/
theorem ReadsAs.of_succ {cs : List Char} {w : Sample} (hstarts : StartsValue cs)
    (hreads : ∀ {fuel rest}, 2 * cs.length ≤ fuel + 2 → Follows rest →
      readValue (fuel + 1) (cs ++ rest) = .ok (w, rest)) : ReadsAs cs w := by
  refine ⟨hstarts, ?_⟩
  intro fuel rest hfuel hrest
  have hlen := hstarts.length_pos
  cases fuel with
  | zero => omega
  | succ fuel => exact hreads hfuel hrest

/-- A word or a number is read as a scalar. -/
theorem ReadsAs.literal {c : Char} {cs : List Char} {s : Scalar}
    (hc : isSpace c = false ∧ c ∉ ['"', '[', ']', '{', '\uFEFF'])
    (h : ∀ rest, Follows rest → readLiteral (c :: cs ++ rest) = .ok (s, rest)) :
    ReadsAs (c :: cs) (.scalar s) := by
  apply of_succ
  · exact ⟨c, cs, rfl, hc.1, by simp_all, by simp_all⟩
  · intro fuel rest _ hrest
    have hread := h rest hrest
    rw [List.cons_append] at hread ⊢
    unfold readValue
    split <;> simp_all [Except.map]

/-- A string literal is read as its text. -/
theorem readsAs_quote (s : String) : ReadsAs (quote s).toList (.text s) := by
  rw [toList_quote]
  apply ReadsAs.of_succ (.mark (by decide) _)
  intro fuel rest _ _
  rw [List.cons_append, List.append_assoc, List.singleton_append, readValue, readString_quote]
  rfl

/-! ## Arrays -/

/-- Texts with a comma and a gap between two of them, the first one given apart. -/
def separated (gap first : List Char) (others : List (List Char)) : List Char :=
  first ++ others.flatMap fun t => ',' :: (gap ++ t)

/-- A single item has no comma. -/
@[simp] theorem separated_nil (gap t : List Char) : separated gap t [] = t := by simp [separated]

/-- A comma stands between the first item and the others. -/
theorem separated_cons (gap t u : List Char) (ts : List (List Char)) :
    separated gap t (u :: ts) = t ++ ',' :: (gap ++ separated gap u ts) := by
  simp [separated]

/-- Blanks in front of separated texts are skipped, and nothing else. -/
theorem skipSpace_separated (gap : List Char) {t : List Char}
    (h : ∀ rest, skipSpace (t ++ rest) = t ++ rest) (ts : List (List Char)) (rest : List Char) :
    skipSpace (separated gap t ts ++ rest) = separated gap t ts ++ rest := by
  rw [separated, List.append_assoc, h]

/-- The last item stands before a closing bracket. -/
theorem readItems_last {fuel : Nat} {cs rest after : List Char} {w : Sample}
    (h : readValue fuel cs = .ok (w, rest)) (hrest : skipSpace rest = ']' :: after) :
    readItems (fuel + 1) cs = .ok ([w], after) := by
  rw [readItems, h]
  simp only [bind, Except.bind, hrest]
  rfl

/-- An item before a comma is followed by others. -/
theorem readItems_next {fuel : Nat} {cs rest after after' : List Char} {w : Sample}
    {ws : List Sample} (h : readValue fuel cs = .ok (w, rest))
    (hrest : skipSpace rest = ',' :: after)
    (hothers : readItems fuel (skipSpace after) = .ok (ws, after')) :
    readItems (fuel + 1) cs = .ok (w :: ws, after') := by
  rw [readItems, h]
  simp only [bind, Except.bind, hrest, hothers]
  rfl

/-- Items are read up to the closing bracket. -/
theorem readItems_separated {gap gap' : List Char} (hgap : Blank gap) (hgap' : Blank gap')
    {t : List Char} {w : Sample} {ts : List (List Char)} {ws : List Sample} (h : ReadsAs t w)
    (hs : List.Forall₂ ReadsAs ts ws) {fuel : Nat}
    (hfuel : 2 * (separated gap t ts).length ≤ fuel) (rest : List Char) :
    readItems fuel (separated gap t ts ++ (gap' ++ ']' :: rest)) = .ok (w :: ws, rest) := by
  have hlen := h.starts.length_pos
  induction hs generalizing t w fuel with
  | nil =>
      rw [separated_nil] at hfuel ⊢
      obtain ⟨fuel, rfl⟩ := Nat.exists_eq_add_one_of_ne_zero (show fuel ≠ 0 by omega)
      have hread := h.reads (show _ ≤ fuel + 1 by omega) (.append hgap' (Or.inr (Or.inl rfl)) rest)
      apply readItems_last hread
      rw [Json.skipSpace_append hgap', skipSpace_cons rfl]
  | @cons u x us xs hu _ ih =>
      rw [separated_cons, List.length_append, List.length_cons, List.length_append] at hfuel
      obtain ⟨fuel, rfl⟩ := Nat.exists_eq_add_one_of_ne_zero (show fuel ≠ 0 by omega)
      rw [separated_cons, List.append_assoc, List.cons_append, List.append_assoc]
      apply readItems_next (h.reads (by omega) (.cons (Or.inr (Or.inl rfl)))) (skipSpace_cons rfl _)
      rw [Json.skipSpace_append hgap, skipSpace_separated _ hu.starts.skipSpace_append]
      exact ih hu (by omega) hu.starts.length_pos

/-- A bracket that none closes at once opens a list of items. -/
theorem readValue_items {fuel : Nat} {cs after : List Char} {ws : List Sample}
    (hne : ∀ rest, skipSpace cs ≠ ']' :: rest)
    (hitems : readItems fuel (skipSpace cs) = .ok (ws, after)) :
    readValue (fuel + 1) ('[' :: cs) = .ok (.list ws, after) := by
  rw [readValue]
  split
  · next rest heq => exact absurd heq (hne rest)
  · rw [hitems]
    rfl

/-- The text of a collection: what stands between its marks, with a gap on either side. -/
def enclosed (first last : Char) (gap gap' : List Char) : List (List Char) → List Char
  | [] => [first, last]
  | t :: ts => first :: (gap ++ (separated gap t ts ++ (gap' ++ [last])))

/-- A list in brackets, taken apart with what follows it. -/
theorem enclosed_cons_append (first last : Char) (gap gap' t : List Char) (ts : List (List Char))
    (rest : List Char) : enclosed first last gap gap' (t :: ts) ++ rest =
      first :: (gap ++ (separated gap t ts ++ (gap' ++ last :: rest))) := by
  simp [enclosed]

/-- The two brackets count for two more characters. -/
theorem length_enclosed_cons (first last : Char) (gap gap' t : List Char)
    (ts : List (List Char)) :
    (separated gap t ts).length + 2 ≤ (enclosed first last gap gap' (t :: ts)).length := by
  simp only [enclosed, List.length_cons, List.length_append, List.length_nil]
  omega

/-- Texts of values between brackets are read as the list of the values. -/
theorem readsAs_list {gap gap' : List Char} (hgap : Blank gap) (hgap' : Blank gap')
    {ts : List (List Char)} {ws : List Sample} (h : List.Forall₂ ReadsAs ts ws) :
    ReadsAs (enclosed '[' ']' gap gap' ts) (.list ws) := by
  cases h with
  | nil => exact .of_succ (.mark (by decide) _) fun _ _ => rfl
  | @cons t w ts ws ht hts =>
      have hstarts : StartsValue (enclosed '[' ']' gap gap' (t :: ts)) := .mark (by decide) _
      have hlen := length_enclosed_cons '[' ']' gap gap' t ts
      apply ReadsAs.of_succ hstarts
      intro fuel rest hfuel _
      have hskip := skipSpace_separated gap ht.starts.skipSpace_append ts (gap' ++ ']' :: rest)
      rw [enclosed_cons_append]
      apply readValue_items
      · rw [Json.skipSpace_append hgap, hskip]
        obtain ⟨c, cs, rfl, _, hc, _⟩ := ht.starts
        exact fun _ h => hc (List.head_eq_of_cons_eq h)
      · rw [Json.skipSpace_append hgap, hskip]
        exact readItems_separated hgap hgap' ht hts (by omega) rest

/-! ## Objects -/

/-- The text of a member: its name as a string literal, a colon, a blank and the text of its
value. -/
def MemberText (t : List Char) (m : String × Sample) : Prop :=
  ∃ u, t = (quote m.1).toList ++ ':' :: ' ' :: u ∧ ReadsAs u m.2

/-- A member starts with the quotation mark of its key. -/
theorem MemberText.starts {t : List Char} {m : String × Sample} (h : MemberText t m) :
    StartsValue t := by
  obtain ⟨u, rfl, _⟩ := h
  rw [toList_quote, List.cons_append]
  exact .mark (by decide) _

/-- Behind the colon of a member its value is read. -/
theorem MemberText.reads {t : List Char} {m : String × Sample} (h : MemberText t m) {fuel : Nat}
    (hfuel : 2 * t.length ≤ fuel + 1) {rest : List Char} (hrest : Follows rest) :
    ∃ cs, t ++ rest = (quote m.1).toList ++ ':' :: cs ∧
      readValue fuel (skipSpace cs) = .ok (m.2, rest) := by
  obtain ⟨u, rfl, hu⟩ := h
  have hblank : skipSpace (' ' :: (u ++ rest)) = skipSpace (u ++ rest) := rfl
  rw [List.length_append, List.length_cons, List.length_cons] at hfuel
  refine ⟨' ' :: (u ++ rest), by simp, ?_⟩
  rw [hblank, hu.starts.skipSpace_append]
  exact hu.reads (by omega) hrest

/-- The last member stands before a closing brace. -/
theorem readMembers_last {fuel : Nat} {key : String} {cs rest after : List Char} {w : Sample}
    (h : readValue fuel (skipSpace cs) = .ok (w, rest)) (hrest : skipSpace rest = '}' :: after) :
    readMembers (fuel + 1) ((quote key).toList ++ ':' :: cs) = .ok ([(.text key, w)], after) := by
  have hcolon : skipSpace (':' :: cs) = ':' :: cs := skipSpace_cons rfl cs
  rw [toList_quote, List.cons_append, List.append_assoc, List.singleton_append, readMembers,
    readString_quote]
  simp only [bind, Except.bind, hcolon, h, hrest]
  rfl

/-- A member before a comma is followed by others. -/
theorem readMembers_next {fuel : Nat} {key : String} {cs rest after after' : List Char}
    {w : Sample} {ms : List (Scalar × Sample)}
    (h : readValue fuel (skipSpace cs) = .ok (w, rest)) (hrest : skipSpace rest = ',' :: after)
    (hothers : readMembers fuel (skipSpace after) = .ok (ms, after')) :
    readMembers (fuel + 1) ((quote key).toList ++ ':' :: cs) =
      .ok ((.text key, w) :: ms, after') := by
  have hcolon : skipSpace (':' :: cs) = ':' :: cs := skipSpace_cons rfl cs
  rw [toList_quote, List.cons_append, List.append_assoc, List.singleton_append, readMembers,
    readString_quote]
  simp only [bind, Except.bind, hcolon, h, hrest, hothers]
  rfl

/-- Members are read up to the closing brace. -/
theorem readMembers_separated {gap gap' : List Char} (hgap : Blank gap) (hgap' : Blank gap')
    {t : List Char} {m : String × Sample} {ts : List (List Char)} {ms : List (String × Sample)}
    (h : MemberText t m) (hs : List.Forall₂ MemberText ts ms) {fuel : Nat}
    (hfuel : 2 * (separated gap t ts).length ≤ fuel) (rest : List Char) :
    readMembers fuel (separated gap t ts ++ (gap' ++ '}' :: rest)) =
      .ok ((m :: ms).map fun m => (.text m.1, m.2), rest) := by
  have hlen := h.starts.length_pos
  induction hs generalizing t m fuel with
  | nil =>
      rw [separated_nil] at hfuel ⊢
      obtain ⟨fuel, rfl⟩ := Nat.exists_eq_add_one_of_ne_zero (show fuel ≠ 0 by omega)
      have hfollows := Follows.append hgap' (Or.inr (Or.inr rfl)) rest
      obtain ⟨cs, hcs, hread⟩ := h.reads (show _ ≤ fuel + 1 by omega) hfollows
      rw [hcs]
      apply readMembers_last hread
      rw [Json.skipSpace_append hgap', skipSpace_cons rfl]
  | @cons u x us xs hu _ ih =>
      rw [separated_cons, List.length_append, List.length_cons, List.length_append] at hfuel
      obtain ⟨fuel, rfl⟩ := Nat.exists_eq_add_one_of_ne_zero (show fuel ≠ 0 by omega)
      rw [separated_cons, List.append_assoc, List.cons_append, List.append_assoc]
      obtain ⟨cs, hcs, hread⟩ :=
        h.reads (show _ ≤ fuel + 1 by omega) (.cons (Or.inr (Or.inl rfl)))
      rw [hcs]
      apply readMembers_next hread (skipSpace_cons rfl _)
      rw [Json.skipSpace_append hgap, skipSpace_separated _ hu.starts.skipSpace_append]
      exact ih hu (by omega) hu.starts.length_pos

/-- A brace that none closes at once opens an object. -/
theorem readValue_members {fuel : Nat} {cs after : List Char} {ms : List (Scalar × Sample)}
    (hne : ∀ rest, skipSpace cs ≠ '}' :: rest)
    (hmembers : readMembers fuel (skipSpace cs) = .ok (ms, after)) :
    readValue (fuel + 1) ('{' :: cs) = .ok (.map (putEntries [] ms), after) := by
  rw [readValue]
  split
  · next rest heq => exact absurd heq (hne rest)
  · rw [hmembers]
    rfl

/-- Texts of members between braces are read as the mapping that the members make. -/
theorem readsAs_map {gap gap' : List Char} (hgap : Blank gap) (hgap' : Blank gap')
    {ts : List (List Char)} {ms : List (String × Sample)} (h : List.Forall₂ MemberText ts ms) :
    ReadsAs (enclosed '{' '}' gap gap' ts)
      (.map (putEntries [] (ms.map fun m => (.text m.1, m.2)))) := by
  cases h with
  | nil => exact .of_succ (.mark (by decide) _) fun _ _ => rfl
  | @cons t m ts ms ht hts =>
      have hstarts : StartsValue (enclosed '{' '}' gap gap' (t :: ts)) := .mark (by decide) _
      have hlen := length_enclosed_cons '{' '}' gap gap' t ts
      apply ReadsAs.of_succ hstarts
      intro fuel rest hfuel _
      have hskip := skipSpace_separated gap ht.starts.skipSpace_append ts (gap' ++ '}' :: rest)
      rw [enclosed_cons_append]
      apply readValue_members
      · rw [Json.skipSpace_append hgap, hskip]
        obtain ⟨u, rfl, _⟩ := ht
        rw [toList_quote]
        exact fun _ h => absurd (List.head_eq_of_cons_eq h) (by decide)
      · rw [Json.skipSpace_append hgap, hskip]
        exact readMembers_separated hgap hgap' ht hts (by omega) rest

/-! ## Whole texts -/

/-- A text of a value is a whole text. -/
theorem ReadsAs.readText_eq {cs : List Char} {w : Sample} (h : ReadsAs cs w) :
    readText cs = .ok w := by
  have hskip := h.starts.skipSpace_append []
  have hread := h.reads (show _ ≤ 2 * cs.length + 1 + 1 by omega) .nil
  rw [List.append_nil] at hskip hread
  unfold readText
  split
  · obtain ⟨c, cs', heq, _, _, hc⟩ := h.starts
    exact absurd (List.head_eq_of_cons_eq heq).symm hc
  · rw [hskip, hread]
    rfl

end MockScaffold.Json
