import MockScaffold.Proofs.Json.ValueText
import MockScaffold.Proofs.Outcome
import MockScaffold.Proofs.Sample.Induction
import MockScaffold.Proofs.Text.Joined
import MockScaffold.Proofs.Text.Lines

/-!
# Embedded samples read back

What `Json.embed` writes is JSON, and it is read as the sample with everything that JSON lacks
turned into text (`read_embed`).  Keys become texts too, so two keys of a mapping may become one;
the last of them counts.

Between the texts of two values the printer only puts marks and line ends, and the further indent
only changes what follows a line end.  That is nowhere inside a value but between its parts, because
string literals have no line ends.
-/

namespace MockScaffold

/-! ## The JSON form of a sample -/

namespace Scalar

/-- How a key is spelled as the name of a member. -/
def jsonKey : Scalar → String
  | .null => "null"
  | .bool b => if b then "true" else "false"
  | .float x => x.write Double.jsonLayout
  | k => k.name

/-- A scalar as JSON has it. -/
def jsonForm : Scalar → Scalar
  | .float x => .float (Json.reread x)
  | .bytes b => .text (Scalar.bytes b).name
  | .date d => .text (Scalar.date d).name
  | .moment m => .text (Scalar.moment m).name
  | s => s

end Scalar

namespace Sample

mutual

/-- A sample as JSON has it. -/
def jsonForm : Sample → Sample
  | .scalar s => .scalar s.jsonForm
  | .list items => .list (jsonItems items)
  | .map entries => .map (putEntries [] (jsonMembers entries))
  | .set members => .text (setText members)
  | .pair a b => .list [jsonForm a, jsonForm b]

def jsonItems : List Sample → List Sample
  | [] => []
  | v :: rest => jsonForm v :: jsonItems rest

def jsonMembers : List (Scalar × Sample) → List (Scalar × Sample)
  | [] => []
  | (k, v) :: rest => (.text k.jsonKey, jsonForm v) :: jsonMembers rest

end

/-- The items of a list have their JSON forms one by one. -/
theorem jsonItems_eq_map (items : List Sample) : jsonItems items = items.map jsonForm := by
  induction items with
  | nil => rfl
  | cons v rest ih => rw [jsonItems, ih, List.map_cons]

/-- So have the entries of a mapping, under the texts of their keys. -/
theorem jsonMembers_eq_map (entries : List (Scalar × Sample)) :
    jsonMembers entries = entries.map fun e => (.text e.1.jsonKey, jsonForm e.2) := by
  induction entries with
  | nil => rfl
  | cons e rest ih => rw [jsonMembers, ih, List.map_cons]

end Sample

namespace Json

open Double

/-! ## Texts on one line -/

/-- A digit is no line feed. -/
theorem ne_newline_of_isDigit {c : Char} (hc : c.isDigit = true) : c ≠ '\n' := by
  rintro rfl
  cases hc

/-- Neither is a sign. -/
theorem newline_not_mem_signText (negative : Bool) : '\n' ∉ signText negative := by
  cases negative <;> decide

/-- So there is none in the digits of a number. -/
theorem newline_not_mem_toDigits (n : Nat) : '\n' ∉ Nat.toDigits 10 n :=
  fun h => ne_newline_of_isDigit (isDigit_of_mem_toDigits h) rfl

/-- Nor in a decimal text, whose other characters are the point and the mark of the exponent. -/
theorem newline_not_mem_decimalText {cs : List Char} (h : DecimalText cs) : '\n' ∉ cs := by
  have hdigits : ∀ {ds : List Char}, (∀ d ∈ ds, d.isDigit = true) → '\n' ∉ ds :=
    fun hds hmem => ne_newline_of_isDigit (hds _ hmem) rfl
  cases h with
  | mk hwhole hfraction hexponent =>
      simp only [List.mem_append, not_or]
      refine ⟨hdigits hwhole.isDigit, ?_, ?_⟩
      · cases hfraction with
        | none => exact List.not_mem_nil
        | some hds => simpa using hdigits hds
      · cases hexponent with
        | none => exact List.not_mem_nil
        | some hsign hds => rcases hsign with rfl | rfl <;> simpa using hdigits hds

/-! ## Scalars -/

/-- A sign and a text that starts with a digit are read as a number. -/
theorem readsAs_number {c : Char} {cs : List Char} {s : Scalar} (hc : c.isDigit = true)
    (negative : Bool) (h : ∀ rest, Follows rest →
      readLiteral (signText negative ++ c :: cs ++ rest) = .ok (s, rest)) :
    ReadsAs (signText negative ++ c :: cs) (.scalar s) := by
  cases negative with
  | true => exact .literal (by decide) h
  | false =>
      have hne : ∀ d : Char, d.isDigit = false → c ≠ d := by
        rintro d hd rfl
        rw [hc] at hd
        cases hd
      refine .literal ⟨?_, ?_⟩ h
      · simp [isSpace, hne ' ' rfl, hne '\t' rfl, hne '\n' rfl, hne '\r' rfl]
      · simp [hne '"' rfl, hne '[' rfl, hne ']' rfl, hne '{' rfl, hne '\uFEFF' rfl]

/-- The text of an integer is read as the integer. -/
theorem readsAs_toString {n : Int} (hn : n.natAbs < Nat.pow 10 digitLimit) :
    ReadsAs (toString n).toList (.scalar (.int n)) := by
  obtain ⟨c, cs, hc, hcs⟩ := exists_isDigit_of_numeral (numeral_toDigits n.natAbs) []
  rw [List.append_nil] at hcs
  have h := fun rest (hrest : Follows rest) => readLiteral_toString hn hrest
  rw [toList_toString_int, hcs] at h ⊢
  exact readsAs_number hc _ h

/-- The text of a floating-point number is read as a number, and stands on one line. -/
theorem readsAs_write (x : Double) :
    ReadsAs (x.write jsonLayout).toList (.scalar (.float (reread x))) ∧
      '\n' ∉ (x.write jsonLayout).toList := by
  have h := fun rest (hrest : Follows rest) => readLiteral_write x hrest
  rcases write_cases x with hword | ⟨negative, cs, hcs, htext⟩
  · simp only [List.mem_cons, List.not_mem_nil, or_false] at hword
    rcases hword with hword | hword | hword <;> rw [hword] at h ⊢ <;>
      exact ⟨.literal (by decide) h, by decide⟩
  · obtain ⟨c, cs', hc, hcs'⟩ := exists_isDigit_of_decimalText hcs []
    rw [List.append_nil] at hcs'
    have hline := newline_not_mem_decimalText hcs
    rw [htext, hcs'] at h ⊢
    refine ⟨readsAs_number hc negative h, ?_⟩
    rw [List.mem_append, not_or]
    exact ⟨newline_not_mem_signText negative, hcs' ▸ hline⟩

/-- What is written for an integer is its decimal text. -/
theorem integer_eq_ok {n : Int} {text : String} (h : integer n = .ok text) :
    n.natAbs < Nat.pow 10 digitLimit ∧ text = toString n := by
  have hn := mapError_eq_ok h
  unfold integerText at hn
  split at hn
  · next hlt => exact ⟨hlt, (Except.ok.inj hn).symm⟩
  · cases hn

/-- What is written for a scalar is read as its JSON form, and stands on one line. -/
theorem readsAs_scalar {s : Scalar} {text : String} (h : scalar s = .ok text) :
    ReadsAs text.toList (.scalar s.jsonForm) ∧ '\n' ∉ text.toList := by
  cases s with
  | null =>
      cases h
      exact ⟨.literal (by decide) fun _ _ => rfl, by decide⟩
  | bool b =>
      cases h
      cases b <;> exact ⟨.literal (by decide) fun _ _ => rfl, by decide⟩
  | int n =>
      obtain ⟨hn, rfl⟩ := integer_eq_ok h
      refine ⟨readsAs_toString hn, ?_⟩
      rw [toList_toString_int, List.mem_append, not_or]
      exact ⟨newline_not_mem_signText _, newline_not_mem_toDigits _⟩
  | float x =>
      obtain rfl := Except.ok.inj h
      exact readsAs_write x
  | _ =>
      obtain rfl := Except.ok.inj h
      exact ⟨readsAs_quote _, newline_not_mem_quote _⟩

/-- What is written for a key is its spelling in JSON. -/
theorem keyText_eq_ok {k : Scalar} {text : String} (h : keyText k = .ok text) :
    text = k.jsonKey := by
  cases k with
  | int n => exact (integer_eq_ok h).2
  | bytes _ => cases h
  | date _ => cases h
  | moment _ => cases h
  | _ => exact (Except.ok.inj h).symm

/-! ## Collections -/

/-- The start of a line, with its further indent. -/
def gap (indent : String) (level : Nat) : List Char :=
  Text.indented indent.toList (newline level).toList

/-- What stands between two items is blank. -/
theorem blank_gap {indent : String} (hindent : Blank indent.toList) (level : Nat) :
    Blank (gap indent level) := by
  have hspaces : '\n' ∉ List.replicate (2 * level) ' ' := by simp
  have hgap : gap indent level = '\n' :: (indent.toList ++ List.replicate (2 * level) ' ') := by
    rw [gap, newline, String.toList_ofList, Text.indented_cons, if_pos rfl,
      Text.indented_of_not_mem hspaces, List.cons_append]
  intro c hc
  rw [hgap, List.mem_cons, List.mem_append] at hc
  rcases hc with rfl | hc | hc
  · rfl
  · exact hindent c hc
  · rw [List.eq_of_mem_replicate hc]
    rfl

/-- A further indent changes a collection in the gaps and in its parts. -/
theorem indented_block (indent : String) {first last : String} {a z : Char}
    (hfirst : first.toList = [a]) (hlast : last.toList = [z]) (ha : a ≠ '\n') (hz : z ≠ '\n')
    (level : Nat) (texts : List String) :
    Text.indented indent.toList (block first last level texts).toList =
      enclosed a z (gap indent (level + 1)) (gap indent level)
        (texts.map fun t => Text.indented indent.toList t.toList) := by
  cases texts with
  | nil => simp [block, enclosed, hfirst, hlast, ha, hz]
  | cons t ts =>
      simp [block, enclosed, separated, hfirst, hlast, ha, hz, Text.toList_intercalate_cons,
        Text.indented_flatMap, List.flatMap_map, gap, -String.toList_intercalate]

/-- Items are printed one by one. -/
theorem printItems_eq_mapM (level : Nat) (items : List Sample) :
    printItems level items = items.mapM (print level) := by
  induction items with
  | nil => simp only [printItems, List.mapM_nil]; rfl
  | cons v rest ih => simp only [printItems, List.mapM_cons, ih]

/-- An entry as a member of an object. -/
def printEntry (level : Nat) (e : Scalar × Sample) : Except EmbedFault String := do
  let key ← keyText e.1
  let value ← print level e.2
  return quote key ++ ": " ++ value

/-- So are entries. -/
theorem printEntries_eq_mapM (level : Nat) (entries : List (Scalar × Sample)) :
    printEntries level entries = entries.mapM (printEntry level) := by
  induction entries with
  | nil => simp only [printEntries, List.mapM_nil]; rfl
  | cons e rest ih =>
      obtain ⟨k, v⟩ := e
      simp only [printEntries, List.mapM_cons, ih, printEntry, bind_assoc, pure_bind]

/-- What is written for an entry is read as its member, if that holds of its value. -/
theorem memberText_printEntry {indent : String} {level : Nat} {e : Scalar × Sample} {text : String}
    (hvalue : ∀ {level text}, print level e.2 = .ok text →
      ReadsAs (Text.indented indent.toList text.toList) e.2.jsonForm)
    (h : printEntry level e = .ok text) :
    MemberText (Text.indented indent.toList text.toList) (e.1.jsonKey, e.2.jsonForm) := by
  obtain ⟨key, hkey, h⟩ := bind_eq_ok h
  obtain ⟨value, hprinted, h⟩ := bind_eq_ok h
  cases h
  obtain rfl := keyText_eq_ok hkey
  refine ⟨_, ?_, hvalue hprinted⟩
  simp [Text.indented_of_not_mem (newline_not_mem_quote _)]

/-- What is written for a sample is read as its JSON form, whatever its further indent. -/
theorem readsAs_print {indent : String} (hindent : Blank indent.toList) {v : Sample} {level : Nat}
    {text : String} (h : print level v = .ok text) :
    ReadsAs (Text.indented indent.toList text.toList) v.jsonForm := by
  induction v generalizing level text with
  | scalar s =>
      obtain ⟨hreads, hline⟩ := readsAs_scalar (by simpa only [print] using h)
      rw [Text.indented_of_not_mem hline, Sample.jsonForm]
      exact hreads
  | list items ih =>
      rw [print, printItems_eq_mapM] at h
      obtain ⟨texts, htexts, rfl⟩ := map_eq_ok h
      rw [indented_block indent rfl rfl (by decide) (by decide), Sample.jsonForm,
        Sample.jsonItems_eq_map]
      have hparts := (List.forall₂_and_left _ _).mpr ⟨ih, mapM_eq_ok htexts⟩
      apply readsAs_list (blank_gap hindent _) (blank_gap hindent _)
      rw [List.forall₂_map_left_iff, List.forall₂_map_right_iff]
      exact hparts.flip.imp fun t v hv => hv.1 hv.2
  | map entries ih =>
      rw [print, printEntries_eq_mapM] at h
      obtain ⟨texts, htexts, rfl⟩ := map_eq_ok h
      have hmembers : entries.map (fun e => (Scalar.text e.1.jsonKey, e.2.jsonForm)) =
          (entries.map fun e => (e.1.jsonKey, e.2.jsonForm)).map fun m => (.text m.1, m.2) := by
        rw [List.map_map]
        rfl
      rw [indented_block indent rfl rfl (by decide) (by decide), Sample.jsonForm,
        Sample.jsonMembers_eq_map, hmembers]
      have hparts := (List.forall₂_and_left _ _).mpr ⟨ih, mapM_eq_ok htexts⟩
      apply readsAs_map (blank_gap hindent _) (blank_gap hindent _)
      rw [List.forall₂_map_left_iff, List.forall₂_map_right_iff]
      exact hparts.flip.imp fun t e he => memberText_printEntry he.1 he.2
  | set members =>
      rw [print] at h
      split at h
      · cases h
      · cases h
        rw [Text.indented_of_not_mem (newline_not_mem_quote _), Sample.jsonForm]
        exact readsAs_quote _
  | pair a b iha ihb =>
      rw [print] at h
      obtain ⟨first, hfirst, h⟩ := bind_eq_ok h
      obtain ⟨second, hsecond, h⟩ := bind_eq_ok h
      cases h
      rw [indented_block indent rfl rfl (by decide) (by decide), Sample.jsonForm]
      exact readsAs_list (blank_gap hindent _) (blank_gap hindent _)
        (.cons (iha hfirst) (.cons (ihb hsecond) .nil))

/-- **What is embedded is read back.**  With blanks as the further indent, the text that embeds a
sample is read as the JSON form of the sample. -/
theorem read_embed {indent : String} (hindent : Blank indent.toList) {v : Sample} {text : String}
    (h : embed indent v = .ok text) : read text = .ok v.jsonForm := by
  obtain ⟨printed, hprinted, rfl⟩ := map_eq_ok h
  rw [read, Text.toList_indentLines]
  exact (readsAs_print hindent hprinted).readText_eq

end Json

end MockScaffold
