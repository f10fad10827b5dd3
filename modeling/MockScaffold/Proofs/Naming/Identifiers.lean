import MockScaffold.Proofs.Naming.Fragment
import MockScaffold.Proofs.Shape.PropertyNames

/-!
# Which names are identifiers

A name takes from its path all characters but the delimiters, in their order, and changes nothing
but their case (`map_toUpper_fragment`, for paths in ASCII).  Whether a text is an identifier is
told by its characters and by the first of them (`isIdentifier_iff`), and case has no part in it.
So it can be told from the path which names are identifiers: `isIdentifier_names_iff`.
-/

namespace MockScaffold

/-- An identifier is not empty, consists of letters, digits, underscores and dollar signs, and does
not start with a digit. -/
theorem isIdentifier_iff {cs : List Char} : isIdentifier cs = true ↔
    (∀ c ∈ cs, isIdentifierPart c = true) ∧ ∃ c, cs.head? = some c ∧ c.isDigit = false := by
  have hletter {c : Char} (hc : c.isAlpha = true) : c.isDigit = false := by
    have hrange := Text.toNat_of_isAlpha hc
    simp only [Char.isDigit, Bool.and_eq_false_iff, decide_eq_false_iff_not,
      UInt32.le_iff_toNat_le]
    right
    intro hdigit
    have hlow : c.toNat ≤ 57 := hdigit
    omega
  have hstart (c : Char) : isIdentifierStart c = true ↔
      isIdentifierPart c = true ∧ c.isDigit = false := by
    simp only [isIdentifierStart, isIdentifierPart, Char.isAlphanum, Bool.or_eq_true, beq_iff_eq]
    constructor
    · rintro ((hc | rfl) | rfl)
      · exact ⟨.inl (.inl (.inl hc)), hletter hc⟩
      · decide
      · decide
    · rintro ⟨((hc | hc) | hc) | hc, hdigit⟩
      · exact .inl (.inl hc)
      · rw [hdigit] at hc
        cases hc
      · exact .inl (.inr hc)
      · exact .inr hc
  cases cs with
  | nil => simp [isIdentifier]
  | cons c cs =>
      simp only [isIdentifier, Bool.and_eq_true, List.all_eq_true, hstart, List.forall_mem_cons,
        List.head?_cons, Option.some.injEq, exists_eq_left']
      exact and_right_comm

/-- Before an identifier, everything that may stand in one makes one, unless it starts with a
digit. -/
theorem isIdentifier_append_iff {cs ds : List Char} (hds : isIdentifier ds = true) :
    isIdentifier (cs ++ ds) = true ↔
      (∀ c ∈ cs, isIdentifierPart c = true) ∧ ∀ c, cs.head? = some c → c.isDigit = false := by
  obtain ⟨hparts, hhead⟩ := isIdentifier_iff.mp hds
  rw [isIdentifier_iff, List.forall_mem_append, and_iff_left hparts]
  refine and_congr_right fun _ => ?_
  cases cs with
  | nil => simpa using hhead
  | cons c cs => simp

/-- After an identifier, it is enough that everything may stand in one. -/
theorem isIdentifier_append_right_iff {cs ds : List Char} (hcs : isIdentifier cs = true) :
    isIdentifier (cs ++ ds) = true ↔ ∀ c ∈ ds, isIdentifierPart c = true := by
  obtain ⟨hparts, c, hhead, hdigit⟩ := isIdentifier_iff.mp hcs
  have hfirst : (cs ++ ds).head? = some c := by
    rw [List.head?_append, hhead]
    rfl
  rw [isIdentifier_iff, List.forall_mem_append, and_iff_right hparts]
  exact and_iff_left ⟨c, hfirst, hdigit⟩

/-- A word of letters is an identifier in lower case. -/
theorem isIdentifier_lower {word : String} (hne : word ≠ "")
    (hletters : ∀ c ∈ word.toList, c.isAlpha = true) :
    isIdentifier (Text.lower word).toList = true := by
  have hascii : ∀ c ∈ word.toList, c.toNat < 128 := by
    intro c hc
    have hrange := Text.toNat_of_isAlpha (hletters c hc)
    omega
  have hstart : ∀ c ∈ word.toList, isIdentifierStart c.toLower = true := by
    intro c hc
    have hlower : c.isAlpha = true → isIdentifierStart c.toLower = true :=
      Text.of_ascii (p := fun c => c.isAlpha = true → isIdentifierStart c.toLower = true)
        (by decide) (hascii c hc)
    exact hlower (hletters c hc)
  rw [Text.lower, String.toList_ofList, Text.lowerAfter_of_ascii hascii]
  cases hword : word.toList with
  | nil => exact absurd (String.toList_eq_nil_iff.mp hword) hne
  | cons c cs =>
      rw [hword] at hstart
      obtain ⟨hc, hcs⟩ := List.forall_mem_cons.mp hstart
      rw [List.map_cons, isIdentifier, hc, Bool.true_and, List.all_map, List.all_eq_true]
      exact fun d hd => Shape.isIdentifierPart_of_isIdentifierStart (hcs d hd)

namespace Naming

/-! ## A fragment and its path -/

/-- A fragment is the path without its delimiters, up to case. -/
theorem map_toUpper_fragment {path : String} (h : ∀ c ∈ path.toList, c.toNat < 128) :
    (fragment path).toList.map Char.toUpper =
      ((dropApi path.toList).filter (!isDelimiter ·)).map Char.toUpper := by
  let parts := ((dropApi path.toList).filter (!isBrace ·)).splitOnP isSeparator
  have hflat : parts.flatten = (dropApi path.toList).filter (!isDelimiter ·) := flatten_parts _
  have hascii : ∀ part ∈ parts, ∀ c ∈ part, c.toNat < 128 := by
    intro part hpart c hc
    have hmem : c ∈ parts.flatten := List.mem_flatten.mpr ⟨part, hpart, hc⟩
    rw [hflat] at hmem
    exact h c (mem_of_mem_dropApi (List.mem_of_mem_filter hmem))
  calc (fragment path).toList.map Char.toUpper
      = (parts.flatMap Text.capitalize).map Char.toUpper := by
        rw [fragment, String.toList_ofList, joinParts]
    _ = parts.flatMap fun part => (Text.capitalize part).map Char.toUpper := List.map_flatMap
    _ = parts.flatMap fun part => part.map Char.toUpper :=
        List.flatMap_congr fun part hpart => Text.map_toUpper_capitalize (hascii part hpart)
    _ = parts.flatten.map Char.toUpper := by rw [List.map_flatten, List.flatMap_def]
    _ = ((dropApi path.toList).filter (!isDelimiter ·)).map Char.toUpper := by rw [hflat]

/-- The characters of paths that give identifiers. -/
def isPlainPathChar (c : Char) : Bool :=
  c.isAlpha || c.isDigit || c == '$' || c == '/' || c == '_' || c == '{' || c == '}'

/-- A plain character of a path is a delimiter or part of an identifier. -/
theorem isPlainPathChar_eq (c : Char) :
    isPlainPathChar c = (isDelimiter c || isIdentifierPart c) := by
  rw [Bool.eq_iff_iff]
  simp only [isPlainPathChar, isDelimiter, isSeparator, isBrace, isIdentifierPart, Char.isAlphanum,
    Bool.or_eq_true]
  tauto

/-- A fragment consists of what may stand in an identifier just when its path gives nothing else. -/
theorem forall_isIdentifierPart_fragment_iff {path : String}
    (h : ∀ c ∈ path.toList, c.toNat < 128) :
    (∀ c ∈ (fragment path).toList, isIdentifierPart c = true) ↔
      ∀ c ∈ dropApi path.toList, isPlainPathChar c = true := by
  have hcase (cs : List Char) : (∀ c ∈ cs, isIdentifierPart c = true) ↔
      ∀ c ∈ cs.map Char.toUpper, isIdentifierPart c = true := by
    have hupper := Text.toUpper_congr (f := isIdentifierPart) (by decide)
    simp [hupper]
  rw [hcase, map_toUpper_fragment h, ← hcase]
  simp only [List.mem_filter, isPlainPathChar_eq, Bool.or_eq_true, Bool.not_eq_true']
  refine forall_congr' fun c => ?_
  cases isDelimiter c <;> simp

/-- A fragment starts with a digit just when that is the first character it takes over. -/
theorem head?_fragment_isDigit_iff {path : String} (h : ∀ c ∈ path.toList, c.toNat < 128) :
    (∀ c, (fragment path).toList.head? = some c → c.isDigit = false) ↔
      ∀ c, (dropApi path.toList).find? (!isDelimiter ·) = some c → c.isDigit = false := by
  have hcase (cs : List Char) : (∀ c, cs.head? = some c → c.isDigit = false) ↔
      ∀ c, (cs.map Char.toUpper).head? = some c → c.isDigit = false := by
    have hupper := Text.toUpper_congr (f := Char.isDigit) (by decide)
    simp [hupper]
  rw [hcase, map_toUpper_fragment h, ← hcase, List.head?_filter]

/-! ## Names -/

/-- No delimiter is left in a fragment, whatever the path. -/
theorem isDelimiter_eq_false_of_mem_fragment {path : String} {c : Char}
    (h : c ∈ (fragment path).toList) : isDelimiter c = false := by
  by_contra hc
  have hdelimiter : isDelimiter c = true := by simpa using hc
  have huncapital : Text.isUncapital c = true := by
    simp only [isDelimiter, isSeparator, isBrace, Bool.or_eq_true, beq_iff_eq] at hdelimiter
    rcases hdelimiter with (rfl | rfl) | (rfl | rfl) <;> rfl
  exact hc (mem_of_mem_fragment huncapital h).2

/-- **Which names are identifiers.**  No fragment holds a delimiter.  For a path in ASCII, let `rest`
be what follows one leading `/api/`.  The names of types are identifiers just when `rest` consists
of letters, digits, dollar signs and delimiters, and its first character that is no delimiter, if it
has one, is no digit.  For the names of functions the first condition is enough, as these start with
the method. -/
theorem isIdentifier_names_iff (path : String) :
    (∀ c ∈ (fragment path).toList, isDelimiter c = false) ∧
    ((∀ c ∈ path.toList, c.toNat < 128) →
      let rest := if "/api/".toList <+: path.toList then path.toList.drop 5 else path.toList
      (∀ suffix, suffix = "Request" ∨ suffix = "Response" →
        (isIdentifier (typeName path suffix).toList = true ↔
          (∀ c ∈ rest, isPlainPathChar c = true) ∧
            ∀ c, rest.find? (!isDelimiter ·) = some c → c.isDigit = false)) ∧
      ∀ method, method ≠ "" → (∀ c ∈ method.toList, c.isAlpha = true) →
        (isIdentifier (functionName method path).toList = true ↔
          ∀ c ∈ rest, isPlainPathChar c = true)) := by
  refine ⟨fun c hc => isDelimiter_eq_false_of_mem_fragment hc, fun hascii => ?_⟩
  dsimp only
  rw [← dropApi_eq_ite]
  constructor
  · intro suffix hsuffix
    have hidentifier : isIdentifier suffix.toList = true := by
      rcases hsuffix with rfl | rfl <;> decide
    rw [typeName, String.toList_append, isIdentifier_append_iff hidentifier,
      forall_isIdentifierPart_fragment_iff hascii, head?_fragment_isDigit_iff hascii]
  · intro method hne hletters
    rw [functionName, String.toList_append,
      isIdentifier_append_right_iff (isIdentifier_lower hne hletters),
      forall_isIdentifierPart_fragment_iff hascii]

/-- A path whose first part starts with a digit gives a function a name, but no type. -/
theorem isIdentifier_names_leadingDigit :
    (∀ c ∈ "/api/_\x7b2fa\x7d/codes".toList, c.toNat < 128) ∧
      ¬ isIdentifier (typeName "/api/_\x7b2fa\x7d/codes" "Request").toList = true ∧
      isIdentifier (functionName "GET" "/api/_\x7b2fa\x7d/codes").toList = true ∧
      isIdentifier (typeName "/api/\x7bid\x7d/2fa" "Response").toList = true := by
  have hascii : ∀ c ∈ "/api/_\x7b2fa\x7d/codes".toList, c.toNat < 128 := by simp
  have hinner : ∀ c ∈ "/api/\x7bid\x7d/2fa".toList, c.toNat < 128 := by simp
  obtain ⟨_, hnames⟩ := isIdentifier_names_iff "/api/_\x7b2fa\x7d/codes"
  obtain ⟨htypes, hfunctions⟩ := hnames hascii
  obtain ⟨hinnerTypes, _⟩ := (isIdentifier_names_iff "/api/\x7bid\x7d/2fa").2 hinner
  refine ⟨hascii, ?_, ?_, ?_⟩
  · rw [htypes "Request" (.inl rfl)]
    simp [isPlainPathChar, isDelimiter, isSeparator, isBrace]
  · rw [hfunctions "GET" (by decide) (by simp)]
    simp [isPlainPathChar]
  · rw [hinnerTypes "Response" (.inr rfl)]
    simp [isPlainPathChar, isDelimiter, isSeparator, isBrace]

end Naming

end MockScaffold
