import Mathlib.Data.List.Basic
import Mathlib.Data.List.TakeWhile
import MockScaffold.Proofs.Json.QuotedText
import MockScaffold.Proofs.Text.Joined
import MockScaffold.Shape.Rendering

/-!
# Names of properties

In a type expression the name of a field is a token: an identifier stands as it is, and any other
text is written as a string literal.  The one exception are *broken* names, identifiers with a line
feed after them, which are written as they stand (`isToken_propertyName_iff`).

Where a token ends can be told from what follows (`propertyName_append_inj`).  A reader finds the
name there, with the line feed of a broken name lost as a blank (`readProperty?_propertyName`); so
two names are names of one property only if one is broken and made of the other
(`knownName_eq_iff`).
-/

namespace MockScaffold.Shape

/-! ## Identifiers -/

/-- What starts an identifier may go on with it. -/
theorem isIdentifierPart_of_isIdentifierStart {c : Char} (h : isIdentifierStart c = true) :
    isIdentifierPart c = true := by
  simp only [isIdentifierStart, isIdentifierPart, Char.isAlphanum, Bool.or_eq_true] at h ⊢
  rcases h with (h | h) | h
  · exact Or.inl (Or.inl (Or.inl h))
  · exact Or.inl (Or.inr h)
  · exact Or.inr h

/-- Identifiers consist of characters that may stand in an identifier. -/
theorem isIdentifierPart_of_mem {c : Char} {cs : List Char} (h : isIdentifier cs = true)
    (hc : c ∈ cs) : isIdentifierPart c = true := by
  cases cs with
  | nil => simp at hc
  | cons first rest =>
      simp only [isIdentifier, Bool.and_eq_true, List.all_eq_true] at h
      rcases List.mem_cons.mp hc with rfl | hc
      · exact isIdentifierPart_of_isIdentifierStart h.1
      · exact h.2 c hc

/-- No identifier has a line feed. -/
theorem newline_not_mem_of_isIdentifier {cs : List Char} (h : isIdentifier cs = true) :
    '\n' ∉ cs := by
  intro hmem
  have hpart := isIdentifierPart_of_mem h hmem
  exact absurd hpart (by decide)

/-! ## Bare names -/

/-- An identifier with a line feed after it. -/
def IsBroken (name : String) : Prop :=
  ∃ stem : String, isIdentifier stem.toList = true ∧ name = stem ++ "\n"

/-- What makes a name broken can be told from its last character and the ones before. -/
theorem isBroken_iff {name : String} : IsBroken name ↔
    name.toList.getLast? = some '\n' ∧ isIdentifier name.toList.dropLast = true := by
  constructor
  · rintro ⟨stem, hstem, rfl⟩
    simp [hstem]
  · rintro ⟨hlast, hstem⟩
    refine ⟨String.ofList name.toList.dropLast, by simpa using hstem, ?_⟩
    have hsplit := List.dropLast_append_getLast? '\n' (Option.mem_def.mpr hlast)
    rw [← String.toList_inj, String.toList_append, String.toList_ofList]
    exact hsplit.symm

instance : DecidablePred IsBroken := fun _ => decidable_of_iff _ isBroken_iff.symm

/-- A bare name is an identifier or a broken name. -/
theorem isBareName_iff {name : String} :
    isBareName name = true ↔ isIdentifier name.toList = true ∨ IsBroken name := by
  simp only [isBareName, Bool.or_eq_true, Bool.and_eq_true, beq_iff_eq, isBroken_iff]

/-- A broken name has one. -/
theorem IsBroken.newline_mem {name : String} (h : IsBroken name) : '\n' ∈ name.toList := by
  obtain ⟨stem, _, rfl⟩ := h
  simp

/-- So no identifier is broken. -/
theorem not_isBroken_of_isIdentifier {name : String} (h : isIdentifier name.toList = true) :
    ¬ IsBroken name :=
  fun hbroken => newline_not_mem_of_isIdentifier h hbroken.newline_mem

/-- A bare name holds nothing that may not stand in an identifier, a line feed apart. -/
theorem not_mem_of_isBareName {name : String} {c : Char} (h : isBareName name = true)
    (hpart : isIdentifierPart c = false) (hfeed : c ≠ '\n') : c ∉ name.toList := by
  intro hc
  rcases isBareName_iff.mp h with hname | ⟨stem, hstem, rfl⟩
  · rw [isIdentifierPart_of_mem hname hc] at hpart
    cases hpart
  · rw [String.toList_append, List.mem_append] at hc
    rcases hc with hc | hc
    · rw [isIdentifierPart_of_mem hstem hc] at hpart
      cases hpart
    · exact hfeed (List.mem_singleton.mp hc)

/-- A bare name does not start like a literal. -/
theorem bare_ne_quote {m n : String} (hm : isBareName m = true) {x y : List Char} :
    m.toList ++ ':' :: x ≠ (Json.quote n).toList ++ y := by
  rw [Json.toList_quote]
  intro h
  cases hcs : m.toList with
  | nil =>
      rw [hcs] at h
      simp at h
  | cons c cs =>
      rw [hcs] at h
      have hquote : '"' ∈ m.toList := by
        rw [hcs, List.head_eq_of_cons_eq h]
        exact List.mem_cons_self
      exact not_mem_of_isBareName hm (by decide) (by decide) hquote

/-- The name of a field ends at the colon after it. -/
theorem propertyName_append_inj {m n : String} {x y : List Char}
    (h : (propertyName m).toList ++ ':' :: x = (propertyName n).toList ++ ':' :: y) :
    m = n ∧ x = y := by
  unfold propertyName at h
  split at h <;> split at h
  · next hm hn =>
      obtain ⟨hname, htail⟩ := Text.append_cons_inj
        (not_mem_of_isBareName hm (by decide) (by decide))
        (not_mem_of_isBareName hn (by decide) (by decide)) h
      exact ⟨String.toList_inj.mp hname, htail⟩
  · next hm _ => exact absurd h (bare_ne_quote hm)
  · next _ hn => exact absurd h.symm (bare_ne_quote hn)
  · obtain ⟨hname, htail⟩ := Json.quote_append_inj h
    exact ⟨hname, List.tail_eq_of_cons_eq htail⟩

/-- A broken name is bare, and no identifier. -/
theorem IsBroken.propertyName_eq {name : String} (h : IsBroken name) :
    propertyName name = name := by
  rw [propertyName, if_pos (isBareName_iff.mpr (.inr h))]

/-- Any other name is an identifier or written as a literal. -/
theorem propertyName_cases {name : String} (h : ¬ IsBroken name) :
    isIdentifier name.toList = true ∧ propertyName name = name ∨
      propertyName name = Json.quote name := by
  by_cases hbare : isBareName name = true
  · have hname : isIdentifier name.toList = true := (isBareName_iff.mp hbare).resolve_right h
    exact .inl ⟨hname, by rw [propertyName, if_pos hbare]⟩
  · exact .inr (by rw [propertyName, if_neg hbare])

/-- The token of a name that is not broken stands on one line. -/
theorem newline_not_mem_propertyName {name : String} (h : ¬ IsBroken name) :
    '\n' ∉ (propertyName name).toList := by
  rcases propertyName_cases h with ⟨hname, heq⟩ | heq
  · rw [heq]
    exact newline_not_mem_of_isIdentifier hname
  · rw [heq]
    exact Json.newline_not_mem_quote name

/-! ## Tokens -/

/-- An identifier that stands for itself. -/
def IsBareToken (name token : String) : Prop :=
  token = name ∧ isIdentifier token.toList = true

/-- A string literal on one line, for the name. -/
def IsLiteralToken (name token : String) : Prop :=
  '\n' ∉ token.toList ∧ ∃ inside, token.toList = '"' :: inside ∧
    Json.readString token.toList [] 0 inside = .ok (name, [])

/-- A literal stands on one line and is read as the text it is for. -/
theorem isLiteralToken_quote (name : String) : IsLiteralToken name (Json.quote name) := by
  refine ⟨Json.newline_not_mem_quote name, _, Json.toList_quote name, ?_⟩
  exact Json.readString_quote (Json.quote name).toList name []

/-- No token has both forms. -/
theorem not_isBareToken_and_isLiteralToken (name token : String) :
    ¬ (IsBareToken name token ∧ IsLiteralToken name token) := by
  rintro ⟨⟨_, hidentifier⟩, _, inside, htoken, _⟩
  have hquote : '"' ∈ token.toList := htoken ▸ List.mem_cons_self
  exact absurd (isIdentifierPart_of_mem hidentifier hquote) (by decide)

/-- **Tokens of fields.**  A name is written in one of the two forms just when it is not broken. -/
theorem isToken_propertyName_iff (name : String) :
    IsBareToken name (propertyName name) ∨ IsLiteralToken name (propertyName name) ↔
      ¬ IsBroken name := by
  constructor
  · rintro htoken hbroken
    rw [hbroken.propertyName_eq] at htoken
    rcases htoken with ⟨_, hname⟩ | ⟨hline, _⟩
    · exact newline_not_mem_of_isIdentifier hname hbroken.newline_mem
    · exact hline hbroken.newline_mem
  · intro hwhole
    rcases propertyName_cases hwhole with ⟨hname, heq⟩ | heq
    · rw [heq]
      exact .inl ⟨rfl, hname⟩
    · rw [heq]
      exact .inr (isLiteralToken_quote name)

/-! ## Tokens read back -/

/-- The name at the start of a text: a string literal, or an identifier as far as it goes. -/
def readName? : List Char → Option (String × List Char)
  | '"' :: rest => (Json.readString ('"' :: rest) [] 0 rest).toOption
  | cs =>
    let name := cs.takeWhile isIdentifierPart
    if isIdentifier name then some (String.ofList name, cs.dropWhile isIdentifierPart) else none

/-- The property at the start of a text, and what comes after the colon.  Blanks before the colon do
not count. -/
def readProperty? (cs : List Char) : Option (String × List Char) :=
  (readName? cs).bind fun (name, rest) =>
    match Json.skipSpace rest with
    | ':' :: after => some (name, after)
    | _ => none

/-- An identifier is read as far as it goes; it does not start like a literal. -/
theorem readName?_of_isIdentifier {stem : List Char} (h : isIdentifier stem = true)
    {rest : List Char} (hrest : rest.takeWhile isIdentifierPart = []) :
    readName? (stem ++ rest) = some (String.ofList stem, rest) := by
  have hparts : ∀ d ∈ stem, isIdentifierPart d = true := fun d hd => isIdentifierPart_of_mem h hd
  have htake : (stem ++ rest).takeWhile isIdentifierPart = stem := by
    rw [List.takeWhile_append_of_pos hparts, hrest, List.append_nil]
  have hdrop : (stem ++ rest).dropWhile isIdentifierPart = rest := by
    have hsplit : rest.takeWhile isIdentifierPart ++ rest.dropWhile isIdentifierPart = rest :=
      List.takeWhile_append_dropWhile
    rw [hrest, List.nil_append] at hsplit
    rw [List.dropWhile_append_of_pos hparts, hsplit]
  unfold readName?
  split
  · next heq =>
      have hquote : '"' ∈ stem := by
        cases stem with
        | nil => cases h
        | cons d stem =>
            rw [List.cons_append] at heq
            rw [List.head_eq_of_cons_eq heq]
            exact List.mem_cons_self
      exact absurd (hparts _ hquote) (by decide)
  · simp only [htake, hdrop, h, if_true]

/-- The name under which a field is known: that of the identifier, if the name is broken. -/
def knownName (name : String) : String :=
  if isBareName name then String.ofList (name.toList.takeWhile isIdentifierPart) else name

/-- An identifier is taken whole. -/
theorem takeWhile_of_isIdentifier {cs : List Char} (h : isIdentifier cs = true) :
    cs.takeWhile isIdentifierPart = cs := by
  rw [List.takeWhile_eq_self_iff]
  exact fun c hc => isIdentifierPart_of_mem h hc

/-- A name that is not broken is known as it is. -/
theorem knownName_of_not_isBroken {name : String} (h : ¬ IsBroken name) : knownName name = name := by
  unfold knownName
  split
  · next hbare =>
      have hname : isIdentifier name.toList = true := (isBareName_iff.mp hbare).resolve_right h
      rw [takeWhile_of_isIdentifier hname, String.ofList_toList]
  · rfl

/-- A broken one is known without its line feed. -/
theorem knownName_append_newline {stem : String} (h : isIdentifier stem.toList = true) :
    knownName (stem ++ "\n") = stem := by
  have hbare : isBareName (stem ++ "\n") = true := isBareName_iff.mpr (.inr ⟨stem, h, rfl⟩)
  have hparts : ∀ c ∈ stem.toList, isIdentifierPart c = true :=
    fun c hc => isIdentifierPart_of_mem h hc
  have hfeed : (['\n'] : List Char).takeWhile isIdentifierPart = [] := by decide
  have hstem : (stem ++ "\n").toList.takeWhile isIdentifierPart = stem.toList := by
    rw [String.toList_append, List.takeWhile_append_of_pos hparts]
    exact (congrArg _ hfeed).trans (List.append_nil _)
  rw [knownName, if_pos hbare, hstem, String.ofList_toList]

/-- **Names are read back.** -/
theorem readProperty?_propertyName (name : String) (rest : List Char) :
    readProperty? ((propertyName name).toList ++ ':' :: rest) = some (knownName name, rest) := by
  by_cases hbroken : IsBroken name
  · rw [hbroken.propertyName_eq]
    obtain ⟨stem, hstem, rfl⟩ := hbroken
    have htext : (stem ++ "\n").toList ++ ':' :: rest = stem.toList ++ '\n' :: ':' :: rest := by
      simp
    have hfeed : ('\n' :: ':' :: rest).takeWhile isIdentifierPart = [] := rfl
    rw [htext, readProperty?, readName?_of_isIdentifier hstem hfeed, Option.bind_some,
      knownName_append_newline hstem, String.ofList_toList]
    rfl
  · rw [knownName_of_not_isBroken hbroken]
    rcases propertyName_cases hbroken with ⟨hname, heq⟩ | heq
    · have hcolon : (':' :: rest).takeWhile isIdentifierPart = [] := rfl
      rw [heq, readProperty?, readName?_of_isIdentifier hname hcolon, Option.bind_some,
        String.ofList_toList]
      rfl
    · have hread : readName? ((Json.quote name).toList ++ ':' :: rest) = some (name, ':' :: rest) := by
        rw [Json.toList_quote, List.cons_append, List.append_assoc, List.singleton_append, readName?,
          Json.readString_quote]
        rfl
      rw [heq, readProperty?, hread]
      rfl

/-- An identifier and the broken name made of it are names of one property. -/
theorem knownName_append_newline_eq {stem : String} (h : isIdentifier stem.toList = true) :
    knownName (stem ++ "\n") = knownName stem := by
  rw [knownName_append_newline h, knownName_of_not_isBroken (not_isBroken_of_isIdentifier h)]

/-- Different names are names of one property only if one is broken and made of the other. -/
theorem knownName_eq_iff {m n : String} (hne : m ≠ n) : knownName m = knownName n ↔
    isIdentifier n.toList = true ∧ m = n ++ "\n" ∨ isIdentifier m.toList = true ∧ n = m ++ "\n" := by
  constructor
  · intro h
    by_cases hm : IsBroken m
    · obtain ⟨stem, hstem, rfl⟩ := hm
      rw [knownName_append_newline hstem] at h
      by_cases hn : IsBroken n
      · obtain ⟨stem', hstem', rfl⟩ := hn
        rw [knownName_append_newline hstem'] at h
        exact absurd (congrArg (· ++ "\n") h) hne
      · rw [knownName_of_not_isBroken hn] at h
        subst h
        exact .inl ⟨hstem, rfl⟩
    · rw [knownName_of_not_isBroken hm] at h
      by_cases hn : IsBroken n
      · obtain ⟨stem, hstem, rfl⟩ := hn
        rw [knownName_append_newline hstem] at h
        subst h
        exact .inr ⟨hstem, rfl⟩
      · rw [knownName_of_not_isBroken hn] at h
        exact absurd h hne
  · rintro (⟨hn, rfl⟩ | ⟨hm, rfl⟩)
    · exact knownName_append_newline_eq hn
    · exact (knownName_append_newline_eq hm).symm

end MockScaffold.Shape
