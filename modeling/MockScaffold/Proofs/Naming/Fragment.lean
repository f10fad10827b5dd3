import MockScaffold.Naming
import MockScaffold.Proofs.Text.Case
import MockScaffold.Proofs.Text.Joined

/-!
# Characters of names, and names that are equal

Upper case brings in capital letters and characters beyond ASCII, and nothing else
(`Text.eq_of_mem_upperChar`).  So every other character of a name is one of the path, and none of
those that separate its parts or mark its placeholders (`Naming.mem_of_mem_fragment`): a path
without blanks gives names without blanks.  Two paths share a name just when they share a fragment
(`Naming.typeName_eq_iff`).
-/

namespace MockScaffold

namespace Naming

/-- The parts of a text, one after the other, are the text without its separators. -/
theorem flatten_splitOnP (p : Char → Bool) (cs : List Char) :
    (cs.splitOnP p).flatten = cs.filter fun c => !p c := by
  induction cs with
  | nil => simp
  | cons c cs ih =>
      rw [List.splitOnP_cons_eq_if_modifyHead]
      cases hc : p c with
      | true =>
          rw [if_pos rfl, List.flatten_cons, List.nil_append, ih, List.filter_cons_of_neg (by simp [hc])]
      | false =>
          rw [if_neg (by simp), List.filter_cons_of_pos (by simp [hc]), ← ih]
          cases hparts : cs.splitOnP p with
          | nil => exact absurd hparts (List.splitOnP_ne_nil p cs)
          | cons first rest => rfl

/-- A character of paths that no name takes over: it separates parts, or it is a brace. -/
def isDelimiter (c : Char) : Bool := isSeparator c || isBrace c

/-- The parts of a name, one after the other and before they get their capitals, are the path
without delimiters. -/
theorem flatten_parts (cs : List Char) :
    ((cs.filter (!isBrace ·)).splitOnP isSeparator).flatten = cs.filter (!isDelimiter ·) := by
  rw [flatten_splitOnP, List.filter_filter]
  simp [isDelimiter]

/-- A leading `/api/` is dropped. -/
theorem dropApi_append (rest : List Char) : dropApi ("/api/".toList ++ rest) = rest := by
  have hsome : ['/', 'a', 'p', 'i', '/'].isPrefixOf? ("/api/".toList ++ rest) = some rest :=
    Text.isPrefixOf?_append "/api/".toList rest
  rw [dropApi, hsome, Option.getD_some]

/-- Nothing else is. -/
theorem dropApi_eq_self {path : List Char} (h : ¬ "/api/".toList <+: path) :
    dropApi path = path := by
  cases hrest : ['/', 'a', 'p', 'i', '/'].isPrefixOf? path with
  | none => rw [dropApi, hrest, Option.getD_none]
  | some rest => exact absurd ⟨rest, (Text.eq_append_of_isPrefixOf? hrest).symm⟩ h

/-- Both cases, with the five characters counted. -/
theorem dropApi_eq_ite (path : List Char) :
    dropApi path = if "/api/".toList <+: path then path.drop 5 else path := by
  split
  · next h =>
      obtain ⟨rest, rfl⟩ := h
      rw [dropApi_append]
      rfl
  · next h => exact dropApi_eq_self h

/-- So no character is new. -/
theorem mem_of_mem_dropApi {path : List Char} {c : Char} (h : c ∈ dropApi path) : c ∈ path := by
  rw [dropApi_eq_ite] at h
  split at h
  · exact List.mem_of_mem_drop h
  · exact h

/-- A character of a fragment that upper case does not bring in is one of the path, and no
delimiter. -/
theorem mem_of_mem_fragment {path : String} {d : Char} (hd : Text.isUncapital d = true)
    (h : d ∈ (fragment path).toList) : d ∈ path.toList ∧ isDelimiter d = false := by
  rw [fragment, String.toList_ofList, joinParts] at h
  obtain ⟨part, hpart, hmem⟩ := List.mem_flatMap.mp h
  have hin : ∀ c ∈ part, c ∈ path.toList ∧ isDelimiter c = false := by
    intro c hc
    have hflat := List.mem_flatten.mpr ⟨part, hpart, hc⟩
    rw [flatten_parts] at hflat
    obtain ⟨hdrop, hplain⟩ := List.mem_filter.mp hflat
    exact ⟨mem_of_mem_dropApi hdrop, by simpa using hplain⟩
  cases part with
  | nil => exact absurd hmem List.not_mem_nil
  | cons c rest =>
      rcases List.mem_append.mp hmem with hmem | hmem
      · exact Text.eq_of_mem_upperChar hd hmem ▸ hin c List.mem_cons_self
      · exact hin d (List.mem_cons_of_mem c hmem)

/-- A path without such a character gives a fragment without it. -/
theorem not_mem_fragment {path : String} {d : Char} (hd : Text.isUncapital d = true)
    (h : d ∉ path.toList) : d ∉ (fragment path).toList :=
  fun hmem => h (mem_of_mem_fragment hd hmem).1

/-- A path without blanks gives a name without blanks. -/
theorem space_not_mem_fragment {path : String} (h : ' ' ∉ path.toList) :
    ' ' ∉ (fragment path).toList :=
  not_mem_fragment (by decide) h

/-- A derived name has no line feed if neither the path nor the suffix has one. -/
theorem newline_not_mem_typeName {path suffix : String} (hpath : '\n' ∉ path.toList)
    (hsuffix : '\n' ∉ suffix.toList) : '\n' ∉ (typeName path suffix).toList := by
  rw [typeName, String.toList_append, List.mem_append, not_or]
  exact ⟨not_mem_fragment (by decide) hpath, hsuffix⟩

/-- The name of a body is such a name. -/
theorem newline_not_mem_requestName {path : String} (h : '\n' ∉ path.toList) :
    '\n' ∉ (requestName path).toList :=
  newline_not_mem_typeName h (by decide)

/-- So is that of a response. -/
theorem newline_not_mem_responseName {path : String} (h : '\n' ∉ path.toList) :
    '\n' ∉ (responseName path).toList :=
  newline_not_mem_typeName h (by decide)

/-- And that of a function, with its method in front. -/
theorem newline_not_mem_functionName {method path : String} (hmethod : '\n' ∉ method.toList)
    (hpath : '\n' ∉ path.toList) : '\n' ∉ (functionName method path).toList := by
  rw [functionName, String.toList_append, List.mem_append, not_or]
  exact ⟨fun hmem => hmethod (Text.mem_of_mem_lower (by decide) hmem),
    not_mem_fragment (by decide) hpath⟩

/-- Braces are removed from every fragment. -/
theorem closingBrace_not_mem_fragment (path : String) : '}' ∉ (fragment path).toList :=
  fun hmem => absurd (mem_of_mem_fragment (by decide) hmem).2 (by decide)

/-! ## Names that are equal -/

/-- Names of one suffix are told by their fragments. -/
theorem typeName_eq_iff {p q suffix : String} :
    typeName p suffix = typeName q suffix ↔ fragment p = fragment q :=
  String.append_left_inj suffix

/-- The name of a request body is never that of a response. -/
theorem requestName_ne_responseName (p q : String) : requestName p ≠ responseName q := by
  intro h
  have hlast := congrArg (fun s => s.toList.getLast?) h
  simp [requestName, responseName, typeName] at hlast

end Naming

end MockScaffold
