import MockScaffold.Text.CaseTable

/-!
# Upper and lower case

The full case mappings: a character may become several (`ß` gives `SS`), and a capital sigma
becomes the final `ς` where a word ends.  A word ends at a sigma when, case-ignorable characters
aside, a cased character stands before it and none stands after it.
-/

namespace MockScaffold.Text

/-- The image of a character under a table of runs and expansions; itself where none applies. -/
def mapCase (runs : List CaseRun) (expansions : List (Nat × List Nat)) (c : Char) : List Char :=
  match expansions.lookup c.toNat with
  | some image => image.map Char.ofNat
  | none => [((runs.findSome? (·.map? c.toNat)).map Char.ofNat).getD c]

/-- Upper case of one character. -/
def upperChar (c : Char) : List Char :=
  if c.toNat < 128 then [c.toUpper] else mapCase upperRuns upperExpansions c

/-- Lower case of one character, out of context. -/
def lowerChar (c : Char) : List Char :=
  if c.toNat < 128 then [c.toLower] else mapCase lowerRuns lowerExpansions c

/-- Cased and not case-ignorable. -/
def isCased (c : Char) : Bool :=
  if c.toNat < 128 then c.isAlpha else casedRanges.has c.toNat

/-- Characters that a search for the neighbouring cased character passes over. -/
def isCaseIgnorable (c : Char) : Bool :=
  if c.toNat < 128 then ['\'', '.', ':', '^', '`'].contains c else caseIgnorableRanges.has c.toNat

/-- Whether the first character that is not case-ignorable is cased. -/
def meetsCased (cs : List Char) : Bool :=
  match cs.dropWhile isCaseIgnorable with
  | c :: _ => isCased c
  | [] => false

/-- Lower case of `cs`, where `before` holds what precedes it, nearest character first. -/
def lowerAfter (before : List Char) : List Char → List Char
  | [] => []
  | c :: rest =>
    let image :=
      if c = 'Σ' then [if meetsCased before && !meetsCased rest then 'ς' else 'σ'] else lowerChar c
    image ++ lowerAfter (c :: before) rest

/-- Upper case. -/
def upper (s : String) : String := String.ofList (s.toList.flatMap upperChar)

/-- Lower case. -/
def lower (s : String) : String := String.ofList (lowerAfter [] s.toList)

/-- Upper case of the first character; the rest stays as written. -/
def capitalize : List Char → List Char
  | [] => []
  | c :: rest => upperChar c ++ rest

end MockScaffold.Text
