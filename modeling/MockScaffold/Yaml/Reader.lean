import MockScaffold.Yaml.Builder

/-!
# Samples from YAML text

A text holds at most one document, and that stands for a sample.  The characters of the text are
checked first, then it is taken apart into tokens and nodes, and only when the whole of it is in
form are the values built.
-/

namespace MockScaffold.Yaml

/-- A character that may stand in a text. -/
def isAllowed (c : Char) : Bool :=
  let n := c.toNat
  n == 9 || n == 10 || n == 13 || (0x20 ≤ n && n ≤ 0x7E) || n == 0x85 ||
    (0xA0 ≤ n && n ≤ 0xD7FF) || (0xE000 ≤ n && n ≤ 0xFFFD) || 0x10000 ≤ n

/-- The document of a text, if it has one. -/
def document? (cs : List Char) : Except Fault (Option Document) :=
  let (tokens, fault) := Token.ofText cs
  Document.ofTokens? tokens fault

/-- Reads a text of YAML with at most one document; an empty text holds null. -/
def read (s : String) : Except Fault Sample := do
  if !s.toList.all isAllowed then .error (.malformed .unprintable)
  match ← document? s.toList with
  | none => return .null
  | some d => d.sample

end MockScaffold.Yaml
