import MockScaffold.Text.Utf8
import MockScaffold.Yaml.Cursor

/-!
# Names, tags and directives

The small lexemes of YAML: the names of anchors and aliases, tags with their handles and
percent-encoded suffixes, and directive lines.  Every function starts at its lexeme and gives back
the place after it.
-/

namespace MockScaffold.Yaml

/-- A directive: the version of the language, an abbreviation for tags, or one to be ignored. -/
inductive Directive where
  | version (major minor : Nat)
  | tagHandle (handle leading : String)
  | reserved
  deriving DecidableEq, Repr

namespace Cursor

/-- A name after its mark, which is `&` or `*`. -/
def anchorName (c : Cursor) : Except Fault (String × Cursor) :=
  let (name, c) := c.next.takeRun isNameChar
  let ends := endsItem c.peek || (c.peek.map "?:,]\x7d%@`".toList.contains).getD false
  if name ≠ [] ∧ ends then .ok (String.ofList name, c) else .error (.malformed .anchorName)

/-- The handle of a tag: `!`, or a name between two of them. -/
def tagHandle (fault : Malformed) (c : Cursor) : Except Fault (String × Cursor) :=
  if c.peek ≠ some '!' then .error (.malformed fault)
  else
    let afterMark := c.next
    if afterMark.peek = some ' ' then .ok ("!", afterMark)
    else
      let (name, c) := afterMark.takeRun isNameChar
      if c.peek = some '!' then .ok (String.ofList ('!' :: name ++ ['!']), c.next)
      else .error (.malformed fault)

/-- A character that stands for itself in a tag. -/
def isUriChar (c : Char) : Bool := c.isAlphanum || "-;/?:@&=+$,_.!~*'()[]".toList.contains c

/-- A run of percent-encoded bytes; the first argument bounds their number. -/
def encodedBytes (fault : Malformed) : Nat → Cursor → Except Fault (List UInt8 × Cursor)
  | 0, c => .ok ([], c)
  | fuel + 1, c =>
    match c.rest with
    | '%' :: a :: b :: _ =>
      match Text.ofHex? [a, b] with
      | some n => (encodedBytes fault fuel (c.skip 3)).map fun (bytes, c) => (UInt8.ofNat n :: bytes, c)
      | none => .error (.malformed fault)
    | '%' :: _ => .error (.malformed fault)
    | _ => .ok ([], c)

/-- The text of a tag, percent-encoded where a character cannot stand for itself. -/
def uriParts (fault : Malformed) : Nat → Cursor → Except Fault (List Char × Cursor)
  | 0, c => .ok ([], c)
  | fuel + 1, c =>
    match c.peek with
    | some '%' =>
      match encodedBytes fault c.rest.length c with
      | .error e => .error e
      | .ok (bytes, c) =>
        match Text.Utf8.decode bytes with
        | .error _ => .error (.malformed fault)
        | .ok s => (uriParts fault fuel c).map fun (cs, c) => (s.toList ++ cs, c)
    | some ch =>
      if isUriChar ch then (uriParts fault fuel c.next).map fun (cs, c) => (ch :: cs, c)
      else .ok ([], c)
    | none => .ok ([], c)

/-- The text of a tag, which may not be empty. -/
def uri (fault : Malformed) (c : Cursor) : Except Fault (String × Cursor) := do
  let (cs, after) ← uriParts fault (c.rest.length + 1) c
  if cs.isEmpty && after.index == c.index then .error (.malformed fault)
  else return (String.ofList cs, after)

/-- A tag that is written in full, between angle brackets. -/
def fullTag (c : Cursor) : Except Fault (String × Cursor) := do
  let (name, c) ← (c.skip 2).uri .tagName
  if c.peek = some '>' then return (name, c.next) else .error (.malformed .tagName)

/-- The handle that a tag starts with; it is `!` if no second mark is in the word. -/
def leadingHandle (c : Cursor) : Except Fault (String × Cursor) :=
  let word := c.next.rest.takeWhile fun ch => !(ch == ' ' || isBreak ch)
  if word.contains '!' then c.tagHandle .tagName else .ok ("!", c.next)

/-- A tag with a handle. -/
def shortTag (c : Cursor) : Except Fault ((Option String × String) × Cursor) := do
  let (handle, c) ← c.leadingHandle
  let (suffix, c) ← c.uri .tagName
  return ((some handle, suffix), c)

/-- The handle of a tag, if it has one, and what follows that. -/
def tagParts (c : Cursor) : Except Fault ((Option String × String) × Cursor) :=
  match c.peekAt 1 with
  | some '<' => c.fullTag.map fun (name, c) => ((none, name), c)
  | second => if endsItem second then .ok ((none, "!"), c.next) else c.shortTag

/-- A whole tag. -/
def tag (c : Cursor) : Except Fault ((Option String × String) × Cursor) := do
  let (parts, c) ← c.tagParts
  if endsWord c.peek then return (parts, c) else .error (.malformed .tagName)

/-- One of the two numbers of a version. -/
def versionNumber (c : Cursor) : Except Fault (Nat × Cursor) :=
  match c.takeRun Char.isDigit with
  | ([], _) => .error (.malformed .directive)
  | (digits, c) =>
    if digitLimit < digits.length then .error (.value (.digits (.reading digits.length)))
    else .ok (ofAsciiDigits digits, c)

/-- The two numbers of the version, after blanks. -/
def version (c : Cursor) : Except Fault (Directive × Cursor) := do
  let (major, c) ← (c.skipRun (· == ' ')).versionNumber
  if c.peek ≠ some '.' then .error (.malformed .directive)
  let (minor, c) ← c.next.versionNumber
  if endsWord c.peek then return (.version major minor, c) else .error (.malformed .directive)

/-- An abbreviation for tags, after blanks. -/
def tagAbbreviation (c : Cursor) : Except Fault (Directive × Cursor) := do
  let (handle, c) ← (c.skipRun (· == ' ')).tagHandle .directive
  if c.peek ≠ some ' ' then .error (.malformed .directive)
  let (leading, c) ← (c.skipRun (· == ' ')).uri .directive
  if endsWord c.peek then return (.tagHandle handle leading, c) else .error (.malformed .directive)

/-- What follows the name of a directive on its line. -/
def directiveValue (name : List Char) (c : Cursor) : Except Fault (Directive × Cursor) :=
  if name = "YAML".toList then c.version
  else if name = "TAG".toList then c.tagAbbreviation
  else .ok (.reserved, c.skipRun (!isBreak ·))

/-- A whole directive line, from its `%` on. -/
def directive (c : Cursor) : Except Fault (Directive × Cursor) := do
  let (name, c) := c.next.takeRun isNameChar
  if name = [] ∨ !endsWord c.peek then .error (.malformed .directive)
  let (d, c) ← c.directiveValue name
  let c ← c.blankLine .directive
  return (d, c)

end Cursor

end MockScaffold.Yaml
