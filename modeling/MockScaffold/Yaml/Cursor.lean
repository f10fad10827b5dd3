import MockScaffold.Yaml.Fault

/-!
# A place in a YAML text

A cursor is the rest of the text with the place where it starts.  Columns count characters from
the last line break; a byte order mark takes no column.
-/

namespace MockScaffold.Yaml

/-- The rest of a text, and where it starts. -/
structure Cursor where
  rest : List Char
  index : Nat
  line : Nat
  column : Nat

/-- A character that ends a line. -/
def isBreak (c : Char) : Bool :=
  c == '\n' || c == '\r' || c == '\x85' || c == '\u2028' || c == '\u2029'

/-- A line break or the end of the text. -/
def endsLine : Option Char → Bool
  | none => true
  | some c => isBreak c

/-- A space, a line break or the end of the text. -/
def endsWord (c? : Option Char) : Bool := c? == some ' ' || endsLine c?

/-- A space, a tab, a line break or the end of the text. -/
def endsItem (c? : Option Char) : Bool := c? == some '\t' || endsWord c?

/-- A character of an anchor's name, a tag's handle or a directive's name. -/
def isNameChar (c : Char) : Bool := c.isAlphanum || c == '-' || c == '_'

namespace Cursor

def start (cs : List Char) : Cursor := ⟨cs, 0, 0, 0⟩

/-- The next character. -/
def peek (c : Cursor) : Option Char := c.rest.head?

/-- The character after the next `n`. -/
def peekAt (c : Cursor) (n : Nat) : Option Char := c.rest[n]?

/-- The place after the next character.  Of the two characters of a line break the second ends the
line. -/
def next (c : Cursor) : Cursor :=
  match c.rest with
  | [] => c
  | ch :: rest =>
    if isBreak ch && !(ch == '\r' && rest.head? == some '\n') then
      ⟨rest, c.index + 1, c.line + 1, 0⟩
    else ⟨rest, c.index + 1, c.line, if ch = '\uFEFF' then c.column else c.column + 1⟩

/-- The place after the next `n` characters. -/
def skip : Nat → Cursor → Cursor
  | 0, c => c
  | n + 1, c => skip n c.next

/-- The longest run of characters of a class, and the place after it. -/
def takeRun (p : Char → Bool) (c : Cursor) : List Char × Cursor :=
  let run := c.rest.takeWhile p
  (run, c.skip run.length)

def skipRun (p : Char → Bool) (c : Cursor) : Cursor := (c.takeRun p).2

/-- Takes a line break, written in one or two characters.  All but the two Unicode separators are
the same break. -/
def lineBreak? (c : Cursor) : Option (Char × Cursor) :=
  match c.rest with
  | '\r' :: '\n' :: _ => some ('\n', c.skip 2)
  | ch :: _ =>
    if isBreak ch then some (if ch = '\u2028' ∨ ch = '\u2029' then ch else '\n', c.next) else none
  | [] => none

/-- Whether one of the marks `---` and `...` stands here on its own. -/
def atSeparator (c : Cursor) : Bool :=
  let mark := c.rest.take 3
  (mark == ['-', '-', '-'] || mark == ['.', '.', '.']) && endsItem (c.peekAt 3)

/-- The end of the line if a comment starts here. -/
def skipComment (c : Cursor) : Cursor :=
  if c.peek == some '#' then c.skipRun (!isBreak ·) else c

/-- The rest of a line that may hold blanks and a comment only, its break included. -/
def blankLine (fault : Malformed) (c : Cursor) : Except Fault Cursor :=
  let c := (c.skipRun (· == ' ')).skipComment
  match c.lineBreak? with
  | some (_, c) => .ok c
  | none => if c.rest.isEmpty then .ok c else .error (.malformed fault)

end Cursor

end MockScaffold.Yaml
