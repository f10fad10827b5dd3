import MockScaffold.Number.Reading
import MockScaffold.Sample.Basic
import MockScaffold.Text.Hex
import MockScaffold.Text.Lines
import MockScaffold.Text.Surrogate

/-!
# Reading JSON text

The reader takes JSON with three further number literals, `NaN`, `Infinity` and `-Infinity`.
Numbers with a fraction or an exponent are binary64, all others integers of any size.  Where a key
is repeated, the last value counts and the first place.

Every function works on what remains of the text and gives back what remains after it; a fault is
reported as the remaining text at which it was found, so that a position is the length of what was
read before.  `read` is the whole reader.  The recursion on nested values is bounded by twice the
length of the text: of two steps in a row, one takes a character.
-/

namespace MockScaffold.Json

/-- What is wrong with a text. -/
inductive Problem where
  | value
  | propertyName
  | colon
  | comma
  | extraData
  | unterminated
  | controlCharacter
  | escape
  | unicodeEscape
  | byteOrderMark
  deriving DecidableEq, Repr

def Problem.message : Problem → String
  | .value => "Expecting value"
  | .propertyName => "Expecting property name enclosed in double quotes"
  | .colon => "Expecting ':' delimiter"
  | .comma => "Expecting ',' delimiter"
  | .extraData => "Extra data"
  | .unterminated => "Unterminated string starting at"
  | .controlCharacter => "Invalid control character at"
  | .escape => "Invalid \\escape"
  | .unicodeEscape => "Invalid \\uXXXX escape"
  | .byteOrderMark => "Unexpected UTF-8 BOM (decode using utf-8-sig)"

/-- Why a text was not read: a problem in front of `rest`, or an integer that is too long. -/
inductive Failure where
  | malformed (problem : Problem) (rest : List Char)
  | digits (o : DigitOverflow)
  deriving DecidableEq, Repr

/-- The blanks of JSON. -/
def isSpace (c : Char) : Bool := c == ' ' || c == '\t' || c == '\n' || c == '\r'

def skipSpace (cs : List Char) : List Char := cs.dropWhile isSpace

/-- The character that a one-letter escape stands for. -/
def simpleEscape? : Char → Option Char
  | '"' => some '"'
  | '\\' => some '\\'
  | '/' => some '/'
  | 'b' => some '\x08'
  | 'f' => some '\x0c'
  | 'n' => some '\n'
  | 'r' => some '\r'
  | 't' => some '\t'
  | _ => none

/-- The unit that four hexadecimal digits spell; a further character has to follow them. -/
def unit? (cs : List Char) : Option Nat :=
  if 4 < cs.length then Text.ofHex? (cs.take 4) else none

/-- Reads the text after a backslash: the character that the escape stands for, and the number of
characters after the backslash that spell it.  `start` is the text from the opening quotation mark
on. -/
def readEscape (start : List Char) : List Char → Except Failure (Char × Nat)
  | [] => .error (.malformed .unterminated start)
  | 'u' :: rest =>
    match unit? rest with
    | none => .error (.malformed .unicodeEscape ('u' :: rest))
    | some unit =>
      match Text.isHighSurrogate unit, rest.drop 4 with
      | true, '\\' :: 'u' :: after =>
        if 4 < after.length then
          match unit? after with
          | none => .error (.malformed .unicodeEscape ('u' :: after))
          | some low =>
            if Text.isLowSurrogate low then .ok (Text.pairChar unit low, 11) else .ok (Text.unitChar unit, 5)
        else .ok (Text.unitChar unit, 5)
      | _, _ => .ok (Text.unitChar unit, 5)
  | c :: rest =>
    match simpleEscape? c with
    | some x => .ok (x, 1)
    | none => .error (.malformed .escape ('\\' :: c :: rest))

/-- Reads a string after its opening quotation mark; `start` is the text from that mark on, `done`
holds the characters so far, last one first, and `taken` counts those that an escape has taken
already. -/
def readString (start done : List Char) : Nat → List Char → Except Failure (String × List Char)
  | _, [] => .error (.malformed .unterminated start)
  | taken + 1, _ :: rest => readString start done taken rest
  | 0, c :: rest =>
    if c = '"' then .ok (String.ofList done.reverse, rest)
    else if c = '\\' then
      match readEscape start rest with
      | .ok (x, length) => readString start (x :: done) length rest
      | .error e => .error e
    else if c.toNat < 0x20 then .error (.malformed .controlCharacter (c :: rest))
    else readString start (c :: done) 0 rest

/-- The integer part of a number: a zero, or digits that start with another. -/
def wholePart? : List Char → Option (List Char × List Char)
  | '0' :: rest => some (['0'], rest)
  | c :: rest => if c.isDigit then some ((c :: rest).span Char.isDigit) else none
  | [] => none

/-- The fraction of a number, if a digit follows the point. -/
def fractionPart? : List Char → Option (List Char × List Char)
  | '.' :: c :: rest => if c.isDigit then some ((c :: rest).span Char.isDigit) else none
  | _ => none

/-- The exponent of a number, if it has digits. -/
def exponentPart? : List Char → Option (Int × List Char)
  | c :: rest =>
    if c = 'e' ∨ c = 'E' then
      let (negative, digits) := splitSign rest
      match digits.span Char.isDigit with
      | ([], _) => none
      | (ds, rest) => some (if negative then -ofAsciiDigits ds else ofAsciiDigits ds, rest)
    else none
  | [] => none

/-- Reads a number; `start` is the text from its sign on. -/
def readNumber (start : List Char) (negative : Bool) (cs : List Char) : Except Failure (Scalar × List Char) :=
  match wholePart? cs with
  | none => .error (.malformed .value start)
  | some (whole, rest) =>
    let fraction? := fractionPart? rest
    let (fraction, rest) := fraction?.getD ([], rest)
    let exponent? := exponentPart? rest
    let (exponent, rest) := exponent?.getD (0, rest)
    if fraction?.isSome || exponent?.isSome then
      .ok (.float (Double.ofDecimal negative (ofAsciiDigits (whole ++ fraction))
        (exponent - fraction.length)), rest)
    else if digitLimit < whole.length then .error (.digits (.reading whole.length))
    else
      let n : Int := ofAsciiDigits whole
      .ok (.int (if negative then -n else n), rest)

/-- The literals that are words. -/
def words : List (List Char × Scalar) := [
  ("null".toList, .null), ("true".toList, .bool true), ("false".toList, .bool false),
  ("NaN".toList, .float Double.nan), ("Infinity".toList, .float (Double.infinity false)),
  ("-Infinity".toList, .float (Double.infinity true))]

/-- Reads a word or a number. -/
def readLiteral (cs : List Char) : Except Failure (Scalar × List Char) :=
  match words.find? fun w => w.1.isPrefixOf cs with
  | some (word, s) => .ok (s, cs.drop word.length)
  | none =>
    match cs with
    | '-' :: rest => readNumber cs true rest
    | _ => readNumber cs false cs

mutual

/-- Reads a value.  The first argument bounds the number of steps still allowed. -/
def readValue : Nat → List Char → Except Failure (Sample × List Char)
  | 0, cs => .error (.malformed .value cs)
  | fuel + 1, cs =>
    match cs with
    | '"' :: rest => (readString cs [] 0 rest).map fun (s, rest) => (.text s, rest)
    | '[' :: rest =>
      match skipSpace rest with
      | ']' :: rest => .ok (.list [], rest)
      | rest => (readItems fuel rest).map fun (items, rest) => (.list items, rest)
    | '{' :: rest =>
      match skipSpace rest with
      | '}' :: rest => .ok (.map [], rest)
      | rest => (readMembers fuel rest).map fun (members, rest) => (.map (putEntries [] members), rest)
    | _ => (readLiteral cs).map fun (s, rest) => (.scalar s, rest)

/-- Reads the items of an array up to its end. -/
def readItems : Nat → List Char → Except Failure (List Sample × List Char)
  | 0, cs => .error (.malformed .value cs)
  | fuel + 1, cs => do
    let (v, rest) ← readValue fuel cs
    match skipSpace rest with
    | ']' :: rest => return ([v], rest)
    | ',' :: rest =>
      let (others, rest) ← readItems fuel (skipSpace rest)
      return (v :: others, rest)
    | rest => .error (.malformed .comma rest)

/-- Reads the members of an object up to its end. -/
def readMembers : Nat → List Char → Except Failure (List (Scalar × Sample) × List Char)
  | 0, cs => .error (.malformed .propertyName cs)
  | fuel + 1, cs =>
    match cs with
    | '"' :: rest => do
      let (key, rest) ← readString cs [] 0 rest
      match skipSpace rest with
      | ':' :: rest =>
        let (v, rest) ← readValue fuel (skipSpace rest)
        match skipSpace rest with
        | '}' :: rest => return ([(.text key, v)], rest)
        | ',' :: rest =>
          let (others, rest) ← readMembers fuel (skipSpace rest)
          return ((.text key, v) :: others, rest)
        | rest => .error (.malformed .comma rest)
      | rest => .error (.malformed .colon rest)
    | _ => .error (.malformed .propertyName cs)

end

/-- Reads a whole text. -/
def readText (cs : List Char) : Except Failure Sample :=
  match cs with
  | '\uFEFF' :: _ => .error (.malformed .byteOrderMark cs)
  | _ => do
    let (v, rest) ← readValue (2 * cs.length + 1) (skipSpace cs)
    match skipSpace rest with
    | [] => return v
    | rest => .error (.malformed .extraData rest)

/-- Reads a text of JSON. -/
def read (s : String) : Except Failure Sample := readText s.toList

/-- The part of a text that precedes the rest at which a fault was found. -/
def before (s : String) (rest : List Char) : List Char :=
  s.toList.take (s.toList.length - rest.length)

/-- The line on which a fault was found. -/
def faultLine (s : String) (rest : List Char) : Nat := Text.lineAfter (before s rest)

/-- A fault in a text with its line, column and offset. -/
def Failure.locatedMessage (s : String) : Failure → String
  | .malformed problem rest =>
    let read := before s rest
    s!"{problem.message}: line {Text.lineAfter read} column {Text.columnAfter read} (char {read.length})"
  | .digits o => o.message

end MockScaffold.Json
