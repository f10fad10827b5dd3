import MockScaffold.Text.Hex

/-!
# Tags, and what a plain scalar is

A node's tag says what kind of value it is.  A plain scalar without a tag gets one from its
spelling: the words for true and false (`yes`, `off`, …), integers in five notations, numbers with a
point, dates and moments, the signs for merging and for the default value, and the spellings of
null; anything else is text.  The three indicators of properties, which only a quoted scalar can
spell, have a kind that no value is of.  Every spelling may be followed by one line feed.
-/

namespace MockScaffold.Yaml

/-- The kind of value that a node stands for. -/
inductive Tag where
  | null
  | bool
  | int
  | float
  | text
  | timestamp
  | binary
  | sequence
  | mapping
  | set
  | orderedMapping
  | pairs
  | merge
  | default
  | unknown (name : String)
  deriving DecidableEq, Repr

/-- The common beginning of the names of the known tags. -/
def coreTags : String := "tag:yaml.org,2002:"

/-- The known tags by the ends of their names. -/
def knownTags : List (String × Tag) := [
  ("null", .null), ("bool", .bool), ("int", .int), ("float", .float), ("str", .text),
  ("timestamp", .timestamp), ("binary", .binary), ("seq", .sequence), ("map", .mapping),
  ("set", .set), ("omap", .orderedMapping), ("pairs", .pairs), ("merge", .merge),
  ("value", .default)]

/-- The tag with a given full name. -/
def Tag.ofName (name : String) : Tag :=
  ((knownTags.find? fun t => coreTags ++ t.1 == name).map (·.2)).getD (.unknown name)

namespace Plain

/-- Drops a sign. -/
def unsigned : List Char → List Char
  | '+' :: rest => rest
  | '-' :: rest => rest
  | cs => cs

/-- A decimal digit or an underscore. -/
def isPlace (c : Char) : Bool := c.isDigit || c == '_'

/-- Groups of base sixty: each a colon and one or two digits below sixty.  Gives what follows the
groups, and `none` if there is not even one. -/
def sixties? : List Char → Option (List Char)
  | ':' :: a :: b :: rest =>
    if a.isDigit then
      if b.isDigit then if a ≤ '5' then some ((sixties? rest).getD rest) else none
      else some ((sixties? (b :: rest)).getD (b :: rest))
    else none
  | [':', a] => if a.isDigit then some [] else none
  | _ => none

/-- Integers: binary, hexadecimal, octal, decimal and base sixty. -/
def isInteger (cs : List Char) : Bool :=
  match unsigned cs with
  | '0' :: 'b' :: rest => !rest.isEmpty && rest.all fun c => c == '0' || c == '1' || c == '_'
  | '0' :: 'x' :: rest => !rest.isEmpty && rest.all fun c => (Text.hexDigit? c).isSome || c == '_'
  | '0' :: rest => rest.all fun c => ('0' ≤ c && c ≤ '7') || c == '_'
  | c :: rest =>
    let after := rest.dropWhile isPlace
    c.isDigit && (after.isEmpty || sixties? after == some [])
  | [] => false

/-- Nothing, or an exponent with a sign. -/
def isExponent : List Char → Bool
  | [] => true
  | e :: s :: digits =>
    (e == 'e' || e == 'E') && (s == '+' || s == '-') && !digits.isEmpty && digits.all Char.isDigit
  | _ => false

/-- Numbers with a point: an exponent has to have a sign, a number that starts with the point has
none, and one in base sixty has no exponent. -/
def isFloat (cs : List Char) : Bool :=
  let word := String.ofList cs
  let digitsFirst :=
    match unsigned cs with
    | c :: rest =>
      c.isDigit &&
        match rest.dropWhile isPlace with
        | '.' :: after => isExponent (after.dropWhile isPlace)
        | after =>
          match sixties? after with
          | some ('.' :: after) => after.all isPlace
          | _ => false
    | [] => false
  let pointFirst :=
    match cs with
    | '.' :: c :: rest => c.isDigit && isExponent (rest.dropWhile isPlace)
    | _ => false
  digitsFirst || pointFirst ||
    [".inf", ".Inf", ".INF"].contains (String.ofList (unsigned cs)) ||
    [".nan", ".NaN", ".NAN"].contains word

/-- The words for truth values. -/
def isBool (cs : List Char) : Bool :=
  ["yes", "Yes", "YES", "no", "No", "NO", "true", "True", "TRUE", "false", "False", "FALSE",
    "on", "On", "ON", "off", "Off", "OFF"].contains (String.ofList cs)

/-- The spellings of null, other than nothing at all. -/
def isNull (cs : List Char) : Bool :=
  ["~", "null", "Null", "NULL"].contains (String.ofList cs)

/-- Takes one digit, or two of them where possible. -/
def oneOrTwo? : List Char → Option (Nat × List Char)
  | a :: b :: rest =>
    if a.isDigit then
      if b.isDigit then some ((a.toNat - 48) * 10 + (b.toNat - 48), rest)
      else some (a.toNat - 48, b :: rest)
    else none
  | [a] => if a.isDigit then some (a.toNat - 48, []) else none
  | [] => none

/-- Takes a number of digits. -/
def digits? : Nat → Nat → List Char → Option (Nat × List Char)
  | 0, n, cs => some (n, cs)
  | places + 1, n, c :: cs => if c.isDigit then digits? places (10 * n + (c.toNat - 48)) cs else none
  | _ + 1, _, [] => none

/-- Takes one character. -/
def mark? (c : Char) : List Char → Option (List Char)
  | d :: rest => if c = d then some rest else none
  | [] => none

/-- The numbers in the spelling of a date or moment; `clock` holds those of the time of day, with
the digits of the fraction and the lead over universal time in minutes. -/
structure Timestamp where
  year : Nat
  month : Nat
  day : Nat
  clock : Option (Nat × Nat × Nat × List Char × Option Int)
  deriving Repr

/-- The end of a moment: nothing, `Z`, or an offset in hours and maybe minutes. -/
def zone? (cs : List Char) : Option (Option Int) :=
  match cs.dropWhile fun c => c == ' ' || c == '\t' with
  | [] => if cs.isEmpty then some none else none
  | ['Z'] => some (some 0)
  | sign :: rest =>
    if sign = '+' ∨ sign = '-' then do
      let (hours, rest) ← oneOrTwo? rest
      let minutes ←
        match rest with
        | [] => some 0
        | _ =>
          match mark? ':' rest >>= digits? 2 0 with
          | some (minutes, []) => some minutes
          | _ => none
      let offset : Int := hours * 60 + minutes
      return some (if sign = '-' then -offset else offset)
    else none

/-- The time of day, after its separator. -/
def clock? (cs : List Char) : Option (Nat × Nat × Nat × List Char × Option Int) := do
  let (hour, rest) ← oneOrTwo? cs
  let (minute, rest) ← mark? ':' rest >>= digits? 2 0
  let (second, rest) ← mark? ':' rest >>= digits? 2 0
  let (fraction, rest) :=
    match rest with
    | '.' :: rest => rest.span Char.isDigit
    | rest => ([], rest)
  let offset ← zone? rest
  return (hour, minute, second, fraction, offset)

/-- A date, or a date and a time of day after a `T` or blanks. -/
def timestamp? (cs : List Char) : Option Timestamp := do
  let (year, rest) ← digits? 4 0 cs
  let (month, rest) ← mark? '-' rest >>= oneOrTwo?
  let (day, rest) ← mark? '-' rest >>= oneOrTwo?
  match rest with
  | [] => return ⟨year, month, day, none⟩
  | 'T' :: rest | 't' :: rest => return ⟨year, month, day, some (← clock? rest)⟩
  | c :: _ =>
    if c = ' ' ∨ c = '\t' then
      return ⟨year, month, day,
        some (← clock? (rest.dropWhile fun c => c == ' ' || c == '\t'))⟩
    else none

/-- Spellings that are dates and moments without a tag: a date alone has two digits for month and
day. -/
def isTimestamp (cs : List Char) : Bool :=
  match timestamp? cs with
  | some t => t.clock.isSome || cs.length == 10
  | none => false

/-- The tag that a spelling gives. -/
def tagOf (cs : List Char) : Tag :=
  if isBool cs then .bool
  else if isFloat cs then .float
  else if isInteger cs then .int
  else if cs = ['<', '<'] then .merge
  else if isNull cs then .null
  else if isTimestamp cs then .timestamp
  else if cs = ['='] then .default
  else if cs = ['!'] ∨ cs = ['&'] ∨ cs = ['*'] then .unknown (coreTags ++ "yaml")
  else .text

end Plain

/-- The spelling without a line feed at its end. -/
def withoutFinalBreak (cs : List Char) : List Char :=
  if cs.getLast? = some '\n' then cs.dropLast else cs

/-- The tag of an untagged plain scalar; nothing at all is null. -/
def Tag.ofPlain (s : String) : Tag :=
  if s.isEmpty then .null else Plain.tagOf (withoutFinalBreak s.toList)

end MockScaffold.Yaml
