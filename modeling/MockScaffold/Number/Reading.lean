import MockScaffold.Number.Digits
import MockScaffold.Number.Double

/-!
# Reading binary64 numbers

The grammar is: an optional sign, and then either `inf`, `infinity` or `nan` in any case, or digits
with an optional point (a digit must stand on one side of it at least) and an optional decimal
exponent.  `read?` takes exactly that; `readLoose?` first drops white space, admits digits of any
script and single underscores between digits.
-/

namespace MockScaffold.Double

/-- The leading ASCII digits, and the rest. -/
def spanDigits (cs : List Char) : List Char × List Char := cs.span Char.isDigit

/-- The value of an exponent part; empty text is exponent zero. -/
def readExponent? : List Char → Option Int
  | [] => some 0
  | c :: rest =>
    if c = 'e' ∨ c = 'E' then
      let (negative, digits) := splitSign rest
      if digits ≠ [] ∧ digits.all Char.isDigit then
        let n := ofAsciiDigits digits
        some (if negative then -n else n)
      else none
    else none

/-- Digits, a point, digits and an exponent. -/
def readDecimal? (negative : Bool) (cs : List Char) : Option Double :=
  let (whole, rest) := spanDigits cs
  let (fraction, rest) :=
    match rest with
    | '.' :: rest => spanDigits rest
    | rest => ([], rest)
  if whole = [] ∧ fraction = [] then none
  else
    (readExponent? rest).map fun exponent =>
      ofDecimal negative (ofAsciiDigits (whole ++ fraction)) (exponent - fraction.length)

/-- Reads a number; the whole text has to be one. -/
def read? (cs : List Char) : Option Double :=
  let (negative, unsigned) := splitSign cs
  let word := String.ofList (unsigned.map Char.toLower)
  if word = "inf" ∨ word = "infinity" then some (infinity negative)
  else if word = "nan" then some nan
  else readDecimal? negative unsigned

/-- Removes underscores; `none` if one of them does not stand between two digits. -/
def dropUnderscores? (afterDigit : Bool) : List Char → Option (List Char)
  | [] => some []
  | '_' :: c :: rest =>
    if afterDigit && c.isDigit then (dropUnderscores? true rest).map (c :: ·) else none
  | ['_'] => none
  | c :: rest => (dropUnderscores? c.isDigit rest).map (c :: ·)

/-- ASCII digits for those of other scripts. -/
def asciiDigit (c : Char) : Char :=
  match Text.decimalDigit? c with
  | some d => Nat.digitChar d
  | none => c

/-- Reads a number as people type it. -/
def readLoose? (cs : List Char) : Option Double :=
  (dropUnderscores? false ((Text.trim Text.isWhiteSpace cs).map asciiDigit)).bind read?

end MockScaffold.Double
