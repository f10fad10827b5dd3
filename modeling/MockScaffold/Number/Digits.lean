import MockScaffold.Text.Blank
import MockScaffold.Text.Digit

/-!
# Integers as text

Integers of any size are computed with, but decimal text of more than `digitLimit` digits is
neither read nor written: the conversion takes time quadratic in the number of digits.  Bases that
are powers of two have no such limit.
-/

namespace MockScaffold

/-- The most decimal digits that an integer may have in text. -/
def digitLimit : Nat := 4300

/-- A decimal text over the limit. -/
inductive DigitOverflow where
  /-- The text to be read has `count` digits. -/
  | reading (count : Nat)
  /-- The integer to be written has too many. -/
  | writing
  deriving DecidableEq, Repr

def DigitOverflow.message : DigitOverflow → String
  | .reading count =>
    s!"Exceeds the limit ({digitLimit} digits) for integer string conversion: value has {count} digits; use sys.set_int_max_str_digits() to increase the limit"
  | .writing =>
    s!"Exceeds the limit ({digitLimit} digits) for integer string conversion; use sys.set_int_max_str_digits() to increase the limit"

/-- The decimal text of an integer. -/
def integerText (n : Int) : Except DigitOverflow String :=
  if n.natAbs < Nat.pow 10 digitLimit then .ok (toString n) else .error .writing

/-- The value of a run of digits. -/
def ofDigitValues (base : Nat) (values : List Nat) : Nat :=
  values.foldl (fun n d => base * n + d) 0

/-- The value of ASCII decimal digits; other characters do not occur in `cs`. -/
def ofAsciiDigits (cs : List Char) : Nat :=
  ofDigitValues 10 (cs.map fun c => c.toNat - 48)

/-- Why a text is no integer. -/
inductive IntegerFault where
  | malformed
  | overflow (o : DigitOverflow)
  deriving DecidableEq, Repr

/-- Splits a sign off; `true` is a minus. -/
def splitSign : List Char → Bool × List Char
  | '-' :: rest => (true, rest)
  | '+' :: rest => (false, rest)
  | rest => (false, rest)

/-- Drops the mark of a base (`0x`, `0o`, `0b`, in either case) if the text starts with it; its zero
may be of any script. -/
def dropBaseMark (base : Nat) (cs : List Char) : List Char :=
  let mark? : Option Char :=
    match base with
    | 16 => some 'x'
    | 8 => some 'o'
    | 2 => some 'b'
    | _ => none
  match cs, mark? with
  | zero :: c :: rest, some mark =>
    if Text.decimalDigit? zero = some 0 ∧ c.toLower = mark then rest else cs
  | _, _ => cs

/-- Reads an integer in a base: blanks around it, a sign, the base's mark and digits of any
script. -/
def readInteger (base : Nat) (cs : List Char) : Except IntegerFault Int :=
  let (negative, unsigned) := splitSign (Text.trim Text.isWhiteSpace cs)
  match (dropBaseMark base unsigned).mapM (Text.digitInBase? base) with
  | none | some [] => .error .malformed
  | some values =>
    if base = 10 && digitLimit < values.length then .error (.overflow (.reading values.length))
    else
      let n := ofDigitValues base values
      .ok (if negative then -n else n)

end MockScaffold
