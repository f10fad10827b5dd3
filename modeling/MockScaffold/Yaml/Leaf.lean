import MockScaffold.Number.Reading
import MockScaffold.Sample.Basic
import MockScaffold.Text.Case
import MockScaffold.Yaml.Fault
import MockScaffold.Yaml.Tag

/-!
# The values of scalar nodes

A tag and a text give a scalar.  Underscores in numbers are dropped.  An integer that starts with a
zero is octal, and colons separate the places of base sixty, in numbers with a point too.  A tag may
stand before any text at all, so every reading can fail.
-/

namespace MockScaffold.Yaml

/-- The parts of a text between the colons. -/
def splitColons (cs : List Char) : List (List Char) := cs.splitOn ':'

/-- Reads an integer in a base; the fault quotes the text. -/
def integerIn (base : Nat) (cs : List Char) : Except ValueFault Int :=
  match readInteger base cs with
  | .ok n => .ok n
  | .error .malformed => .error (.integer base (String.ofList cs))
  | .error (.overflow o) => .error (.digits o)

/-- A text without underscores, split into sign and rest; there has to be a character for the
sign. -/
def signAndRest (cs : List Char) : Except ValueFault (Bool × List Char) :=
  match cs.filter (· ≠ '_') with
  | [] => .error .emptyNumber
  | cs => .ok (splitSign cs)

/-- The places of base sixty from the last one on, each with what it counts for. -/
def withUnits {α : Type} (places : List α) : List (α × Nat) :=
  places.reverse.zipIdx.map fun (d, i) => (d, Nat.pow 60 i)

/-- The value of an integer's text. -/
def intValue (cs : List Char) : Except ValueFault Int := do
  let (negative, cs) ← signAndRest cs
  let n ←
    match cs with
    | [] => .error .emptyNumber
    | ['0'] => pure 0
    | '0' :: 'b' :: rest => integerIn 2 rest
    | '0' :: 'x' :: rest => integerIn 16 rest
    | '0' :: _ => integerIn 8 cs
    | _ =>
      if cs.contains ':' then do
        let places ← (splitColons cs).mapM (integerIn 10)
        pure ((withUnits places).foldl (fun sum (d, unit) => sum + d * unit) 0)
      else integerIn 10 cs
  return if negative then -n else n

/-- Reads a number; the fault quotes the text. -/
def floatIn (cs : List Char) : Except ValueFault Double :=
  match Double.readLoose? cs with
  | some x => .ok x
  | none => .error (.float (String.ofList cs))

/-- Adds what a place of base sixty counts for, which has to be a number. -/
def addPlace (sum : Double) (place : Double × Nat) : Except ValueFault Double :=
  let unit := Double.ofInt place.2
  if unit.isFinite then .ok (sum.add (place.1.mul unit)) else .error .floatUnit

/-- The value of the text of a number with a point. -/
def floatValue (s : String) : Except ValueFault Double := do
  let (negative, cs) ← signAndRest (Text.lower (String.ofList (s.toList.filter (· ≠ '_')))).toList
  let x ←
    if cs = ".inf".toList then pure (Double.infinity false)
    else if cs = ".nan".toList then pure Double.nan
    else if cs.contains ':' then do
      let places ← (splitColons cs).mapM floatIn
      (withUnits places).foldlM addPlace (Double.zero false)
    else floatIn cs
  return if negative then x.neg else x

/-- The value of a truth word. -/
def boolValue (s : String) : Except ValueFault Bool :=
  let word := Text.lower s
  if ["yes", "true", "on"].contains word then .ok true
  else if ["no", "false", "off"].contains word then .ok false
  else .error (.bool word)

/-- A date of the calendar. -/
def dateOf (year month day : Nat) : Except ValueFault Date :=
  if year = 0 then .error .year
  else if month = 0 ∨ 12 < month then .error .month
  else if day = 0 ∨ Date.daysIn year month < day then .error .day
  else .ok ⟨year, month, day⟩

/-- Microseconds from the digits of a fraction; those after the sixth are dropped. -/
def microseconds (digits : List Char) : Nat :=
  ofAsciiDigits ((digits ++ List.replicate 6 '0').take 6)

/-- The value of the text of a date or moment. -/
def timestampValue (cs : List Char) : Except ValueFault Scalar :=
  match Plain.timestamp? (withoutFinalBreak cs) with
  | none => .error .notTimestamp
  | some t =>
    match t.clock with
    | none => (dateOf t.year t.month t.day).map .date
    | some (hour, minute, second, fraction, offset) => do
      if offset.any fun o => 1440 ≤ o.natAbs then .error (.offset (offset.getD 0))
      let date ← dateOf t.year t.month t.day
      if 24 ≤ hour then .error .hour
      if 60 ≤ minute then .error .minute
      if 60 ≤ second then .error .second
      return .moment ⟨date, hour, minute, second, microseconds fraction, offset⟩

/-- The six bits that a character stands for in base 64. -/
def sextet? (c : Char) : Option Nat :=
  if 'A' ≤ c && c ≤ 'Z' then some (c.toNat - 65)
  else if 'a' ≤ c && c ≤ 'z' then some (c.toNat - 71)
  else if c.isDigit then some (c.toNat + 4)
  else if c = '+' then some 62
  else if c = '/' then some 63
  else none

/-- Decodes base 64.  `place` counts the characters of the present group of four, `bits` holds what
is left over from the last of them, and `pads` counts the padding since then.  Characters without
meaning are passed over; enough padding ends the text. -/
def base64From (place bits pads : Nat) : List Char → Option (List UInt8)
  | [] => if place = 0 then some [] else none
  | c :: rest =>
    if c = '=' then
      if 2 ≤ place ∧ 4 ≤ place + pads + 1 then some []
      else base64From place bits (if 2 ≤ place then pads + 1 else pads) rest
    else
      match sextet? c, place with
      | none, _ => base64From place bits pads rest
      | some n, 0 => base64From 1 n 0 rest
      | some n, 1 => (base64From 2 (n % 16) 0 rest).map (UInt8.ofNat (bits * 4 + n / 16) :: ·)
      | some n, 2 => (base64From 3 (n % 4) 0 rest).map (UInt8.ofNat (bits * 16 + n / 4) :: ·)
      | some n, _ => (base64From 0 0 0 rest).map (UInt8.ofNat (bits * 64 + n) :: ·)

/-- The bytes of a text in base 64, which has to be ASCII. -/
def binaryValue (cs : List Char) : Except Fault (List UInt8) :=
  if cs.any fun c => 128 ≤ c.toNat then .error (.malformed .binary)
  else
    match base64From 0 0 0 cs with
    | some bytes => .ok bytes
    | none => .error (.malformed .binary)

/-- The value of a scalar text under a tag for scalars. -/
def leafValue (tag : Tag) (s : String) : Except Fault Scalar :=
  match tag with
  | .null => .ok .null
  | .bool => ((boolValue s).map .bool).mapError .value
  | .int => ((intValue s.toList).map .int).mapError .value
  | .float => ((floatValue s).map .float).mapError .value
  | .text => .ok (.text s)
  | .timestamp => (timestampValue s.toList).mapError .value
  | .binary => (binaryValue s.toList).map .bytes
  | .sequence | .mapping | .set | .orderedMapping | .pairs => .error (.malformed .kindOfNode)
  | .merge | .default | .unknown _ => .error (.malformed .unknownTag)

end MockScaffold.Yaml
