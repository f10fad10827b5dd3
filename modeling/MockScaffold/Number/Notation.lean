import MockScaffold.Number.Shortest

/-!
# How a binary64 number is written

The digits are the shortest ones that read back.  A `Notation` says how they are laid out: which
decimal exponents are written positionally, and the texts of what is not finite.
-/

namespace MockScaffold.Double

/-- A way to write numbers.  Those whose first digit has a place between `leastPlain` and
`greatestPlain` are positional and always show a fraction; the others have a one-digit integer
part, no empty fraction, and an exponent with a sign and at least two digits. -/
structure Layout where
  leastPlain : Int
  greatestPlain : Int
  nan : String
  infinity : String

/-- Drops the zeros at the end, counting them into the exponent. -/
def Decimal.normalize (d : Decimal) : List Char × Int :=
  let cs := (toString d.digits).toList
  let kept := (cs.reverse.dropWhile (· == '0')).reverse
  (kept, d.exponent + (cs.length - kept.length : Nat))

/-- Digits times a power of ten, written positionally with at least one place after the point. -/
def plainDigits (digits : List Char) (exponent : Int) : List Char :=
  let zeros := List.replicate exponent.toNat '0'
  if 0 ≤ exponent then digits ++ zeros ++ ['.', '0']
  else
    let places := (-exponent).toNat
    let padded := List.replicate (places + 1 - digits.length) '0' ++ digits
    padded.take (padded.length - places) ++ '.' :: padded.drop (padded.length - places)

/-- Digits with the point after the first, and the exponent of that first digit. -/
def scientificDigits (digits : List Char) (top : Int) : List Char :=
  let fraction :=
    match digits.tail with
    | [] => []
    | rest => '.' :: rest
  let magnitude := (toString top.natAbs).toList
  let padded := if magnitude.length < 2 then '0' :: magnitude else magnitude
  digits.take 1 ++ fraction ++ 'e' :: (if top < 0 then '-' else '+') :: padded

/-- The text of a number. -/
def write (layout : Layout) (x : Double) : String :=
  let sign (negative : Bool) (s : String) := if negative then "-" ++ s else s
  match x.value with
  | .nan => layout.nan
  | .infinite negative => sign negative layout.infinity
  | .finite negative 0 _ => sign negative "0.0"
  | .finite negative m e =>
    let (digits, exponent) := (shortest m e).normalize
    let top := exponent + digits.length - 1
    sign negative <| String.ofList <|
      if layout.leastPlain ≤ top ∧ top ≤ layout.greatestPlain then plainDigits digits exponent
      else scientificDigits digits top

/-- Numbers in messages and in names of fields. -/
def plainLayout : Layout := ⟨-4, 15, "nan", "inf"⟩

/-- Numbers in JSON text, where the names of what is not finite are those of the scripts that
read it. -/
def jsonLayout : Layout := ⟨-4, 15, "NaN", "Infinity"⟩

end MockScaffold.Double
