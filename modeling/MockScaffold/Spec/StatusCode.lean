import MockScaffold.Number.Reading
import MockScaffold.Sample.Basic
import MockScaffold.Spec.Misfit
import MockScaffold.Text.Utf8

/-!
# Status codes

A status code is an integer of any size.  It may be given as another value that is one without
loss: a truth value, a floating-point number without fraction that fits into 64 bits, or the
decimal text of an integer.  In text, white space around the number, leading zeros, single
underscores between digits and a fraction of zeros are passed over.
-/

namespace MockScaffold.StatusCode

/-- The value of a number given in floating point. -/
def ofDouble (x : Double) : Except Misfit Int :=
  if !x.isFinite then .error .notFinite
  else
    match x.toInt? with
    | none => .error .fractional
    | some n => if -(Nat.pow 2 63 : Int) < n ∧ n < Nat.pow 2 63 then .ok n else .error .oversized

/-- Whether a text is empty, or a point and at least one zero. -/
def isZeroFraction : List Char → Bool
  | [] => true
  | '.' :: c :: rest => (c :: rest).all (· == '0')
  | _ => false

/-- Drops leading zeros, but not the last digit. -/
def dropZeros : List Char → List Char
  | '0' :: c :: rest => dropZeros (c :: rest)
  | digits => digits

/-- The value of a number given as text. -/
def ofText (cs : List Char) : Except Misfit Int :=
  let (negative, unsigned) := splitSign (Text.trim Text.isWhiteSpace cs)
  let whole := unsigned.takeWhile (· ≠ '.')
  if !isZeroFraction (unsigned.dropWhile (· ≠ '.')) then .error .notIntegerText
  else
    match Double.dropUnderscores? false whole with
    | none | some [] => .error .notIntegerText
    | some digits =>
      let kept := dropZeros digits
      if !digits.all Char.isDigit then .error .notIntegerText
      else if digitLimit < kept.length + (if negative then 1 else 0) then .error .oversized
      else
        let n := ofAsciiDigits kept
        .ok (if negative then -n else n)

/-- The status code that a value gives. -/
def ofSample : Sample → Except Misfit Int
  | .scalar (.int n) => .ok n
  | .scalar (.bool b) => .ok (if b then 1 else 0)
  | .scalar (.float x) => ofDouble x
  | .scalar (.text s) => ofText s.toList
  | .scalar (.bytes b) =>
    match Text.Utf8.decode b with
    | .ok s => ofText s.toList
    | .error _ => .error .notIntegerText
  | _ => .error .notInteger

end MockScaffold.StatusCode
