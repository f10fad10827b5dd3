/-!
# Binary64 numbers

A number of the binary64 format is kept as its 64 bits, so that it can be compared, decided and
computed with exactly.  `Double.value` decodes the bits into a sign, an integer and a power of two;
`Double.ofRatio` goes back, rounding to the nearest number and a tie to the even one.  Every other
operation is exact arithmetic followed by that one rounding.
-/

namespace MockScaffold

/-- A binary64 number, by its bits. -/
structure Double where
  bits : UInt64
  deriving DecidableEq, Repr

namespace Double

/-- What the bits stand for; a finite number is `± mantissa · 2 ^ exponent`. -/
inductive Value where
  | nan
  | infinite (negative : Bool)
  | finite (negative : Bool) (mantissa : Nat) (exponent : Int)
  deriving DecidableEq, Repr

/-- Decodes the bits.  A subnormal number has exponent field zero and no hidden bit. -/
def value (x : Double) : Value :=
  let n : Nat := x.bits.toNat
  let negative := n / Nat.pow 2 63 == 1
  let field : Nat := n / Nat.pow 2 52 % 2048
  let fraction : Nat := n % Nat.pow 2 52
  if field = 2047 then if fraction = 0 then .infinite negative else .nan
  else if field = 0 then .finite negative fraction (-1074)
  else .finite negative (Nat.pow 2 52 + fraction) ((field : Int) - 1075)

/-- Puts a sign before a magnitude given by its lower 63 bits. -/
def ofMagnitude (negative : Bool) (magnitude : Nat) : Double :=
  ⟨UInt64.ofNat (magnitude + if negative then Nat.pow 2 63 else 0)⟩

def zero (negative : Bool) : Double := ofMagnitude negative 0

def infinity (negative : Bool) : Double := ofMagnitude negative (2047 * Nat.pow 2 52)

def nan : Double := ofMagnitude false (2047 * Nat.pow 2 52 + Nat.pow 2 51)

/-- The integer nearest to a quotient, a tie going to the even one. -/
def roundQuotient (num den : Nat) : Nat :=
  let q := num / den
  let r := num % den
  if 2 * r < den then q else if den < 2 * r then q + 1 else q + q % 2

/-- The power of two in which the quotient `num / den` is counted: the one that leaves 53 binary
places, but no smaller one than subnormal numbers have. -/
def unitExponent (num den : Nat) : Int :=
  let guess : Int := (Nat.log2 num : Int) - Nat.log2 den - 52
  let quotient :=
    if 0 ≤ guess then num / (den * Nat.pow 2 guess.toNat) else num * Nat.pow 2 (-guess).toNat / den
  max (-1074) (if quotient < Nat.pow 2 52 then guess - 1 else guess)

/-- The number nearest to `± num / den`, a tie going to the even mantissa; what rounds past the
largest finite number is infinite. -/
def ofRatio (negative : Bool) (num den : Nat) : Double :=
  if num = 0 then zero negative
  else
    let q := unitExponent num den
    let mantissa :=
      if 0 ≤ q then roundQuotient num (den * Nat.pow 2 q.toNat)
      else roundQuotient (num * Nat.pow 2 (-q).toNat) den
    let magnitude := (q + 1074).toNat * Nat.pow 2 52 + mantissa
    if magnitude < 2047 * Nat.pow 2 52 then ofMagnitude negative magnitude else infinity negative

/-- The number nearest to `± digits · 10 ^ exponent`.  Exponents far out of range are answered
without computing the power. -/
def ofDecimal (negative : Bool) (digits : Nat) (exponent : Int) : Double :=
  if digits = 0 then zero negative
  else if 400 < exponent then infinity negative
  else if exponent < -(400 + (Nat.log2 digits : Int)) then zero negative
  else if 0 ≤ exponent then ofRatio negative (digits * Nat.pow 10 exponent.toNat) 1
  else ofRatio negative digits (Nat.pow 10 (-exponent).toNat)

/-- The number nearest to an integer. -/
def ofInt (n : Int) : Double := ofRatio (n < 0) n.natAbs 1

/-- The number nearest to `n · 2 ^ exponent`; `negative` is the sign of a zero. -/
def ofScaled (negative : Bool) (n : Int) (exponent : Int) : Double :=
  let negative := if n = 0 then negative else n < 0
  if 0 ≤ exponent then ofRatio negative (n.natAbs * Nat.pow 2 exponent.toNat) 1
  else ofRatio negative n.natAbs (Nat.pow 2 (-exponent).toNat)

/-- A signed mantissa. -/
def signed (negative : Bool) (mantissa : Nat) : Int := if negative then -mantissa else mantissa

/-- Sum, rounded once. -/
def add (x y : Double) : Double :=
  match x.value, y.value with
  | .finite s m p, .finite t n q =>
    let e := min p q
    ofScaled (s && t) (signed s m * Nat.pow 2 (p - e).toNat + signed t n * Nat.pow 2 (q - e).toNat) e
  | .infinite s, .infinite t => if s = t then x else nan
  | .nan, _ | _, .nan => nan
  | .infinite _, _ => x
  | _, .infinite _ => y

/-- Product, rounded once. -/
def mul (x y : Double) : Double :=
  match x.value, y.value with
  | .finite s m p, .finite t n q => ofScaled (s != t) (signed (s != t) (m * n)) (p + q)
  | .nan, _ | _, .nan => nan
  | .infinite s, .infinite t => infinity (s != t)
  | .infinite s, .finite t n _ => if n = 0 then nan else infinity (s != t)
  | .finite s m _, .infinite t => if m = 0 then nan else infinity (s != t)

/-- The number with the other sign. -/
def neg (x : Double) : Double :=
  match x.value with
  | .nan => nan
  | _ => ⟨x.bits ^^^ 0x8000000000000000⟩

/-- A number without fraction, as an integer. -/
def toInt? (x : Double) : Option Int :=
  match x.value with
  | .finite negative m e =>
    if 0 ≤ e then some (signed negative (m * Nat.pow 2 e.toNat))
    else if m % Nat.pow 2 (-e).toNat = 0 then some (signed negative (m / Nat.pow 2 (-e).toNat))
    else none
  | _ => none

def isFinite (x : Double) : Bool :=
  match x.value with
  | .finite .. => true
  | _ => false

/-- Equality as numbers: both zeros are equal, and a NaN equals nothing. -/
def numEq (x y : Double) : Bool :=
  match x.value, y.value with
  | .nan, _ | _, .nan => false
  | .finite _ 0 _, .finite _ 0 _ => true
  | _, _ => x.bits == y.bits

end Double

end MockScaffold
