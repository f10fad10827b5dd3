import MockScaffold.Number.Double

/-!
# The fewest digits that read back

A finite number `mantissa · 2 ^ exponent` is told from its neighbours by any decimal inside the
interval of the reals that round to it.  For 1, 2, … 17 digits the two decimals around the number
on the grid of so many digits are tried; the first grid with a hit wins, of two hits the nearer
one, and of two equally near ones the even one.  All of it is integer arithmetic in units of a
quarter of the number's last binary place.
-/

namespace MockScaffold.Double

/-- A positive decimal `digits · 10 ^ exponent`. -/
structure Decimal where
  digits : Nat
  exponent : Int
  deriving DecidableEq, Repr

/-- A positive number with the half-open distances to its neighbours, all in units of
`2 ^ exponent`: it is `value`, and what lies between `low` and `high` rounds to it, the ends
included if `closed`. -/
structure Interval where
  value : Nat
  low : Nat
  high : Nat
  closed : Bool
  exponent : Int

/-- The interval of the reals that round to `mantissa · 2 ^ exponent`.  Below a power of two the
neighbour is only half as far, except among the smallest numbers. -/
def roundingInterval (mantissa : Nat) (exponent : Int) : Interval where
  value := 4 * mantissa
  low := 4 * mantissa - if mantissa = Nat.pow 2 52 ∧ -1074 < exponent then 1 else 2
  high := 4 * mantissa + 2
  closed := mantissa % 2 == 0
  exponent := exponent - 2

/-- `n · 2 ^ p` against `m · 10 ^ k`, both as integers over a common denominator. -/
def scalePair (n : Nat) (p : Int) (m : Nat) (k : Int) : Nat × Nat :=
  (n * Nat.pow 2 p.toNat * Nat.pow 10 (-k).toNat, m * Nat.pow 10 k.toNat * Nat.pow 2 (-p).toNat)

/-- Whether `d · 10 ^ k` lies in the interval. -/
def Interval.holds (i : Interval) (d : Nat) (k : Int) : Bool :=
  let (low, x) := scalePair i.low i.exponent d k
  let (high, y) := scalePair i.high i.exponent d k
  if i.closed then low ≤ x && y ≤ high else low < x && y < high

/-- The number of decimal digits before the point of a positive `n · 2 ^ p`, less one; for numbers
below one it is the (negative) place of the first digit. -/
def decimalExponent (n : Nat) (p : Int) : Int :=
  let guess : Int := ((Nat.log2 n : Int) + p) * 30103 / 100000
  let up := fun k : Int => let (a, b) := scalePair n p 1 k; b ≤ a
  if up (guess + 1) then guess + 1 else if up guess then guess else guess - 1

/-- The decimal of `count` digits that is taken for the number, if one lies in the interval. -/
def Interval.decimal? (i : Interval) (top : Int) (count : Nat) : Option Decimal :=
  let k := top - count + 1
  let (v, unit) := scalePair i.value i.exponent 1 k
  let below := v / unit
  let rest := v % unit
  let first := i.holds below k
  let second := i.holds (below + 1) k
  let lower :=
    if first && second then
      if 2 * rest < unit then true else if unit < 2 * rest then false else below % 2 == 0
    else first
  if first || second then some ⟨if lower then below else below + 1, k⟩ else none

/-- The shortest decimal that rounds to the positive number `mantissa · 2 ^ exponent`.  Seventeen
digits always suffice. -/
def shortest (mantissa : Nat) (exponent : Int) : Decimal :=
  let i := roundingInterval mantissa exponent
  let top := decimalExponent i.value i.exponent
  ((List.range 17).findSome? fun n => i.decimal? top (n + 1)).getD ⟨mantissa, 0⟩

end MockScaffold.Double
