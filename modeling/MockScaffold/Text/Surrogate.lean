/-!
# Surrogates

Characters past U+FFFF are written as two 16-bit units, a high and a low surrogate; neither is a
character on its own.
-/

namespace MockScaffold.Text

/-- Whether a unit is the first half of a surrogate pair. -/
def isHighSurrogate (n : Nat) : Bool := 0xD800 ≤ n && n < 0xDC00

/-- Whether a unit is the second half of a surrogate pair. -/
def isLowSurrogate (n : Nat) : Bool := 0xDC00 ≤ n && n < 0xE000

/-- The character of a surrogate pair. -/
def pairChar (high low : Nat) : Char :=
  Char.ofNat (0x10000 + (high - 0xD800) * 0x400 + (low - 0xDC00))

/-- The character of a unit; a surrogate without partner is shown by the replacement character. -/
def unitChar (n : Nat) : Char := if n.isValidChar then Char.ofNat n else '\uFFFD'

end MockScaffold.Text
