import MockScaffold.Text.Surrogate

/-!
# Reading UTF-16 and UTF-32

The encodings of two and four bytes per unit.  A unit's bytes come most significant first
(`bigEndian`) or last; in UTF-16 a pair of surrogates stands for one character.  Anything else that
is no character makes the whole text unreadable.
-/

namespace MockScaffold.Text.Wide

/-- The order of the bytes of a unit. -/
inductive Order where
  | bigEndian
  | littleEndian
  deriving DecidableEq, Repr

/-- The units of `2` bytes; `none` if a byte is left over. -/
def units16? (order : Order) : List UInt8 → Option (List Nat)
  | [] => some []
  | a :: b :: rest =>
    let unit :=
      match order with
      | .bigEndian => 256 * a.toNat + b.toNat
      | .littleEndian => 256 * b.toNat + a.toNat
    (units16? order rest).map (unit :: ·)
  | _ => none

/-- The units of `4` bytes; `none` if bytes are left over. -/
def units32? (order : Order) : List UInt8 → Option (List Nat)
  | [] => some []
  | a :: b :: c :: d :: rest =>
    let unit :=
      match order with
      | .bigEndian => ((256 * a.toNat + b.toNat) * 256 + c.toNat) * 256 + d.toNat
      | .littleEndian => ((256 * d.toNat + c.toNat) * 256 + b.toNat) * 256 + a.toNat
    (units32? order rest).map (unit :: ·)
  | _ => none

/-- Joins surrogates into the characters they stand for. -/
def joinSurrogates? : List Nat → Option (List Char)
  | [] => some []
  | u :: rest =>
    if isHighSurrogate u then
      match rest with
      | v :: rest' =>
        if isLowSurrogate v then (joinSurrogates? rest').map (pairChar u v :: ·) else none
      | [] => none
    else if isLowSurrogate u then none
    else (joinSurrogates? rest).map (Char.ofNat u :: ·)

/-- The character with a code point, if there is one. -/
def char? (n : Nat) : Option Char :=
  if n.isValidChar then some (Char.ofNat n) else none

/-- The text of bytes in UTF-16. -/
def decode16? (order : Order) (bytes : List UInt8) : Option String :=
  ((units16? order bytes).bind joinSurrogates?).map String.ofList

/-- The text of bytes in UTF-32. -/
def decode32? (order : Order) (bytes : List UInt8) : Option String :=
  ((units32? order bytes).bind (·.mapM char?)).map String.ofList

end MockScaffold.Text.Wide
