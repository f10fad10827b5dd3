import MockScaffold.Text.Hex

/-!
# Reading UTF-8

Bytes are decoded one at a time.  Between characters a byte has to be a possible first byte; inside
one, the reader owes a number of further bytes, the next of which has to lie in a given interval
(the intervals rule out overlong forms, surrogates and code points past U+10FFFF at the second byte
already).  The fault, if any, therefore covers the longest prefix that could have become a
character.
-/

namespace MockScaffold.Text.Utf8

/-- Why a sequence of bytes is no text. -/
inductive Cause where
  /-- No character starts with this byte. -/
  | start
  /-- The byte after the reported ones cannot follow them. -/
  | continuation
  /-- The bytes end inside a character. -/
  | truncated
  deriving DecidableEq, Repr

/-- The reported bytes: those at the offsets `first` to `last`, of which `byte` is the first. -/
structure Fault where
  first : Nat
  last : Nat
  byte : UInt8
  cause : Cause
  deriving DecidableEq, Repr

def Cause.message : Cause → String
  | .start => "invalid start byte"
  | .continuation => "invalid continuation byte"
  | .truncated => "unexpected end of data"

def Fault.message (f : Fault) : String :=
  let range :=
    if f.first = f.last then s!"byte 0x{String.ofList (hex 2 f.byte.toNat)} in position {f.first}"
    else s!"bytes in position {f.first}-{f.last}"
  s!"'utf-8' codec can't decode {range}: {f.cause.message}"

/-- A character that has begun: where and with which byte, how many bytes it still lacks, the
interval of the next of them, and the bits read so far. -/
structure Pending where
  first : Nat
  byte : UInt8
  owed : Nat
  least : UInt8
  greatest : UInt8
  bits : Nat

/-- What a first byte from 0x80 on promises. -/
def begin? (position : Nat) (b : UInt8) : Option Pending :=
  if 0xC2 ≤ b && b ≤ 0xDF then some ⟨position, b, 1, 0x80, 0xBF, b.toNat - 0xC0⟩
  else if 0xE0 ≤ b && b ≤ 0xEF then
    some ⟨position, b, 2, if b = 0xE0 then 0xA0 else 0x80, if b = 0xED then 0x9F else 0xBF,
      b.toNat - 0xE0⟩
  else if 0xF0 ≤ b && b ≤ 0xF4 then
    some ⟨position, b, 3, if b = 0xF0 then 0x90 else 0x80, if b = 0xF4 then 0x8F else 0xBF,
      b.toNat - 0xF0⟩
  else none

/-- Decodes from an offset on; `done` holds the characters so far, last one first. -/
def decodeFrom (position : Nat) (pending : Option Pending) (done : List Char) :
    List UInt8 → Except Fault (List Char)
  | [] =>
    match pending with
    | none => .ok done.reverse
    | some p => .error ⟨p.first, position - 1, p.byte, .truncated⟩
  | b :: rest =>
    match pending with
    | none =>
      if b < 0x80 then decodeFrom (position + 1) none (Char.ofNat b.toNat :: done) rest
      else
        match begin? position b with
        | some p => decodeFrom (position + 1) (some p) done rest
        | none => .error ⟨position, position, b, .start⟩
    | some p =>
      if p.least ≤ b && b ≤ p.greatest then
        let bits := 64 * p.bits + (b.toNat - 0x80)
        if p.owed ≤ 1 then decodeFrom (position + 1) none (Char.ofNat bits :: done) rest
        else
          decodeFrom (position + 1) (some { p with
            owed := p.owed - 1, least := 0x80, greatest := 0xBF, bits }) done rest
      else .error ⟨p.first, position - 1, p.byte, .continuation⟩

/-- The text that the bytes encode. -/
def decode (bytes : List UInt8) : Except Fault String :=
  (decodeFrom 0 none [] bytes).map String.ofList

/-- The bytes of a text. -/
def encode (s : String) : List UInt8 := s.toUTF8.data.toList

end MockScaffold.Text.Utf8
