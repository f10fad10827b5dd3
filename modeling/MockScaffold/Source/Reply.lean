import MockScaffold.Text.Utf8
import MockScaffold.Text.Wide

/-!
# Replies from the web

A request is refused or answered.  The bytes of an answer are JSON text, whose encoding shows in its
first four bytes: by a byte order mark, or by which of the bytes are null, since JSON starts with two
ASCII characters.  Bytes that are not in the encoding they seem to be in, or in none, are read as one
character each.
-/

namespace MockScaffold

/-- What comes back from a request. -/
inductive Reply where
  | refused (message : String)
  | answered (status : Int) (reason : String) (body : List UInt8)
  deriving DecidableEq, Repr

/-- Why a request brought no specification. -/
inductive FetchFault where
  | refused (message : String)
  | clientError (status : Int) (reason url : String)
  | serverError (status : Int) (reason url : String)
  deriving DecidableEq, Repr

def FetchFault.message : FetchFault → String
  | .refused message => message
  | .clientError status reason url => s!"{status} Client Error: {reason} for url: {url}"
  | .serverError status reason url => s!"{status} Server Error: {reason} for url: {url}"

namespace Reply

/-- The body of a reply that is no failure. -/
def body (url : String) : Reply → Except FetchFault (List UInt8)
  | .refused message => .error (.refused message)
  | .answered status reason body =>
    if 400 ≤ status ∧ status < 500 then .error (.clientError status reason url)
    else if 500 ≤ status ∧ status < 600 then .error (.serverError status reason url)
    else .ok body

/-- One character for each byte. -/
def characters (bytes : List UInt8) : String :=
  String.ofList (bytes.map fun b => Char.ofNat b.toNat)

open Text in
/-- The text of bytes by their encoding, if they are in it. -/
def decode? (bytes : List UInt8) : Option String :=
  match bytes with
  | 0xFF :: 0xFE :: 0 :: 0 :: rest => Wide.decode32? .littleEndian rest
  | 0 :: 0 :: 0xFE :: 0xFF :: rest => Wide.decode32? .bigEndian rest
  | 0xEF :: 0xBB :: 0xBF :: rest => (Utf8.decode rest).toOption
  | 0xFF :: 0xFE :: rest => Wide.decode16? .littleEndian rest
  | 0xFE :: 0xFF :: rest => Wide.decode16? .bigEndian rest
  | a :: b :: c :: d :: _ =>
    match a == 0, b == 0, c == 0, d == 0 with
    | false, false, false, false => (Utf8.decode bytes).toOption
    | true, false, true, false => Wide.decode16? .bigEndian bytes
    | false, true, false, true => Wide.decode16? .littleEndian bytes
    | true, true, true, false => Wide.decode32? .bigEndian bytes
    | false, true, true, true => Wide.decode32? .littleEndian bytes
    | _, _, _, _ => none
  | _ => none

/-- The text of a body. -/
def text (bytes : List UInt8) : String := (decode? bytes).getD (characters bytes)

end Reply

end MockScaffold
