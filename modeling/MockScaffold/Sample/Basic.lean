import MockScaffold.Number.Digits
import MockScaffold.Number.Notation
import MockScaffold.Sample.Calendar
import MockScaffold.Text.Quoted

/-!
# Sample values

A sample is what a decoded JSON or YAML text holds: scalars, lists and mappings, and the further
kinds that YAML has.  Mappings keep the order of their entries.  Keys are scalars, and two numbers
are one key when they are equal, whatever their kind, so that `1`, `1.0` and `true` are; writing a
key again keeps its place and its first spelling and takes the new value.
-/

namespace MockScaffold

/-- A value without parts. -/
inductive Scalar where
  | null
  | bool (b : Bool)
  | int (n : Int)
  | float (x : Double)
  | text (s : String)
  | bytes (b : List UInt8)
  | date (d : Date)
  | moment (m : Moment)
  deriving DecidableEq, Repr

/-- A decoded value. -/
inductive Sample where
  | scalar (s : Scalar)
  | list (items : List Sample)
  | map (entries : List (Scalar × Sample))
  /-- A mathematical set of keys. -/
  | set (members : List Scalar)
  /-- An entry of an ordered mapping or of a list of pairs. -/
  | pair (first second : Sample)

namespace Scalar

/-- The integer that a number equals, if it equals one. -/
def asInt? : Scalar → Option Int
  | .bool b => some (if b then 1 else 0)
  | .int n => some n
  | .float x => x.toInt?
  | _ => none

/-- Whether two scalars are the same key. -/
def sameKey (a b : Scalar) : Bool :=
  match a, b with
  | .float x, .float y => x.numEq y
  | .moment m, .moment n => m.same n
  | a, b =>
    match a.asInt?, b.asInt? with
    | some m, some n => m == n
    | none, none => a == b
    | _, _ => false

/-- How a key is spelled as the name of a field. -/
def name : Scalar → String
  | .null => "None"
  | .bool b => if b then "True" else "False"
  | .int n => toString n
  | .float x => x.write Double.plainLayout
  | .text s => s
  | .bytes b => Text.quotedBytes b
  | .date d => d.text
  | .moment m => m.text

/-- How a scalar is spelled as the member of a set. -/
def spelled : Scalar → String
  | .text s => Text.quoted s
  | .date d => d.spelled
  | .moment m => m.spelled
  | s => s.name

/-- Whether the scalar is an integer with more digits than may be written. -/
def isOverlong : Scalar → Bool
  | .int n => Nat.pow 10 digitLimit ≤ n.natAbs
  | _ => false

end Scalar

/-- Puts an entry into an ordered mapping. -/
def putEntry {α : Type} (key : Scalar) (value : α) : List (Scalar × α) → List (Scalar × α)
  | [] => [(key, value)]
  | (k, v) :: rest =>
    if k.sameKey key then (k, value) :: rest else (k, v) :: putEntry key value rest

/-- Puts entries into an ordered mapping, one after the other. -/
def putEntries {α : Type} (old new : List (Scalar × α)) : List (Scalar × α) :=
  new.foldl (fun entries e => putEntry e.1 e.2 entries) old

namespace Sample

def null : Sample := .scalar .null

def text (s : String) : Sample := .scalar (.text s)

/-- A member of a mapping, by the text of its key. -/
def field? (name : String) : Sample → Option Sample
  | .map entries => (entries.find? fun e => e.1 == .text name).map (·.2)
  | _ => none

/-- Whether the sample is the null value. -/
def isNull : Sample → Bool
  | .scalar .null => true
  | _ => false

end Sample

/-- A set, spelled with its members in braces. -/
def setText (members : List Scalar) : String :=
  if members.isEmpty then "set()"
  else "\x7b" ++ ", ".intercalate (members.map Scalar.spelled) ++ "\x7d"

end MockScaffold
