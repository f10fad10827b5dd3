import MockScaffold.Sample.Basic
import MockScaffold.Text.Lines

/-!
# Samples as embedded JSON text

A mock handler answers with its sample, written into the script as JSON: two spaces per level,
empty collections on one line, characters as they are unless JSON requires an escape.  What JSON
has no form for becomes a string.  Keys that are not text are written as JSON writes the value;
dates and bytes have no such form, and there the embedding fails.
-/

namespace MockScaffold.Json

/-- Why a sample cannot be embedded. -/
inductive EmbedFault where
  /-- The scalar cannot be the key of a JSON object. -/
  | key (k : Scalar)
  /-- An integer is too long to be written. -/
  | digits (o : DigitOverflow)
  deriving DecidableEq, Repr

/-- The word for the kind of a scalar. -/
def kindWord : Scalar → String
  | .null => "NoneType"
  | .bool _ => "bool"
  | .int _ => "int"
  | .float _ => "float"
  | .text _ => "str"
  | .bytes _ => "bytes"
  | .date _ => "date"
  | .moment _ => "datetime"

def EmbedFault.message : EmbedFault → String
  | .key k => s!"keys must be str, int, float, bool or None, not {kindWord k}"
  | .digits o => o.message

/-- One character inside a string literal. -/
def escapeChar (c : Char) : List Char :=
  if c = '"' then ['\\', '"']
  else if c = '\\' then ['\\', '\\']
  else if c = '\n' then ['\\', 'n']
  else if c = '\r' then ['\\', 'r']
  else if c = '\t' then ['\\', 't']
  else if c = '\x08' then ['\\', 'b']
  else if c = '\x0c' then ['\\', 'f']
  else if c.toNat < 0x20 then '\\' :: 'u' :: Text.hex 4 c.toNat
  else [c]

/-- A string literal. -/
def quote (s : String) : String :=
  String.ofList ('"' :: s.toList.flatMap escapeChar ++ ['"'])

/-- An integer, if it is not too long. -/
def integer (n : Int) : Except EmbedFault String :=
  (integerText n).mapError .digits

/-- The text of a key, still without quotation marks. -/
def keyText : Scalar → Except EmbedFault String
  | .null => .ok "null"
  | .bool b => .ok (if b then "true" else "false")
  | .int n => integer n
  | .float x => .ok (x.write Double.jsonLayout)
  | .text s => .ok s
  | k => .error (.key k)

/-- A scalar; the kinds that JSON lacks become strings. -/
def scalar : Scalar → Except EmbedFault String
  | .null => .ok "null"
  | .bool b => .ok (if b then "true" else "false")
  | .int n => integer n
  | .float x => .ok (x.write Double.jsonLayout)
  | .text s => .ok (quote s)
  | s => .ok (quote s.name)

/-- The start of a line at a level of nesting. -/
def newline (level : Nat) : String :=
  String.ofList ('\n' :: List.replicate (2 * level) ' ')

/-- A collection between brackets, an item a line, one level below `level`. -/
def block (first last : String) (level : Nat) (items : List String) : String :=
  if items.isEmpty then first ++ last
  else
    first ++ newline (level + 1) ++ ("," ++ newline (level + 1)).intercalate items ++
      newline level ++ last

mutual

/-- A sample as JSON text whose continuation lines stand at `level`. -/
def print (level : Nat) : Sample → Except EmbedFault String
  | .scalar s => scalar s
  | .list items => (printItems (level + 1) items).map (block "[" "]" level)
  | .map entries => (printEntries (level + 1) entries).map (block "\x7b" "\x7d" level)
  | .set members =>
    if members.any Scalar.isOverlong then .error (.digits .writing)
    else .ok (quote (setText members))
  | .pair a b => do
    let first ← print (level + 1) a
    let second ← print (level + 1) b
    return block "[" "]" level [first, second]

/-- The items of a list, each as JSON text. -/
def printItems (level : Nat) : List Sample → Except EmbedFault (List String)
  | [] => .ok []
  | v :: rest => do
    let first ← print level v
    let others ← printItems level rest
    return first :: others

/-- The entries of a mapping, each as a key, a colon and a value. -/
def printEntries (level : Nat) : List (Scalar × Sample) → Except EmbedFault (List String)
  | [] => .ok []
  | (k, v) :: rest => do
    let key ← keyText k
    let value ← print level v
    let others ← printEntries level rest
    return (quote key ++ ": " ++ value) :: others

end

/-- A sample as it is embedded in a script, where the lines after the first are indented further
by `indent`. -/
def embed (indent : String) (v : Sample) : Except EmbedFault String :=
  (print 0 v).map (Text.indentLines indent)

end MockScaffold.Json
