import MockScaffold.Json.Printer
import MockScaffold.Shape.Basic

/-!
# Shapes as type expressions

Objects spread over several lines, a field a line, indented by two spaces for each level of depth;
everything else stays on its line.  A field's name is written bare if it is an identifier, and as a
string literal otherwise.
-/

namespace MockScaffold

/-- A character with which an identifier may start. -/
def isIdentifierStart (c : Char) : Bool := c.isAlpha || c == '_' || c == '$'

/-- A character of which an identifier may go on. -/
def isIdentifierPart (c : Char) : Bool := c.isAlphanum || c == '_' || c == '$'

/-- ASCII identifiers. -/
def isIdentifier : List Char → Bool
  | [] => false
  | c :: rest => isIdentifierStart c && rest.all isIdentifierPart

namespace Shape

/-- A name that is written bare: an identifier, which one line feed may follow. -/
def isBareName (name : String) : Bool :=
  let cs := name.toList
  isIdentifier cs || (cs.getLast? == some '\n' && isIdentifier cs.dropLast)

/-- The name of a field as it stands in a type expression. -/
def propertyName (name : String) : String :=
  if isBareName name then name else Json.quote name

/-- Two spaces for each level of depth; no depth is less than none. -/
def spaces (depth : Int) : String :=
  String.ofList (List.replicate (2 * depth.toNat) ' ')

/-- An array of what an expression stands for. -/
def arrayOf (item : Shape) (text : String) : String :=
  if item.isUnknown then "any[]" else if item.isObject then text ++ "[]" else "(" ++ text ++ ")[]"

mutual

/-- The type expression of a shape. -/
def render : Shape → String
  | .null => "null"
  | .string => "string"
  | .number => "number"
  | .boolean => "boolean"
  | .unknown => "any"
  | .record => "Record<string, any>"
  | .array item => arrayOf item (render item)
  | .object depth fields =>
    "\x7b\n" ++ "\n".intercalate (renderFields (spaces depth ++ "  ") fields) ++ "\n" ++ spaces depth ++
      "\x7d"
  | .union members => " | ".intercalate (renderMembers members)

def renderMembers : List Shape → List String
  | [] => []
  | m :: rest => render m :: renderMembers rest

/-- The fields of an object, each on a line that starts with `indent`. -/
def renderFields (indent : String) : List (String × Shape) → List String
  | [] => []
  | (name, m) :: rest =>
    (indent ++ propertyName name ++ ": " ++ render m) :: renderFields indent rest

end

end Shape

end MockScaffold
