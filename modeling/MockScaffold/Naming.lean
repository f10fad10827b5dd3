import MockScaffold.Text.Case

/-!
# Names from paths

The types and functions of an endpoint are named after its path.  One leading `/api/` is dropped,
slashes and underscores separate the parts of a name, braces vanish, and the first character of
each part is put into upper case; the rest of a part stays as written.
-/

namespace MockScaffold.Naming

/-- A character that separates the parts of a name. -/
def isSeparator (c : Char) : Bool := c == '/' || c == '_'

/-- A character that marks a placeholder in a path. -/
def isBrace (c : Char) : Bool := c == '{' || c == '}'

/-- The path without one leading `/api/`. -/
def dropApi (path : List Char) : List Char :=
  (['/', 'a', 'p', 'i', '/'].isPrefixOf? path).getD path

/-- The parts that follow one another, each with its first character in upper case. -/
def joinParts (cs : List Char) : List Char :=
  ((cs.filter (!isBrace ·)).splitOnP isSeparator).flatMap Text.capitalize

/-- The fragment that a path contributes to names: `/api/users/{id}` gives `UsersId`. -/
def fragment (path : String) : String := String.ofList (joinParts (dropApi path.toList))

/-- The name of a type for a path. -/
def typeName (path suffix : String) : String := fragment path ++ suffix

/-- The name of the type of request bodies. -/
def requestName (path : String) : String := typeName path "Request"

/-- The name of the type of responses. -/
def responseName (path : String) : String := typeName path "Response"

/-- The name of the function that calls an endpoint. -/
def functionName (method path : String) : String := Text.lower method ++ fragment path

end MockScaffold.Naming
