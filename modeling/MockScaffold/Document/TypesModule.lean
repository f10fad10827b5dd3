import MockScaffold.Shape.Rendering
import MockScaffold.TypeTable

/-!
# The module of types

Every named type is declared, objects as interfaces and all else as aliases.  One more interface,
`ApiEndpoints`, lists the endpoints as functions from request body to promised response.
-/

namespace MockScaffold.TypesModule

/-- The declaration of a named type. -/
def declaration (name : String) (s : Shape) : String :=
  if s.isObject then "export interface " ++ name ++ " " ++ s.render ++ "\n"
  else "export type " ++ name ++ " = " ++ s.render ++ "\n"

/-- The line of an endpoint in the interface of endpoints.  A request body is mentioned whatever the
method. -/
def endpointEntry (e : Endpoint) : String :=
  let argument := if e.hasRequestBody then "(body: " ++ Naming.requestName e.path ++ ")" else "()"
  "  " ++ Naming.functionName e.method e.path ++ ": " ++ argument ++ " => Promise<" ++
    Naming.responseName e.path ++ ">\n"

def banner : String := "// Auto-generated TypeScript types from API specification\n\n"

/-- The text of the module. -/
def render (table : TypeTable) (endpoints : List Endpoint) : String :=
  banner ++ String.join (table.entries.map fun (name, s) => declaration name s ++ "\n") ++
    "// API function types\nexport interface ApiEndpoints \x7b\n" ++
    String.join (endpoints.map endpointEntry) ++ "\x7d\n"

end MockScaffold.TypesModule
