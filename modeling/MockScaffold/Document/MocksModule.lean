import MockScaffold.Json.Printer
import MockScaffold.Naming
import MockScaffold.Route
import MockScaffold.Spec.Endpoint

/-!
# The module of mock handlers

Every endpoint with a verb gets a handler that answers with the sample response.  Handlers of verbs
that take a body read it, if the endpoint has one, and cast it to its named type, which is imported
from the module of types.  The names `Request` and `Response` are taken in the scripts' world, so a
type of that name is imported under another one.
-/

namespace MockScaffold.MocksModule

/-- What a handler answers with: the response and the status code. -/
def answerLines (e : Endpoint) : Except Json.EmbedFault (List String) := do
  let response ← Json.embed "      " e.response
  let status ← Json.integer e.statusCode
  return ["    return HttpResponse.json(", "      " ++ response ++ ",",
    "      \x7b status: " ++ status ++ " \x7d", "    )"]

/-- The first line of a handler. -/
def opening (verb : Verb) (route resolver : String) : String :=
  "  http." ++ verb.word ++ "(" ++ Route.literal route ++ ", " ++ resolver ++ " => \x7b"

/-- The cast of a request body to its type. -/
def cast (requestType : Option String) : String :=
  match requestType with
  | none | some "" => ""
  | some name => " as " ++ name

/-- The lines of a handler.  A handler for `GET` answers with the bare response, and names its
parameters only if the path may have some. -/
def handlerLines (verb : Verb) (e : Endpoint) (requestType : Option String) :
    Except Json.EmbedFault (List String) :=
  match verb with
  | .get => do
    let response ← Json.embed "    " e.response
    let first :=
      if Route.hasParameters e.path then opening verb (Route.ofPath e.path) "(\x7b params \x7d)"
      else opening verb e.path "()"
    return [first, "    return HttpResponse.json(" ++ response ++ ")", "  \x7d)"]
  | .delete => do
    let answer ← answerLines e
    return opening verb (Route.ofPath e.path) "(\x7b params \x7d)" :: answer ++ ["  \x7d)"]
  | .post | .put | .patch => do
    let answer ← answerLines e
    let body :=
      if e.hasRequestBody then ["    const body = await request.json()" ++ cast requestType] else []
    return opening verb (Route.ofPath e.path) "async (\x7b params, request \x7d)" :: body ++ answer ++
      ["  \x7d)"]

/-- The comment above a handler. -/
def comment (e : Endpoint) : String := "  // " ++ e.method ++ " " ++ e.path

/-- The handler of an endpoint, if its method is a verb. -/
def handler? (e : Endpoint) (requestType : Option String) :
    Except Json.EmbedFault (Option String) :=
  match e.verb? with
  | none => .ok none
  | some verb =>
    (handlerLines verb e requestType).map fun lines => some ("\n".intercalate (comment e :: lines))

/-- The names that an import would shadow. -/
def takenNames : List String := ["Request", "Response"]

/-- A type that is imported, and its name in the importing module. -/
structure ImportedType where
  name : String
  localName : String
  deriving DecidableEq, Repr

namespace ImportedType

/-- The import of the type of an endpoint's request bodies. -/
def ofName (name : String) : ImportedType :=
  ⟨name, if takenNames.contains name then "Api" ++ name else name⟩

/-- The type as it stands in an import. -/
def specifier (i : ImportedType) : String :=
  if i.localName = i.name then i.name else i.name ++ " as " ++ i.localName

end ImportedType

/-- The type of an endpoint's request bodies, if they have one. -/
def requestType? (e : Endpoint) : Option String :=
  if e.hasTypedBody then some (Naming.requestName e.path) else none

/-- The name by which a handler knows the type of its request bodies; without a module of types
there is no import to give it another one. -/
def localType? (typesModule : Option String) (e : Endpoint) : Option String :=
  (requestType? e).map fun name =>
    if typesModule.isSome then (ImportedType.ofName name).localName else name

/-- Adds a text at the end of a list, unless it is there. -/
def insertNew (texts : List String) (s : String) : List String :=
  if texts.contains s then texts else texts ++ [s]

/-- What is imported for endpoints, each type once. -/
def specifiers (endpoints : List Endpoint) : List String :=
  (endpoints.filterMap fun e => (requestType? e).map fun n => (ImportedType.ofName n).specifier).foldl
    insertNew []

/-- The line that imports types. -/
def importLine (typesModule : Option String) (endpoints : List Endpoint) : String :=
  match typesModule, specifiers endpoints with
  | none, _ | _, [] => ""
  | some source, names =>
    "import type \x7b " ++ ", ".intercalate names ++ " \x7d from " ++ Route.literal source ++ "\n"

def imports : String := "import \x7b http, HttpResponse \x7d from 'msw'\n"

def banner : String := "// Auto-generated handlers from API specification\n"

/-- The text of the module.  An empty specifier is none. -/
def render (endpoints : List Endpoint) (typesModule : Option String) :
    Except Json.EmbedFault String := do
  let source := typesModule.filter (· ≠ "")
  let handlers ← endpoints.mapM fun e => handler? e (localType? source e)
  return imports ++ importLine source endpoints ++ "\n" ++ banner ++ "export const handlers = [\n" ++
    ",\n\n".intercalate (handlers.filterMap id) ++ "\n]\n"

end MockScaffold.MocksModule
