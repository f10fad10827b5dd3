import MockScaffold.Config
import MockScaffold.Document.MocksModule
import MockScaffold.Document.TypesModule
import MockScaffold.Files.ImportSpecifier
import MockScaffold.Files.Tree

/-!
# The generated artifacts

From a specification come the table of named types, the module that declares them and the module of
mock handlers, which imports some of them.
-/

namespace MockScaffold

/-- What is generated. -/
structure Artifacts where
  mocks : String
  types : String
  table : TypeTable

namespace Artifacts

/-- Why nothing is generated. -/
inductive Fault where
  /-- The name of a field is an integer too long to be written. -/
  | fieldName (o : DigitOverflow)
  /-- The path of the types is nothing but a suffix. -/
  | noTypesPath
  /-- A sample cannot be embedded in the mock handlers. -/
  | embed (f : Json.EmbedFault)
  deriving DecidableEq, Repr

def Fault.message : Fault → String
  | .fieldName o => o.message
  | .noTypesPath => "no path specified"
  | .embed f => f.message

/-- The specifier by which the mock handlers import types. -/
def typesModule (workingDirectory : Place) (config : Config) : Except Fault String :=
  (importSpecifier? workingDirectory config.mocksPath config.typesPath).elim
    (.error .noTypesPath) .ok

/-- Generates the artifacts of a specification. -/
def generate (workingDirectory : Place) (config : Config) (spec : Specification) :
    Except Fault Artifacts := do
  let table ← (TypeTable.ofEndpoints config.collisionPolicy config.arrayStrategy
    spec.endpoints).mapError Fault.fieldName
  let source ← typesModule workingDirectory config
  let mocks ← (MocksModule.render spec.endpoints (some source)).mapError Fault.embed
  return ⟨mocks, TypesModule.render table spec.endpoints, table⟩

/-- Writes the mock handlers and then the types. -/
def write (t : FileTree) (config : Config) (a : Artifacts) :
    FileTree × Except FileFault (List FilePath) :=
  t.writeTexts [(config.mocksPath, a.mocks), (config.typesPath, a.types)]

end Artifacts

end MockScaffold
