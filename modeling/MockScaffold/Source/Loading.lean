import MockScaffold.Files.Tree
import MockScaffold.Source.Fault
import MockScaffold.Source.Kind
import MockScaffold.Text.Lines
import MockScaffold.Yaml.Reader

/-!
# Loading specifications

A source is fetched or read, decoded by its kind and checked.  Files are in UTF-8, and their line
ends are unified before they are decoded.
-/

namespace MockScaffold

/-- Decodes the JSON text of a source. -/
def decodeJson (source text : String) : Except LoadFault Sample :=
  (Json.read text).mapError fun
    | .malformed problem rest => .badJson source problem (Json.faultLine text rest)
    | .digits o => .longInteger o

/-- Decodes the YAML text of a source. -/
def decodeYaml (source text : String) : Except LoadFault Sample :=
  (Yaml.read text).mapError fun
    | .malformed m => .badYaml source m
    | .value v => .badScalar v

/-- Decodes the text of a file. -/
def decodeFile (source text : String) : Except LoadFault Sample :=
  match SourceKind.of source with
  | .yaml => decodeYaml source text
  | _ => decodeJson source text

/-- The text of a file. -/
def readText (t : FileTree) (path : FilePath) : Except LoadFault String := do
  let bytes ← (t.read path).mapError fun
    | .refused .notFound _ => .notFound path
    | .nullByte => .nullByte
    | f => .unreadable path f
  let text ← (Text.Utf8.decode bytes).mapError (LoadFault.notUtf8 path)
  return String.ofList (Text.unifyLines text.toList)

/-- The value that an address serves, given the reply to the request. -/
def fetched (url : String) (reply : Reply) : Except LoadFault Sample := do
  let bytes ← (reply.body url).mapError (LoadFault.notFetched url)
  let text := Reply.text bytes
  (Json.read text).mapError (LoadFault.badReply url text)

/-- The decoded value of a source. -/
def decodeSource (t : FileTree) (fetch : String → Reply) (source : String) :
    Except LoadFault Sample :=
  match SourceKind.of source with
  | .url => fetched source (fetch source)
  | _ => do
    let text ← readText t (.ofText source)
    decodeFile source text

/-- The specification of a source, read from a file tree or fetched. -/
def Specification.load (t : FileTree) (fetch : String → Reply) (source : String) :
    Except LoadFault Specification := do
  let v ← decodeSource t fetch source
  (Specification.parse v).mapError .badSpecification

end MockScaffold
