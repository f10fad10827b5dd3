import MockScaffold.Files.Fault
import MockScaffold.Json.Reader
import MockScaffold.Source.Reply
import MockScaffold.Spec.Reading
import MockScaffold.Text.Utf8
import MockScaffold.Yaml.Fault

/-!
# Why a specification is not loaded

Most faults are *reported*: what is wrong is told together with the source.  A few are not foreseen
and reach the caller as they are: a path that no file can have, an integer of JSON that is too long,
and YAML that is in form but has no value.
-/

namespace MockScaffold

/-- Why a specification is not loaded. -/
inductive LoadFault where
  | notFound (path : FilePath)
  | unreadable (path : FilePath) (cause : FileFault)
  | notUtf8 (path : FilePath) (cause : Text.Utf8.Fault)
  | notFetched (url : String) (cause : FetchFault)
  /-- A body that is no JSON; the text of the body is kept. -/
  | badReply (url text : String) (cause : Json.Failure)
  | badJson (source : String) (problem : Json.Problem) (line : Nat)
  | badYaml (source : String) (cause : Yaml.Malformed)
  | badSpecification (cause : Specification.Fault)
  | nullByte
  | longInteger (cause : DigitOverflow)
  /-- YAML that is in form but has no value, for the most part because of a scalar. -/
  | badScalar (cause : Yaml.ValueFault)
  deriving DecidableEq

namespace LoadFault

/-- Whether the fault is told together with the source. -/
def isReported : LoadFault → Bool
  | .nullByte | .longInteger _ | .badScalar _ => false
  | _ => true

/-- The message without what a reader of YAML has to say. -/
def summary : LoadFault → String
  | .notFound path => "Specification file not found: " ++ path.text
  | .unreadable path cause => s!"Failed to read {path.text}: {cause.message}"
  | .notUtf8 path cause => s!"Failed to read {path.text}: {cause.message}"
  | .notFetched url cause => s!"Failed to fetch {url}: {cause.message}"
  | .badReply url text cause =>
    s!"Response from {url} is not valid JSON: {cause.locatedMessage text}"
  | .badJson source problem line => s!"Invalid JSON in {source}: {problem.message} (line {line})"
  | .badYaml source _ => "Invalid YAML in " ++ source
  | .badSpecification cause => cause.message
  | .nullByte => FileFault.nullByte.message
  | .longInteger cause => cause.message
  | .badScalar cause => cause.message

/-- The whole message. -/
def message (f : LoadFault) : String :=
  match f with
  | .badYaml _ cause => f.summary ++ ": " ++ cause.message
  | _ => f.summary

end LoadFault

end MockScaffold
