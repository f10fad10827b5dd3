import MockScaffold.Files.Path
import MockScaffold.Text.Case

/-!
# Kinds of sources

A specification comes from a web address or from a file.  An address is told by how it starts, and
what it serves is JSON.  A file holds YAML if its suffix says so, in whatever case, and JSON
otherwise.
-/

namespace MockScaffold

/-- How a source is to be read. -/
inductive SourceKind where
  | url
  | yaml
  | json
  deriving DecidableEq, Repr

namespace SourceKind

def urlStarts : List (List Char) := ["http://".toList, "https://".toList]

def yamlSuffixes : List String := [".yaml", ".yml"]

/-- The kind of a source, by its name. -/
def of (source : String) : SourceKind :=
  if urlStarts.any fun start => start.isPrefixOf source.toList then .url
  else if yamlSuffixes.contains (Text.lower (FilePath.ofText source).suffix) then .yaml
  else .json

end SourceKind

end MockScaffold
