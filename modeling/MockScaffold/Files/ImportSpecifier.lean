import MockScaffold.Files.Path

/-!
# Import specifiers

One generated module imports from the other by a path relative to its own directory, without the
suffix of the imported file.  Both paths are taken from the root, the names that they share at the
start are dropped, and one `..` for each remaining name of the directory leads up.
-/

namespace MockScaffold

/-- The names that lead from one directory to another place, both given from the root. -/
def namesBetween : List (List Char) → List (List Char) → List (List Char)
  | s :: start, t :: target =>
    if s = t then namesBetween start target
    else List.replicate (start.length + 1) ['.', '.'] ++ t :: target
  | start, target => List.replicate start.length ['.', '.'] ++ target

/-- The suffixes that a specifier lacks; the first that fits is dropped. -/
def moduleSuffixes : List (List Char) := [['.', 'd', '.', 't', 's'], ['.', 't', 's']]

/-- The characters of a path without the suffix of a module. -/
def moduleStem (cs : List Char) : List Char :=
  match moduleSuffixes.find? fun suffix => suffix.isSuffixOf cs with
  | some suffix => cs.take (cs.length - suffix.length)
  | none => cs

/-- Relative names as a specifier.  One that does not start with a point would name a package, and
gets `./` in front. -/
def specifierOfNames (names : List (List Char)) : List Char :=
  match names with
  | [] => ['.']
  | names =>
    let cs := List.intercalate ['/'] names
    if cs.head? = some '.' then cs else '.' :: '/' :: cs

/-- The specifier by which the module at `importer` imports the one at `imported`.  There is none
if nothing but a suffix is left of `imported`. -/
def importSpecifier? (workingDirectory : List (List Char)) (importer imported : FilePath) :
    Option String :=
  match moduleStem imported.chars with
  | [] => none
  | stem =>
    let start := walkText workingDirectory importer.parent.chars
    some (String.ofList (specifierOfNames (namesBetween start (walkText workingDirectory stem))))

end MockScaffold
