/-!
# Paths of files

A path is a list of names and the place where it starts: the working directory or the root.  Empty
names and the name `.` mean nothing and are dropped when a path is read; the name `..` is kept,
since what it means depends on the directories that are there.  Exactly two slashes at the start are
kept apart from one, although both mean the root.

*Walking* names from a directory does give `..` its meaning, that of the directory above, without a
look at what is there.
-/

namespace MockScaffold

/-- Where a path starts. -/
inductive Anchor where
  | workingDirectory
  | root
  /-- The root, written with two slashes. -/
  | doubleRoot
  deriving DecidableEq, Repr

def Anchor.text : Anchor → List Char
  | .workingDirectory => []
  | .root => ['/']
  | .doubleRoot => ['/', '/']

/-- Whether characters are a name of a path: not empty, not `.`, and without slash. -/
def isName (name : List Char) : Bool := name ≠ [] && name ≠ ['.'] && !name.contains '/'

/-- The path of a file or directory. -/
structure FilePath where
  anchor : Anchor
  names : List (List Char)
  areNames : ∀ name ∈ names, isName name = true
  deriving DecidableEq

namespace FilePath

/-- The anchor that the leading slashes of a text stand for. -/
def anchorOf (cs : List Char) : Anchor :=
  match (cs.takeWhile (· == '/')).length with
  | 0 => .workingDirectory
  | 2 => .doubleRoot
  | _ => .root

/-- Reads a path. -/
def ofText (s : String) : FilePath where
  anchor := anchorOf s.toList
  names := (s.toList.splitOn '/').filter isName
  areNames := fun _ h => (List.mem_filter.mp h).2

/-- The characters of a path; the path of the working directory itself is a point. -/
def chars (p : FilePath) : List Char :=
  match p.anchor.text ++ List.intercalate ['/'] p.names with
  | [] => ['.']
  | cs => cs

/-- The text of a path. -/
def text (p : FilePath) : String := String.ofList p.chars

/-- The path without its last name. -/
def parent (p : FilePath) : FilePath where
  anchor := p.anchor
  names := p.names.dropLast
  areNames := fun name h => p.areNames name (List.dropLast_subset _ h)

/-- The part of a name from its last point on, unless the point is the first or the last character
of the name. -/
def suffixOf (name : List Char) : List Char :=
  let reversed := name.reverse
  let ending := reversed.takeWhile (· ≠ '.')
  if ending ≠ [] ∧ ending.length + 1 < name.length then '.' :: ending.reverse else []

/-- The suffix of the last name. -/
def suffix (p : FilePath) : String :=
  String.ofList ((p.names.getLast?.map suffixOf).getD [])

end FilePath

/-- The directory that one name leads to. -/
def walkName (directory : List (List Char)) (name : List Char) : List (List Char) :=
  if name = [] ∨ name = ['.'] then directory
  else if name = ['.', '.'] then directory.dropLast
  else directory ++ [name]

/-- The directory that names lead to, one after the other. -/
def walk (directory names : List (List Char)) : List (List Char) := names.foldl walkName directory

/-- The names, from the root on, that a text leads to. -/
def walkText (workingDirectory : List (List Char)) (cs : List Char) : List (List Char) :=
  walk (if cs.head? = some '/' then [] else workingDirectory) (cs.splitOn '/')

end MockScaffold
