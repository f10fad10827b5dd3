import MockScaffold.Files.Fault
import MockScaffold.Text.Utf8

/-!
# Trees of files

A file tree holds directories and files at their *places*, the lists of names that lead to them
from the root.  The root is always a directory.  Following a path looks at every place on the way,
so that `..` after a name that is not there, or not a directory, fails.

Operations that can fail half-way give the tree they leave beside their result.
-/

namespace MockScaffold

/-- The names that lead from the root to a file or directory. -/
abbrev Place := List (List Char)

/-- What is at a place. -/
inductive FileEntry where
  | directory
  | file (content : List UInt8)
  deriving DecidableEq

/-- Directories and files, and the directory where relative paths start. -/
structure FileTree where
  workingDirectory : Place
  entries : List (Place × FileEntry)

/-- Puts an entry at a place, where one may be already. -/
def setEntry (place : Place) (e : FileEntry) : List (Place × FileEntry) → List (Place × FileEntry)
  | [] => [(place, e)]
  | (p, f) :: rest => if p = place then (p, e) :: rest else (p, f) :: setEntry place e rest

namespace FileTree

/-- What is at a place. -/
def entry? (t : FileTree) (place : Place) : Option FileEntry :=
  if place = [] then some .directory else t.entries.lookup place

/-- The tree with an entry put at a place. -/
def set (t : FileTree) (place : Place) (e : FileEntry) : FileTree :=
  { t with entries := setEntry place e t.entries }

/-- The most bytes that a name may have. -/
def nameLimit : Nat := 255

/-- The most bytes that a path may have. -/
def pathLimit : Nat := 4095

/-- The number of bytes of a text. -/
def byteLength (cs : List Char) : Nat := cs.foldl (fun n c => n + c.utf8Size) 0

/-- Follows names from a place.  Nothing need be at the place where the last one leads. -/
def follow (t : FileTree) (place : Place) : List (List Char) → Except FileProblem Place
  | [] => .ok place
  | name :: rest =>
    match t.entry? place with
    | none => .error .notFound
    | some (.file _) => .error .notDirectory
    | some .directory =>
      if nameLimit < byteLength name then .error .nameTooLong
      else t.follow (walkName place name) rest

/-- The place where a path leads, given as text. -/
def locate (t : FileTree) (cs : List Char) : Except FileProblem Place :=
  if cs = [] then .error .notFound
  else if pathLimit < byteLength cs then .error .nameTooLong
  else t.follow (if cs.head? = some '/' then [] else t.workingDirectory) (cs.splitOn '/')

/-- What a path leads to, given as text; `none` also where it leads nowhere. -/
def entryAt? (t : FileTree) (cs : List Char) : Option FileEntry :=
  match t.locate cs with
  | .ok place => t.entry? place
  | .error _ => none

/-- The place where a path leads. -/
def locatePath (t : FileTree) (p : FilePath) : Except FileFault Place :=
  if p.chars.contains '\x00' then .error .nullByte
  else (t.locate p.chars).mapError (.refused · p)

/-- The content of a file. -/
def read (t : FileTree) (p : FilePath) : Except FileFault (List UInt8) := do
  let place ← t.locatePath p
  match t.entry? place with
  | none => .error (.refused .notFound p)
  | some .directory => .error (.refused .isDirectory p)
  | some (.file content) => .ok content

/-- The tree with a file written, in place of the one that may be there. -/
def write (t : FileTree) (p : FilePath) (content : List UInt8) : Except FileFault FileTree := do
  let place ← t.locatePath p
  match t.entry? place with
  | some .directory => .error (.refused .isDirectory p)
  | _ => .ok (t.set place (.file content))

/-- The tree with a new directory. -/
def makeDirectory (t : FileTree) (p : FilePath) : Except FileFault FileTree := do
  let place ← t.locatePath p
  match t.entry? place with
  | some _ => .error (.refused .alreadyExists p)
  | none => .ok (t.set place .directory)

/-- Makes a directory, unless it is there.  The directory above it has to be there. -/
def haveDirectory (t : FileTree) (p : FilePath) : FileTree × Option FileFault :=
  match t.makeDirectory p with
  | .ok t' => (t', none)
  | .error f => (t, if t.entryAt? p.chars = some .directory then none else some f)

/-- Makes a directory, unless it is there, and before it those above it that are missing. -/
def haveDirectories (t : FileTree) (p : FilePath) : FileTree × Option FileFault :=
  match t.makeDirectory p with
  | .error (.refused .notFound _) =>
    if _h : p.names = [] then t.haveDirectory p
    else
      match t.haveDirectories p.parent with
      | (t', none) => t'.haveDirectory p
      | (t', some f) => (t', some f)
  | _ => t.haveDirectory p
termination_by p.names.length
decreasing_by
  have : 0 < p.names.length := List.length_pos_iff.mpr _h
  simp only [FilePath.parent, List.length_dropLast]
  omega

/-- Writes texts to files, one after the other, with the directories they need.  Gives the paths
written, or the first fault. -/
def writeTexts (t : FileTree) : List (FilePath × String) → FileTree × Except FileFault (List FilePath)
  | [] => (t, .ok [])
  | (p, s) :: rest =>
    match t.haveDirectories p.parent with
    | (t', some f) => (t', .error f)
    | (t', none) =>
      match t'.write p (Text.Utf8.encode s) with
      | .error f => (t', .error f)
      | .ok t'' =>
        let (u, written) := t''.writeTexts rest
        (u, written.map (p :: ·))

end FileTree

end MockScaffold
