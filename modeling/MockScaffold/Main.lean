import MockScaffold.CommandLine.Run

/-!
# The command

The only module with effects.  It looks at the places that a run can touch, lets the run work on that
picture of the file system, and then makes the changes.  There is no way to the web from here, so an
address as source is refused.
-/

namespace MockScaffold.CommandLine

/-- What is at a place of the file system; what is there and cannot be read as a file counts as a
directory. -/
def look (place : Place) : IO (Option FileEntry) := do
  try
    let content ← IO.FS.readBinFile (String.ofList ('/' :: List.intercalate ['/'] place))
    return some (.file content.toList)
  catch
    | .noFileOrDirectory .. => return none
    | _ => return some .directory

/-- The places that a path passes, given as text, and the one where it leads. -/
def placesOf (workingDirectory : Place) (cs : List Char) : List Place :=
  let names := cs.splitOn '/'
  let start := if cs.head? = some '/' then [] else workingDirectory
  (List.range (names.length + 1)).map fun n => walk start (names.take n)

/-- The places that a run can touch. -/
def placesTouched (environment : String → Option String) (workingDirectory : Place)
    (arguments : List String) : List Place :=
  match Arguments.ofList arguments with
  | .error _ => []
  | .ok a =>
    let values := a.operands ++ (a.settings ++ standIns environment a.settings).map (·.2)
    (values.flatMap fun v => placesOf workingDirectory v.toList).eraseDups

/-- The part of the file system that a run can touch. -/
def snapshot (workingDirectory : Place) (places : List Place) : IO FileTree := do
  let above := (List.range workingDirectory.length).map fun n =>
    (workingDirectory.take (n + 1), FileEntry.directory)
  let found ← (places.filter (· ≠ [])).filterMapM fun p => return (← look p).map (p, ·)
  return ⟨workingDirectory, above ++ found⟩

/-- Makes the changes from one tree to another. -/
def applyChanges (before after : FileTree) : IO Unit := do
  for (place, e) in after.entries do
    if before.entry? place ≠ some e then
      let path := String.ofList ('/' :: List.intercalate ['/'] place)
      match e with
      | .directory => IO.FS.createDirAll path
      | .file content => IO.FS.writeBinFile path ⟨content.toArray⟩

/-- Runs the command. -/
def perform (arguments : List String) : IO UInt32 := do
  let names := Setting.all.map Setting.environmentName
  let values ← names.mapM fun name => IO.getEnv name
  let environment := fun name => ((names.zip values).lookup name).join
  let workingDirectory := walkText [] (toString (← IO.currentDir)).toList
  let tree ← snapshot workingDirectory (placesTouched environment workingDirectory arguments)
  let outcome := run environment (fun _ => .refused "no network") tree arguments
  applyChanges tree outcome.tree
  IO.print outcome.output
  IO.eprint outcome.ending.report
  match outcome.ending.unreported? with
  | some message => IO.eprintln message
  | none => pure ()
  return outcome.ending.exitCode.toUInt32

end MockScaffold.CommandLine

def main (arguments : List String) : IO UInt32 := MockScaffold.CommandLine.perform arguments
