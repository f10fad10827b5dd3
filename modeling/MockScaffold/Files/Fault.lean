import MockScaffold.Files.Path
import MockScaffold.Text.Quoted

/-!
# What can go wrong with files
-/

namespace MockScaffold

/-- Why the file system refuses an operation. -/
inductive FileProblem where
  | notFound
  | alreadyExists
  | notDirectory
  | isDirectory
  | nameTooLong
  deriving DecidableEq, Repr

namespace FileProblem

/-- The number by which the system tells the problem. -/
def number : FileProblem → Nat
  | .notFound => 2
  | .alreadyExists => 17
  | .notDirectory => 20
  | .isDirectory => 21
  | .nameTooLong => 36

def text : FileProblem → String
  | .notFound => "No such file or directory"
  | .alreadyExists => "File exists"
  | .notDirectory => "Not a directory"
  | .isDirectory => "Is a directory"
  | .nameTooLong => "File name too long"

end FileProblem

/-- Why an operation on a path failed. -/
inductive FileFault where
  | refused (problem : FileProblem) (path : FilePath)
  /-- The path holds a null character, with which no operation is tried. -/
  | nullByte
  deriving DecidableEq

def FileFault.message : FileFault → String
  | .refused problem path =>
    s!"[Errno {problem.number}] {problem.text}: {Text.quoted path.text}"
  | .nullByte => "embedded null byte"

end MockScaffold
