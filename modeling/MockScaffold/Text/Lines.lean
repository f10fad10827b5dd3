/-!
# Lines

A text that was written elsewhere may end its lines with a line feed, a carriage return or both;
once read, a line feed ends each of them.  Positions in a text are told as a line and a column,
both counted from one.
-/

namespace MockScaffold.Text

/-- Every end of line as a single line feed. -/
def unifyLines : List Char → List Char
  | [] => []
  | '\r' :: '\n' :: rest => '\n' :: unifyLines rest
  | '\r' :: rest => '\n' :: unifyLines rest
  | c :: rest => c :: unifyLines rest

/-- The line of the position that follows `before`, the first line being 1. -/
def lineAfter (before : List Char) : Nat := before.count '\n' + 1

/-- The column of the position that follows `before`, the first column being 1. -/
def columnAfter (before : List Char) : Nat :=
  (before.reverse.takeWhile (· ≠ '\n')).length + 1

/-- The text with `indent` put after every line feed. -/
def indentLines (indent : String) (s : String) : String :=
  String.ofList (s.toList.flatMap fun c => if c = '\n' then '\n' :: indent.toList else [c])

end MockScaffold.Text
