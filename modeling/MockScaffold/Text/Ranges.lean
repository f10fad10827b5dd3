/-!
# Sets of code points

A property of characters that Unicode gives by enumeration is kept as its maximal runs of code
points.  Membership is a scan of the runs; their order does not matter for it.
-/

namespace MockScaffold.Text

/-- A set of code points, as runs with both ends included. -/
structure Ranges where
  runs : List (Nat × Nat)

/-- Membership of a code point. -/
def Ranges.has (r : Ranges) (n : Nat) : Bool :=
  r.runs.any fun run => run.1 ≤ n && n ≤ run.2

end MockScaffold.Text
