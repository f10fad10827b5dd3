import MockScaffold.Text.Alphanumeric

/-!
# Route patterns

A path may hold placeholders: a name, that is a run of word characters, between braces.  In a route
pattern a parameter is written as a colon and its name.  Braces around anything else are ordinary
characters, and stay.
-/

namespace MockScaffold.Route

/-- The name that starts a text and is closed by a brace, and what follows that brace. -/
def closedName? (cs : List Char) : Option (List Char × List Char) :=
  match cs.takeWhile Text.isWordChar, cs.dropWhile Text.isWordChar with
  | [], _ => none
  | c :: name, '}' :: rest => some (c :: name, rest)
  | _, _ => none

/-- What follows a closed name is shorter than the text. -/
theorem length_of_closedName? {cs name rest : List Char} (h : closedName? cs = some (name, rest)) :
    rest.length < cs.length := by
  have hsplit : cs.takeWhile Text.isWordChar ++ cs.dropWhile Text.isWordChar = cs :=
    List.takeWhile_append_dropWhile
  unfold closedName? at h
  split at h
  · cases h
  · next c name' rest' _ hdrop =>
    cases h
    rw [← hsplit, hdrop, List.length_append, List.length_cons]
    omega
  · cases h

/-- The path with every placeholder written as a parameter. -/
def pattern : List Char → List Char
  | [] => []
  | c :: cs =>
    if c = '{' then
      match _h : closedName? cs with
      | some (name, rest) => ':' :: name ++ pattern rest
      | none => c :: pattern cs
    else c :: pattern cs
termination_by cs => cs.length
decreasing_by
  · have := length_of_closedName? _h
    simp only [List.length_cons]
    omega
  · simp
  · simp

/-- The route pattern of a path. -/
def ofPath (path : String) : String := String.ofList (pattern path.toList)

/-- Whether a path may have parameters: it holds an opening brace or a colon. -/
def hasParameters (path : String) : Bool := path.toList.any fun c => c == '{' || c == ':'

/-- One character inside a single-quoted literal. -/
def escapeChar (c : Char) : List Char := if c = '\\' || c = '\'' then ['\\', c] else [c]

/-- A text as a single-quoted literal: quotes and backslashes are escaped. -/
def literal (s : String) : String :=
  String.ofList ('\'' :: s.toList.flatMap escapeChar ++ ['\''])

end MockScaffold.Route
