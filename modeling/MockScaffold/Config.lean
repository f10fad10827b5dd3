import MockScaffold.Files.Path
import MockScaffold.Spec.Reading
import MockScaffold.TypeTable

/-!
# Configuration

Where the two modules go, and the choices that generation leaves open.  A configuration is checked
like a specification; every field has a default, and other fields are passed over.
-/

namespace MockScaffold

namespace CollisionPolicy

def all : List CollisionPolicy := [.firstWins, .lastWins]

def name : CollisionPolicy → String
  | .firstWins => "first_wins"
  | .lastWins => "last_wins"

def ofName? (s : String) : Option CollisionPolicy := all.find? fun p => p.name == s

end CollisionPolicy

namespace ArrayStrategy

def all : List ArrayStrategy := [.firstElement, .union]

def name : ArrayStrategy → String
  | .firstElement => "first_element"
  | .union => "union"

def ofName? (s : String) : Option ArrayStrategy := all.find? fun a => a.name == s

end ArrayStrategy

/-- A configuration. -/
structure Config where
  mocksPath : FilePath
  typesPath : FilePath
  collisionPolicy : CollisionPolicy
  arrayStrategy : ArrayStrategy
  /-- How many seconds to wait for a specification that is fetched; without one, for ever. -/
  timeout : Option Double

namespace Config

def defaultMocksPath : FilePath := .ofText "frontend/src/mocks/handlers.ts"

def defaultTypesPath : FilePath := .ofText "frontend/src/api.d.ts"

/-- Reads a path. -/
def pathOf : Sample → Except Misfit FilePath
  | .scalar (.text s) => .ok (.ofText s)
  | _ => .error .notPath

/-- Reads one of a few names. -/
def choiceOf {α : Type} (ofName? : String → Option α) (m : Misfit) (v : Sample) : Except Misfit α :=
  match textOf v with
  | .error _ => .error m
  | .ok s => (ofName? s).elim (.error m) .ok

/-- Removes underscores; none may stand at an end or beside another one. -/
def dropUnderscores? (cs : List Char) : Option (List Char) :=
  if (cs.splitOn '_').any List.isEmpty then none else some (cs.filter (· ≠ '_'))

/-- Reads a number from text, with white space around it or with underscores in it. -/
def numberOfText (s : String) : Except Misfit Double :=
  match Double.read? (Text.trim Text.isWhiteSpace s.toList) with
  | some x => .ok x
  | none => ((dropUnderscores? s.toList).bind Double.read?).elim (.error .notNumberText) .ok

/-- Reads a number, or nothing. -/
def timeoutOf : Sample → Except Misfit (Option Double)
  | .scalar .null => .ok none
  | .scalar (.bool b) => .ok (some (Double.ofInt (if b then 1 else 0)))
  | .scalar (.int n) =>
    let x := Double.ofInt n
    if x.isFinite then .ok (some x) else .error .notNumber
  | .scalar (.float x) => .ok (some x)
  | .scalar (.text s) => (numberOfText s).map some
  | .scalar (.bytes b) =>
    match Text.Utf8.decode b with
    | .ok s => (numberOfText s).map some
    | .error _ => .error .notNumberText
  | _ => .error .notNumber

open Misfits in
/-- Reads a configuration. -/
def ofSample (v : Sample) : Except Misfits Config :=
  match v with
  | .map _ =>
    let mocksPath := readField [] v "mocks_path" [] (.ok defaultMocksPath) pathOf
    let typesPath := readField [] v "types_path" [] (.ok defaultTypesPath) pathOf
    let policy := readField [] v "collision_policy" [] (.ok .firstWins)
      (choiceOf CollisionPolicy.ofName? .notPolicy)
    let strategy := readField [] v "array_strategy" [] (.ok .firstElement)
      (choiceOf ArrayStrategy.ofName? .notStrategy)
    let timeout := readField [] v "timeout" [] (.ok none) timeoutOf
    (both mocksPath <| both typesPath <| both policy <| both strategy timeout).map
      fun (mocksPath, typesPath, policy, strategy, timeout) =>
        ⟨mocksPath, typesPath, policy, strategy, timeout⟩
  | _ => .error (.single [] (.notRecord .config))

end Config

end MockScaffold
