import MockScaffold.Naming
import MockScaffold.Shape.Inference
import MockScaffold.Spec.Endpoint

/-!
# Tables of named types

Types are named after paths, so two endpoints may derive one name.  A table keeps one shape for each
name, in the order in which the names came up; which shape, its policy says.  A name keeps its place
under both policies.
-/

namespace MockScaffold

/-- Which of the shapes that are registered under one name stays. -/
inductive CollisionPolicy where
  | firstWins
  | lastWins
  deriving DecidableEq, Repr

/-- Shapes by name, in the order of first registration. -/
structure TypeTable where
  policy : CollisionPolicy
  entries : List (String × Shape)

/-- Puts a shape under a name, at the place where the name stands if it does. -/
def setShape (name : String) (s : Shape) : List (String × Shape) → List (String × Shape)
  | [] => [(name, s)]
  | (n, t) :: rest => if n = name then (n, s) :: rest else (n, t) :: setShape name s rest

namespace TypeTable

def empty (policy : CollisionPolicy) : TypeTable := ⟨policy, []⟩

def names (t : TypeTable) : List String := t.entries.map (·.1)

def contains (t : TypeTable) (name : String) : Bool := t.names.contains name

def get? (t : TypeTable) (name : String) : Option Shape := t.entries.lookup name

def size (t : TypeTable) : Nat := t.entries.length

/-- Whether a shape for this name would be kept. -/
def accepts (t : TypeTable) (name : String) : Bool :=
  !(t.contains name && t.policy == .firstWins)

/-- Adds a shape under a name, unless the policy keeps the one that is there. -/
def register (t : TypeTable) (name : String) (s : Shape) : TypeTable :=
  if t.accepts name then { t with entries := setShape name s t.entries } else t

/-- A registration as an action on a table, which answers whether the shape is kept. -/
def offer (name : String) (s : Shape) : StateM TypeTable Bool :=
  modifyGet fun t => (t.accepts name, t.register name s)

/-- Adds shapes one after the other. -/
def registerAll (t : TypeTable) (types : List (String × Shape)) : TypeTable :=
  types.foldl (fun t e => t.register e.1 e.2) t

end TypeTable

namespace Endpoint

/-- The types that an endpoint names: that of its request body, if it has a type, and that of its
response. -/
def namedTypes (strategy : ArrayStrategy) (e : Endpoint) :
    Except DigitOverflow (List (String × Shape)) := do
  let response (v : Sample) : Except DigitOverflow (String × Shape) :=
    (Shape.infer? strategy 0 v).map fun s => (Naming.responseName e.path, s)
  if e.hasTypedBody then
    let s ← Shape.infer? strategy 0 e.requestBody
    let answer ← response e.response
    return [(Naming.requestName e.path, s), answer]
  else
    let answer ← response e.response
    return [answer]

end Endpoint

/-- The types that endpoints name, one endpoint after the other. -/
def namedTypes (strategy : ArrayStrategy) (endpoints : List Endpoint) :
    Except DigitOverflow (List (String × Shape)) :=
  (endpoints.mapM (Endpoint.namedTypes strategy)).map List.flatten

/-- The table of the types that endpoints name. -/
def TypeTable.ofEndpoints (policy : CollisionPolicy) (strategy : ArrayStrategy)
    (endpoints : List Endpoint) : Except DigitOverflow TypeTable :=
  (namedTypes strategy endpoints).map (TypeTable.empty policy).registerAll

end MockScaffold
