import MockScaffold.Sample.Basic
import MockScaffold.Shape.Basic

/-!
# Inferring shapes

A sample is judged by its kinds alone.  A list takes its element shape from its first item or from
all of them; with all of them, each different shape becomes a member of a union, in the order of
first appearance, and a single one stands for itself.  Fields are named as their keys are spelled.
-/

namespace MockScaffold

/-- How the element shape of a list is found. -/
inductive ArrayStrategy where
  | firstElement
  | union
  deriving DecidableEq, Repr

namespace Shape

/-- The shape of a scalar; the kinds that only YAML has are unknown. -/
def ofScalar : Scalar → Shape
  | .null => .null
  | .bool _ => .boolean
  | .int _ => .number
  | .float _ => .number
  | .text _ => .string
  | .bytes _ | .date _ | .moment _ => .unknown

/-- Adds a shape at the end of a list unless one of the same structure is there. -/
def insertNew (members : List Shape) (s : Shape) : List Shape :=
  if members.any fun m => s.same m then members else members ++ [s]

/-- The different shapes of a list, each at its first place. -/
def distinct (shapes : List Shape) : List Shape := shapes.foldl insertNew []

/-- One shape for all: the only different one, or the union. -/
def unite (shapes : List Shape) : Shape :=
  match distinct shapes with
  | [s] => s
  | members => .union members

mutual

/-- The shape of a sample whose outermost object is laid out at a given depth. -/
def infer (strategy : ArrayStrategy) (depth : Int) : Sample → Shape
  | .scalar s => ofScalar s
  | .list [] => .array .unknown
  | .list (v :: rest) =>
    match strategy with
    | .firstElement => .array (infer strategy depth v)
    | .union => .array (unite (infer strategy depth v :: inferItems strategy depth rest))
  | .map [] => .record
  | .map (e :: rest) => .object depth (inferFields strategy (depth + 1) (e :: rest))
  | .set _ => .unknown
  | .pair _ _ => .unknown

/-- The shapes of the items of a list. -/
def inferItems (strategy : ArrayStrategy) (depth : Int) : List Sample → List Shape
  | [] => []
  | v :: rest => infer strategy depth v :: inferItems strategy depth rest

/-- The names and shapes of the entries of a mapping. -/
def inferFields (strategy : ArrayStrategy) (depth : Int) :
    List (Scalar × Sample) → List (String × Shape)
  | [] => []
  | (k, v) :: rest => (k.name, infer strategy depth v) :: inferFields strategy depth rest

end

mutual

/-- Whether inference meets a key that is an integer too long to be written. -/
def meetsOverlongKey (strategy : ArrayStrategy) : Sample → Bool
  | .list [] => false
  | .list (v :: rest) =>
    meetsOverlongKey strategy v || (strategy = .union && itemsMeetOverlongKey strategy rest)
  | .map entries => entriesMeetOverlongKey strategy entries
  | _ => false

def itemsMeetOverlongKey (strategy : ArrayStrategy) : List Sample → Bool
  | [] => false
  | v :: rest => meetsOverlongKey strategy v || itemsMeetOverlongKey strategy rest

def entriesMeetOverlongKey (strategy : ArrayStrategy) : List (Scalar × Sample) → Bool
  | [] => false
  | (k, v) :: rest =>
    k.isOverlong || meetsOverlongKey strategy v || entriesMeetOverlongKey strategy rest

end

/-- The shape of a sample, unless a key of it is too long to become the name of a field. -/
def infer? (strategy : ArrayStrategy) (depth : Int) (v : Sample) : Except DigitOverflow Shape :=
  if meetsOverlongKey strategy v then .error .writing else .ok (infer strategy depth v)

end Shape

end MockScaffold
