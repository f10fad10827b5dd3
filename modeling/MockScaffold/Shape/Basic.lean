/-!
# Shapes

A shape is what a sample tells about the type of a value: the kinds of its scalars, the fields of
its mappings in order, and the element shape of its lists.  An object also carries the depth at
which it is laid out.  That depth is layout only: `Shape.same` does not see it.
-/

namespace MockScaffold

/-- The inferred type of a value. -/
inductive Shape where
  | null
  | string
  | number
  | boolean
  /-- Anything. -/
  | unknown
  /-- A mapping of which no field is known. -/
  | record
  | array (item : Shape)
  | object (depth : Int) (fields : List (String × Shape))
  | union (members : List Shape)

namespace Shape

def isObject : Shape → Bool
  | .object _ _ => true
  | _ => false

def isUnknown : Shape → Bool
  | .unknown => true
  | _ => false

mutual

/-- Equality of structure: fields and members count in their order, depths do not. -/
def same : Shape → Shape → Bool
  | .null, .null => true
  | .string, .string => true
  | .number, .number => true
  | .boolean, .boolean => true
  | .unknown, .unknown => true
  | .record, .record => true
  | .array a, .array b => same a b
  | .object _ fs, .object _ gs => sameFields fs gs
  | .union as, .union bs => sameMembers as bs
  | _, _ => false

def sameMembers : List Shape → List Shape → Bool
  | [], [] => true
  | a :: as, b :: bs => same a b && sameMembers as bs
  | _, _ => false

def sameFields : List (String × Shape) → List (String × Shape) → Bool
  | [], [] => true
  | (m, a) :: fs, (n, b) :: gs => m == n && same a b && sameFields fs gs
  | _, _ => false

end

end Shape

end MockScaffold
