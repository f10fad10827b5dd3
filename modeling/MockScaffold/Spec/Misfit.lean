/-!
# Misfits

Decoded values are checked against the records they are to become.  A *misfit* is one thing that
is wrong with them, and where: the location leads from the outermost value through the names of
fields and the indices of list items.  Checking goes on after a misfit, so a failed check tells all
of them, in the order of the fields and items, and at least one.
-/

namespace MockScaffold

/-- The records that values are checked against. -/
inductive RecordKind where
  | endpoint
  | specification
  | config
  deriving DecidableEq, Repr

def RecordKind.name : RecordKind → String
  | .endpoint => "Endpoint"
  | .specification => "ApiSpec"
  | .config => "GeneratorConfig"

/-- What can be wrong with a value. -/
inductive Misfit where
  | missing
  | notText
  /-- Bytes in place of a text, and not in UTF-8. -/
  | notUtf8
  | notList
  | notRecord (kind : RecordKind)
  | notInteger
  | fractional
  | notFinite
  | notIntegerText
  /-- A number too large for an integer of its source. -/
  | oversized
  | notPath
  | notPolicy
  | notStrategy
  | notNumber
  | notNumberText
  deriving DecidableEq, Repr

def Misfit.message : Misfit → String
  | .missing => "Field required"
  | .notText => "Input should be a valid string"
  | .notUtf8 => "Input should be a valid string, unable to parse raw data as a unicode string"
  | .notList => "Input should be a valid list"
  | .notRecord kind => s!"Input should be a valid dictionary or instance of {kind.name}"
  | .notInteger => "Input should be a valid integer"
  | .fractional => "Input should be a valid integer, got a number with a fractional part"
  | .notFinite => "Input should be a finite number"
  | .notIntegerText => "Input should be a valid integer, unable to parse string as an integer"
  | .oversized => "Unable to parse input string as an integer, exceeded maximum size"
  | .notPath => "Input is not a valid path for <class 'pathlib.Path'>"
  | .notPolicy => "Input should be 'first_wins' or 'last_wins'"
  | .notStrategy => "Input should be 'first_element' or 'union'"
  | .notNumber => "Input should be a valid number"
  | .notNumberText => "Input should be a valid number, unable to parse string as a number"

/-- One step from a value to a part of it. -/
inductive Step where
  | field (name : String)
  | index (i : Nat)
  deriving DecidableEq, Repr

def Step.text : Step → String
  | .field name => name
  | .index i => toString i

/-- A misfit and where it is. -/
structure LocatedMisfit where
  location : List Step
  misfit : Misfit
  deriving DecidableEq, Repr

/-- The steps, joined by points, and what is wrong there. -/
def LocatedMisfit.message (m : LocatedMisfit) : String :=
  ".".intercalate (m.location.map Step.text) ++ ": " ++ m.misfit.message

/-- Everything that is wrong with a value, which is one thing at least. -/
structure Misfits where
  first : LocatedMisfit
  others : List LocatedMisfit
  deriving DecidableEq, Repr

namespace Misfits

def single (location : List Step) (m : Misfit) : Misfits := ⟨⟨location, m⟩, []⟩

def toList (ms : Misfits) : List LocatedMisfit := ms.first :: ms.others

def append (ms ns : Misfits) : Misfits := ⟨ms.first, ms.others ++ ns.toList⟩

def message (ms : Misfits) : String := "; ".intercalate (ms.toList.map LocatedMisfit.message)

@[simp] theorem toList_append (ms ns : Misfits) :
    (ms.append ns).toList = ms.toList ++ ns.toList := rfl

/-- Two checks, of which the misfits are put together. -/
def both {α β : Type} : Except Misfits α → Except Misfits β → Except Misfits (α × β)
  | .ok a, .ok b => .ok (a, b)
  | .error ms, .ok _ => .error ms
  | .ok _, .error ns => .error ns
  | .error ms, .error ns => .error (ms.append ns)

/-- Checks the items of a list, the first of which has index `i`. -/
def eachFrom {α β : Type} (check : Nat → α → Except Misfits β) (i : Nat) :
    List α → Except Misfits (List β)
  | [] => .ok []
  | a :: rest =>
    (both (check i a) (eachFrom check (i + 1) rest)).map fun (b, bs) => b :: bs

end Misfits

end MockScaffold
