import MockScaffold.Spec.Endpoint
import MockScaffold.Spec.StatusCode
import MockScaffold.Text.Case

/-!
# Reading specifications

A decoded value becomes a specification if it is a mapping with a list under `apis`, each item of
which is a mapping with the fields of an endpoint; other fields are passed over.  Two fields go by
two names, of which the first counts where both are given.  The samples are taken as they are.
-/

namespace MockScaffold

/-- Reads a text, also one given as bytes. -/
def textOf : Sample → Except Misfit String
  | .scalar (.text s) => .ok s
  | .scalar (.bytes b) =>
    match Text.Utf8.decode b with
    | .ok s => .ok s
    | .error _ => .error .notUtf8
  | _ => .error .notText

namespace Sample

/-- The first of the names under which a mapping has a field, with the field. -/
def firstField? (v : Sample) (names : List String) : Option (String × Sample) :=
  names.findSome? fun name => (v.field? name).map (name, ·)

end Sample

/-- Reads the field that goes by one of the names, the first of which is told if there is none. -/
def readField {α : Type} (location : List Step) (v : Sample) (name : String) (names : List String)
    (absent : Except Misfit α) (read : Sample → Except Misfit α) : Except Misfits α :=
  match v.firstField? (name :: names) with
  | none => absent.mapError (Misfits.single (location ++ [.field name]))
  | some (found, w) => (read w).mapError (Misfits.single (location ++ [.field found]))

open Misfits in
/-- Reads an endpoint from the value at a location. -/
def Endpoint.ofSample (location : List Step) (v : Sample) : Except Misfits Endpoint :=
  match v with
  | .map _ =>
    let method := readField location v "method" [] (.error .missing) fun w =>
      (textOf w).map Text.upper
    let path := readField location v "path" [] (.error .missing) textOf
    let requestBody := readField location v "requestBody" ["request_body"] (.ok .null) .ok
    let response := readField location v "response" [] (.error .missing) .ok
    let statusCode := readField location v "statusCode" ["status_code"] (.ok 200)
      StatusCode.ofSample
    (both method <| both path <| both requestBody <| both response statusCode).map
      fun (method, path, requestBody, response, statusCode) =>
        ⟨method, path, requestBody, response, statusCode⟩
  | _ => .error (.single location (.notRecord .endpoint))

namespace Specification

/-- The items of a value that can stand for a list. -/
def items? : Sample → Option (List Sample)
  | .list items => some items
  | .set members => some (members.map .scalar)
  | _ => none

/-- Reads a specification and tells everything that is wrong with it. -/
def ofSample (v : Sample) : Except Misfits Specification :=
  match v with
  | .map _ =>
    match v.field? "apis" with
    | none => .error (.single [.field "apis"] .missing)
    | some apis =>
      match items? apis with
      | none => .error (.single [.field "apis"] .notList)
      | some items =>
        (Misfits.eachFrom (fun i => Endpoint.ofSample [.field "apis", .index i]) 0 items).map
          Specification.mk
  | _ => .error (.single [] (.notRecord .specification))

/-- Why a decoded value is no specification. -/
inductive Fault where
  /-- It is no mapping with a list under `apis`. -/
  | format
  /-- The first misfit. -/
  | invalid (m : LocatedMisfit)
  deriving DecidableEq, Repr

def Fault.message : Fault → String
  | .format => "Invalid API specification format. Expected \x7b \"apis\": [...] \x7d"
  | .invalid m => "Invalid API specification: " ++ m.message

/-- Reads a specification and tells the first thing that is wrong with it. -/
def parse (v : Sample) : Except Fault Specification :=
  match v.field? "apis" with
  | some (.list _) => (ofSample v).mapError fun ms => .invalid ms.first
  | _ => .error .format

end Specification

end MockScaffold
