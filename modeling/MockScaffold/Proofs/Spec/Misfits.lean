import MockScaffold.Proofs.Outcome
import MockScaffold.Spec.Reading

/-!
# All misfits, in their order

A check that fails tells everything that is wrong.  `Misfits.found` is what a check tells, and it is
put together as checks are: that of two checks is what the one and then the other tells
(`found_both`), that of a list what its items tell one after the other (`found_eachFrom`).

What is wrong with a value does not depend on where it stands, and where it stands only comes before
the locations inside it (`Endpoint.ofSample_eq_mapError`).  So an endpoint is checked alike in a
list and on its own.
-/

namespace MockScaffold

/-- The misfit as it is told from farther outside. -/
def LocatedMisfit.within (location : List Step) (m : LocatedMisfit) : LocatedMisfit :=
  ⟨location ++ m.location, m.misfit⟩

namespace Misfits

variable {α β : Type}

/-- What a check finds wrong. -/
def found : Except Misfits α → List LocatedMisfit
  | .ok _ => []
  | .error ms => ms.toList

/-- Nothing is found just when there is a result. -/
theorem found_eq_nil_iff {x : Except Misfits α} : found x = [] ↔ ∃ a, x = .ok a := by
  cases x <;> simp [found, toList]

/-- What is found first is the first of the misfits. -/
theorem head?_found {x : Except Misfits α} {m : LocatedMisfit} :
    (found x).head? = some m ↔ ∃ ms, x = .error ms ∧ ms.first = m := by
  cases x <;> simp [found, toList]

@[simp] theorem found_map (x : Except Misfits α) (f : α → β) : found (x.map f) = found x := by
  cases x <;> rfl

/-- Two checks tell what the first one tells and then what the second one tells. -/
@[simp] theorem found_both (x : Except Misfits α) (y : Except Misfits β) :
    found (both x y) = found x ++ found y := by
  cases x <;> cases y <;> simp [both, found]

/-- The check of a list tells what the checks of its items tell, one after the other. -/
theorem found_eachFrom (check : Nat → α → Except Misfits β) (i : Nat) (xs : List α) :
    found (eachFrom check i xs) = (xs.zipIdx i).flatMap fun (x, j) => found (check j x) := by
  induction xs generalizing i with
  | nil => rfl
  | cons x xs ih =>
      rw [eachFrom, found_map, found_both, ih, List.zipIdx_cons, List.flatMap_cons]

/-! ## Places -/

/-- The misfits as they are told from farther outside. -/
def within (location : List Step) (ms : Misfits) : Misfits :=
  ⟨ms.first.within location, ms.others.map (·.within location)⟩

theorem toList_within (location : List Step) (ms : Misfits) :
    (ms.within location).toList = ms.toList.map (·.within location) := rfl

/-- Misfits inside of a value are located through it. -/
theorem found_mapError_within (location : List Step) (x : Except Misfits α) :
    found (x.mapError (within location)) = (found x).map (·.within location) := by
  cases x with
  | error ms => exact toList_within location ms
  | ok a => rfl

theorem map_mapError (x : Except Misfits α) (f : α → β) (g : Misfits → Misfits) :
    (x.mapError g).map f = (x.map f).mapError g := by
  cases x <;> rfl

/-- Two checks of one value are located together. -/
theorem both_mapError_within (location : List Step) (x : Except Misfits α) (y : Except Misfits β) :
    both (x.mapError (within location)) (y.mapError (within location)) =
      (both x y).mapError (within location) := by
  cases x <;> cases y <;> simp [both, Except.mapError, within, append, toList]

theorem within_single (location inner : List Step) (m : Misfit) :
    (single inner m).within location = single (location ++ inner) m := rfl

/-- A single misfit is located from the outside in. -/
theorem mapError_single (location inner : List Step) (x : Except Misfit α) :
    x.mapError (single (location ++ inner)) =
      (x.mapError (single inner)).mapError (within location) := by
  cases x <;> rfl

end Misfits

open Misfits

/-- A field is checked in the same way wherever its value is. -/
theorem readField_eq_mapError {α : Type} (location : List Step) (v : Sample) (name : String)
    (names : List String) (absent : Except Misfit α) (read : Sample → Except Misfit α) :
    readField location v name names absent read =
      (readField [] v name names absent read).mapError (within location) := by
  unfold readField
  split <;> exact mapError_single location _ _

/-- An endpoint is checked in the same way wherever it stands. -/
theorem Endpoint.ofSample_eq_mapError (location : List Step) (v : Sample) :
    Endpoint.ofSample location v = (Endpoint.ofSample [] v).mapError (within location) := by
  cases v with
  | map entries =>
      unfold Endpoint.ofSample
      simp only [readField_eq_mapError location, both_mapError_within, map_mapError]
  | _ =>
      change Except.error (single location _) = .error ((single [] _).within location)
      rw [within_single, List.append_nil]

/-- Whether an endpoint is read does not depend on its location. -/
theorem Endpoint.ofSample_eq_ok_iff {location : List Step} {v : Sample} {e : Endpoint} :
    Endpoint.ofSample location v = .ok e ↔ Endpoint.ofSample [] v = .ok e := by
  rw [ofSample_eq_mapError location]
  cases Endpoint.ofSample [] v <;> simp [Except.mapError]

end MockScaffold
