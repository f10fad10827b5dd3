import MockScaffold.Proofs.TypeTable.Bindings

/-!
# The two policies

A table is run on registrations, each of which answers whether its shape is kept.  An answer depends
only on the table before it (`getElem?_answers`), so what holds of one registration carries over to
every place of a run.  Where the first shape wins, a name that is there already is refused, and a
refusal changes nothing; where the last shape wins, nothing is refused.

The main statement is `policies_dual`.  The policies agree on the names and their places.  On the
shapes they are mirror images: the last shape of each name is the first one of the reversed run.
-/

namespace MockScaffold.TypeTable

open MocksModule (insertNew mem_foldl_insertNew nodup_foldl_insertNew)

/-- Registrations one after the other, with what they answer. -/
def offerAll (calls : List (String × Shape)) : StateM TypeTable (List Bool) :=
  calls.mapM fun e => offer e.1 e.2

/-- What registrations answer, the first of them on an empty table. -/
def answers (policy : CollisionPolicy) (calls : List (String × Shape)) : List Bool :=
  ((offerAll calls).run (empty policy)).1

/-- The table that registrations make of an empty one. -/
def ofCalls (policy : CollisionPolicy) (calls : List (String × Shape)) : TypeTable :=
  ((offerAll calls).run (empty policy)).2

variable {t : TypeTable} {policy : CollisionPolicy} {calls : List (String × Shape)}

/-! ## Single registrations -/

/-- Where the first type stays, a name is accepted once. -/
theorem accepts_firstWins (ht : t.policy = .firstWins) (name : String) :
    t.accepts name = !t.contains name := by
  simp [accepts, ht]

/-- Where the last type counts, it is always accepted. -/
theorem accepts_lastWins (ht : t.policy = .lastWins) (name : String) : t.accepts name = true := by
  simp [accepts, ht]

/-- Where the first shape wins, a table grows by the shapes that are kept. -/
theorem size_register_firstWins (ht : t.policy = .firstWins) (name : String) (s : Shape) :
    (t.register name s).size = (t.accepts name).toNat + t.size := by
  cases h : t.accepts name with
  | false => rw [register_of_refused h, Bool.toNat_false, Nat.zero_add]
  | true =>
      rw [size, entries_register_of_accepted ht h, List.length_append, Nat.add_comm]
      rfl

/-! ## Runs -/

/-- The first call is answered by the table as it is, and the others by what it has become. -/
theorem run_offerAll_cons (t : TypeTable) (e : String × Shape) (rest : List (String × Shape)) :
    (offerAll (e :: rest)).run t =
      (t.accepts e.1 :: ((offerAll rest).run (t.register e.1 e.2)).1,
        ((offerAll rest).run (t.register e.1 e.2)).2) := by
  rw [offerAll, List.mapM_cons]
  rfl

/-- A run leaves the table that the registrations make, whatever they answer. -/
theorem snd_run_offerAll (t : TypeTable) (calls : List (String × Shape)) :
    ((offerAll calls).run t).2 = t.registerAll calls := by
  induction calls generalizing t with
  | nil => rfl
  | cons e rest ih => rw [run_offerAll_cons, ih, registerAll_cons]

/-- The table of a sequence of calls is that of registering them in turn. -/
theorem ofCalls_eq_registerAll (policy : CollisionPolicy) (calls : List (String × Shape)) :
    ofCalls policy calls = (empty policy).registerAll calls :=
  snd_run_offerAll _ calls

@[simp] theorem policy_ofCalls (policy : CollisionPolicy) (calls : List (String × Shape)) :
    (ofCalls policy calls).policy = policy := by
  rw [ofCalls_eq_registerAll, policy_registerAll]
  rfl

/-- The names are those of the calls in the order of first occurrence, under either policy. -/
theorem names_ofCalls (policy : CollisionPolicy) (calls : List (String × Shape)) :
    (ofCalls policy calls).names = (calls.map (·.1)).foldl insertNew [] := by
  rw [ofCalls_eq_registerAll, names_registerAll, names_empty]

/-- A name is in the table when one of the calls has it. -/
theorem mem_names_ofCalls {name : String} :
    name ∈ (ofCalls policy calls).names ↔ name ∈ calls.map (·.1) := by
  rw [names_ofCalls, mem_foldl_insertNew]
  simp

/-- The first call of a name gives its type. -/
theorem get?_ofCalls_firstWins (calls : List (String × Shape)) (name : String) :
    (ofCalls .firstWins calls).get? name = calls.lookup name := by
  rw [ofCalls_eq_registerAll, get?_registerAll_firstWins rfl]
  exact Option.none_or

/-- The last call does. -/
theorem get?_ofCalls_lastWins (calls : List (String × Shape)) (name : String) :
    (ofCalls .lastWins calls).get? name = calls.reverse.lookup name := by
  rw [ofCalls_eq_registerAll, get?_registerAll_lastWins rfl]
  exact Option.or_none

/-- The table after one call more. -/
theorem ofCalls_take_succ {i : Nat} {e : String × Shape} (he : calls[i]? = some e) :
    ofCalls policy (calls.take (i + 1)) =
      (ofCalls policy (calls.take i)).register e.1 e.2 := by
  rw [ofCalls_eq_registerAll, ofCalls_eq_registerAll, List.take_add_one, he, registerAll_append]
  rfl

/-! ## Answers -/

/-- The answer at a place of a run is that of the table before it. -/
theorem getElem?_fst_run_offerAll (t : TypeTable) (calls : List (String × Shape)) (i : Nat) :
    ((offerAll calls).run t).1[i]? =
      calls[i]?.map fun e => (t.registerAll (calls.take i)).accepts e.1 := by
  induction calls generalizing t i with
  | nil => rfl
  | cons e rest ih =>
      rw [run_offerAll_cons]
      cases i with
      | zero => rfl
      | succ i => exact ih (t.register e.1 e.2) i

/-- A call is answered by the table of the calls before it. -/
theorem getElem?_answers (policy : CollisionPolicy) (calls : List (String × Shape)) (i : Nat) :
    (answers policy calls)[i]? =
      calls[i]?.map fun e => (ofCalls policy (calls.take i)).accepts e.1 := by
  rw [answers, getElem?_fst_run_offerAll, ofCalls_eq_registerAll]

/-- Where the first shape wins, the names that are there are those that are refused. -/
theorem accepts_ofCalls_firstWins_eq_false_iff {name : String} :
    (ofCalls .firstWins calls).accepts name = false ↔ name ∈ calls.map (·.1) := by
  rw [accepts_firstWins (policy_ofCalls _ _), Bool.not_eq_false', contains, List.contains_iff_mem,
    mem_names_ofCalls]

/-- Where the first shape wins, a run adds as many entries as it keeps shapes. -/
theorem size_run_offerAll_firstWins (ht : t.policy = .firstWins) (calls : List (String × Shape)) :
    ((offerAll calls).run t).2.size = ((offerAll calls).run t).1.count true + t.size := by
  induction calls generalizing t with
  | nil => exact (Nat.zero_add _).symm
  | cons e rest ih =>
      rw [run_offerAll_cons, ih (by rw [policy_register, ht]), size_register_firstWins ht,
        ← Nat.add_assoc, List.count_cons]
      cases t.accepts e.1 <;> rfl

/-- Where the last shape wins, every call is answered by yes. -/
theorem fst_run_offerAll_lastWins (ht : t.policy = .lastWins) (calls : List (String × Shape)) :
    ((offerAll calls).run t).1 = List.replicate calls.length true := by
  induction calls generalizing t with
  | nil => rfl
  | cons e rest ih =>
      rw [run_offerAll_cons, ih (by rw [policy_register, ht]), accepts_lastWins ht]
      rfl

/-! ## Duality -/

/-- **Duality of the policies.**  On the same calls, both policies end with the same names at the
same places, each name once.  The last shapes are the first shapes of the reversed calls.  Where the
first shape wins, just the calls whose names came up before are refused, and they leave the table as
it is; so the others are as many as the table has entries.  Where the last shape wins, no call is
refused. -/
theorem policies_dual (calls : List (String × Shape)) :
    (ofCalls .firstWins calls).names = (ofCalls .lastWins calls).names ∧
      (ofCalls .firstWins calls).names.Nodup ∧
      (∀ name, (ofCalls .lastWins calls).get? name =
        (ofCalls .firstWins calls.reverse).get? name) ∧
      (∀ i e, calls[i]? = some e → ∃ kept, (answers .firstWins calls)[i]? = some kept ∧
        (kept = false ↔ e.1 ∈ (calls.take i).map (·.1)) ∧
        (kept = false →
          ofCalls .firstWins (calls.take (i + 1)) = ofCalls .firstWins (calls.take i))) ∧
      (answers .firstWins calls).count true = (ofCalls .firstWins calls).size ∧
      answers .lastWins calls = List.replicate calls.length true := by
  refine ⟨?_, ?_, ?_, ?_, ?_, ?_⟩
  · rw [names_ofCalls, names_ofCalls]
  · rw [names_ofCalls]
    exact nodup_foldl_insertNew List.nodup_nil _
  · intro name
    rw [get?_ofCalls_lastWins, get?_ofCalls_firstWins]
  · intro i e he
    refine ⟨(ofCalls .firstWins (calls.take i)).accepts e.1, ?_, ?_, ?_⟩
    · rw [getElem?_answers, he, Option.map_some]
    · exact accepts_ofCalls_firstWins_eq_false_iff
    · intro hrefused
      rw [ofCalls_take_succ he, register_of_refused hrefused]
  · have hempty : (empty .firstWins).policy = .firstWins := rfl
    exact (size_run_offerAll_firstWins hempty calls).symm
  · have hempty : (empty .lastWins).policy = .lastWins := rfl
    exact fst_run_offerAll_lastWins hempty calls

/-- Two names, each with two shapes, in turns. -/
def repeatedCalls : List (String × Shape) :=
  [("A", .number), ("B", .boolean), ("A", .array .string), ("B", .null)]

/-- The third of the `repeatedCalls` is refused where the first shape wins, and overwrites its name
in place where the last one does. -/
theorem policies_dual_repeatedCalls :
    repeatedCalls[2]? = some ("A", .array .string) ∧
      (answers .firstWins repeatedCalls)[2]? = some false ∧
      ofCalls .firstWins (repeatedCalls.take 3) = ofCalls .firstWins (repeatedCalls.take 2) ∧
      (answers .firstWins repeatedCalls).count true = 2 ∧
      (ofCalls .lastWins repeatedCalls).names = ["A", "B"] ∧
      (ofCalls .lastWins repeatedCalls).get? "A" = some (.array .string) := by
  obtain ⟨hnames, -, hget, hcalls, hcount, -⟩ := policies_dual repeatedCalls
  have hcall : repeatedCalls[2]? = some ("A", .array .string) := rfl
  obtain ⟨kept, hanswer, hiff, hsame⟩ := hcalls 2 _ hcall
  have hkept : kept = false := hiff.mpr (by decide)
  refine ⟨hcall, ?_, hsame hkept, ?_, ?_, ?_⟩
  · rw [hanswer, hkept]
  · rw [hcount]
    rfl
  · rw [← hnames]
    rfl
  · rw [hget]
    rfl

end MockScaffold.TypeTable
