import MockScaffold.Proofs.Document.FirstOccurrences
import MockScaffold.Proofs.Outcome
import MockScaffold.TypeTable

/-!
# The names of a table

A name enters a table at its first registration and stays there, whatever the policy.  So the names
of a table are those of the registered types in the order of first occurrence, and for endpoints
they are told from paths and bodies, whatever shapes are inferred (`names_ofEndpoints`).
-/

namespace MockScaffold

open MocksModule (insertNew insertNew_of_mem insertNew_of_not_mem)

/-- A name that is new comes last, and one that is there keeps its place. -/
theorem map_fst_setShape (name : String) (s : Shape) (entries : List (String × Shape)) :
    (setShape name s entries).map (·.1) = insertNew (entries.map (·.1)) name := by
  induction entries with
  | nil => rfl
  | cons e rest ih =>
      by_cases heq : e.1 = name
      · rw [setShape, if_pos heq, insertNew_of_mem (by simp [heq])]
        rfl
      · rw [setShape, if_neg heq, List.map_cons, ih, List.map_cons]
        by_cases hmem : name ∈ rest.map (·.1)
        · rw [insertNew_of_mem hmem, insertNew_of_mem (List.mem_cons_of_mem _ hmem)]
        · rw [insertNew_of_not_mem hmem, insertNew_of_not_mem, List.cons_append]
          rw [List.mem_cons]
          exact fun h => h.elim (fun h => heq h.symm) hmem

namespace TypeTable

@[simp] theorem names_empty (policy : CollisionPolicy) : (empty policy).names = [] := rfl

/-- Registering a shape adds its name, if it is new. -/
@[simp] theorem names_register (t : TypeTable) (name : String) (s : Shape) :
    (t.register name s).names = insertNew t.names name := by
  unfold register
  split
  · exact map_fst_setShape name s t.entries
  · next h =>
      have hmem : name ∈ t.names := by
        simp only [accepts, contains, Bool.not_eq_true', Bool.not_eq_false, Bool.and_eq_true] at h
        exact List.contains_iff_mem.mp h.1
      rw [insertNew_of_mem hmem]

/-- So the names of a table are those registered, each once and in order. -/
theorem names_registerAll (t : TypeTable) (types : List (String × Shape)) :
    (t.registerAll types).names = (types.map (·.1)).foldl insertNew t.names := by
  unfold registerAll
  induction types generalizing t with
  | nil => rfl
  | cons e rest ih => rw [List.foldl_cons, ih, names_register, List.map_cons, List.foldl_cons]

end TypeTable

namespace Endpoint

/-- The methods whose request bodies get a type. -/
def bodyMethods : List String := ["POST", "PUT", "PATCH"]

/-- The methods that accept a body are the three of `bodyMethods`. -/
theorem acceptsBody_iff (e : Endpoint) : e.acceptsBody = true ↔ e.method ∈ bodyMethods := by
  unfold acceptsBody verb? Verb.ofMethod?
  simp only [Option.any_eq_true, bodyMethods]
  constructor
  · rintro ⟨v, hv, hbody⟩
    have hmethod := List.find?_some hv
    rw [beq_iff_eq] at hmethod
    rw [← hmethod]
    cases v <;> first | decide | cases hbody
  · intro h
    simp only [List.mem_cons, List.not_mem_nil, or_false] at h
    rcases h with h | h | h <;> rw [h]
    · exact ⟨.post, by decide, rfl⟩
    · exact ⟨.put, by decide, rfl⟩
    · exact ⟨.patch, by decide, rfl⟩

/-- A typed body is one that is not null, under one of these methods. -/
theorem hasTypedBody_iff (e : Endpoint) :
    e.hasTypedBody = true ↔ e.method ∈ bodyMethods ∧ e.requestBody.isNull = false := by
  rw [hasTypedBody, Bool.and_eq_true, acceptsBody_iff, hasRequestBody, Bool.not_eq_true']

/-- The names of the types that an endpoint names. -/
def typeNames (e : Endpoint) : List String :=
  (MocksModule.requestType? e).toList ++ [Naming.responseName e.path]

/-- The types of an endpoint are that of its response, and that of its body where it has one. -/
theorem mem_typeNames {e : Endpoint} {name : String} :
    name ∈ e.typeNames ↔
      e.hasTypedBody = true ∧ name = Naming.requestName e.path ∨
        name = Naming.responseName e.path := by
  unfold typeNames MocksModule.requestType?
  split <;> simp_all

/-- The types that an endpoint names have these names, whatever their shapes. -/
theorem map_fst_namedTypes {strategy : ArrayStrategy} {e : Endpoint} {types : List (String × Shape)}
    (h : e.namedTypes strategy = .ok types) : types.map (·.1) = e.typeNames := by
  unfold namedTypes at h
  unfold typeNames MocksModule.requestType?
  have hresponse (t : String × Shape)
      (ht : ((Shape.infer? strategy 0 e.response).map
        fun s => (Naming.responseName e.path, s)) = .ok t) :
      t.1 = Naming.responseName e.path := by
    obtain ⟨s, _, rfl⟩ := map_eq_ok ht
    rfl
  split at h
  · next hbody =>
      obtain ⟨s, _, h⟩ := bind_eq_ok h
      obtain ⟨t, ht, h⟩ := bind_eq_ok h
      cases h
      simp [hbody, hresponse t ht]
  · next hbody =>
      obtain ⟨t, ht, h⟩ := bind_eq_ok h
      cases h
      simp [hbody, hresponse t ht]

end Endpoint

/-- The names of a table of endpoints, each at its first place. -/
theorem TypeTable.names_ofEndpoints {policy : CollisionPolicy} {strategy : ArrayStrategy}
    {endpoints : List Endpoint} {t : TypeTable}
    (h : ofEndpoints policy strategy endpoints = .ok t) :
    t.names = (endpoints.flatMap Endpoint.typeNames).foldl MocksModule.insertNew [] := by
  obtain ⟨types, htypes, rfl⟩ := map_eq_ok h
  obtain ⟨lists, hlists, rfl⟩ := map_eq_ok htypes
  rw [names_registerAll, names_empty]
  congr 1
  have hall := mapM_eq_ok hlists
  clear h htypes hlists
  induction hall with
  | nil => rfl
  | cons hhead _ ih =>
      rw [List.flatten_cons, List.map_append, ih, Endpoint.map_fst_namedTypes hhead,
        List.flatMap_cons]

/-- The names of a table of endpoints are those that the endpoints give. -/
theorem TypeTable.mem_names_ofEndpoints {policy : CollisionPolicy} {strategy : ArrayStrategy}
    {endpoints : List Endpoint} {t : TypeTable}
    (h : ofEndpoints policy strategy endpoints = .ok t) {name : String} :
    name ∈ t.names ↔ ∃ e ∈ endpoints, name ∈ e.typeNames := by
  rw [names_ofEndpoints h, MocksModule.mem_foldl_insertNew, List.mem_flatMap]
  simp

end MockScaffold
