import MockScaffold.Document.TypesModule
import MockScaffold.Proofs.Naming.Fragment
import MockScaffold.Proofs.TypeTable.Names

/-!
# References of the interface of endpoints

The line of an endpoint mentions the type of its request body, if it has a body at all, and the type
of its response.  A body gets a type only under some methods, so a line may mention a type that its
endpoint does not name.  Paths of one fragment share their names, and so whether that type is
declared depends on all endpoints.

The main statement is `mentions_declared`: responses are always declared, a request body is declared
just when some endpoint of the same fragment has a typed body, and what is declared is mentioned.
-/

namespace MockScaffold.TypesModule

open Naming (fragment requestName responseName functionName)

/-- The parts of the line of an endpoint: a function, the type of its argument, if it takes one, and
the type of what it promises. -/
structure Entry where
  function : String
  argument? : Option String
  result : String

namespace Entry

def ofEndpoint (e : Endpoint) : Entry where
  function := functionName e.method e.path
  argument? := if e.hasRequestBody then some (requestName e.path) else none
  result := responseName e.path

/-- The line with these parts. -/
def line (x : Entry) : String :=
  let argument :=
    match x.argument? with
    | none => "()"
    | some name => "(body: " ++ name ++ ")"
  "  " ++ x.function ++ ": " ++ argument ++ " => Promise<" ++ x.result ++ ">\n"

/-- The types that the line mentions. -/
def mentions (x : Entry) : List String := x.argument?.toList ++ [x.result]

/-- The line of an entry is the one that is rendered. -/
theorem line_ofEndpoint (e : Endpoint) : (ofEndpoint e).line = endpointEntry e := by
  unfold line ofEndpoint endpointEntry
  split <;> simp_all

/-- An entry mentions the type of the response, and that of the body where there is one. -/
theorem mem_mentions_ofEndpoint {e : Endpoint} {name : String} :
    name ∈ (ofEndpoint e).mentions ↔
      e.hasRequestBody = true ∧ name = requestName e.path ∨ name = responseName e.path := by
  unfold mentions ofEndpoint
  split <;> simp_all

end Entry

variable {policy : CollisionPolicy} {strategy : ArrayStrategy} {endpoints : List Endpoint}
  {t : TypeTable}

/-- The response of an endpoint is declared. -/
theorem responseName_mem_names (h : TypeTable.ofEndpoints policy strategy endpoints = .ok t)
    {e : Endpoint} (he : e ∈ endpoints) : responseName e.path ∈ t.names :=
  (TypeTable.mem_names_ofEndpoints h).mpr ⟨e, he, Endpoint.mem_typeNames.mpr (Or.inr rfl)⟩

/-- A request body is declared if some endpoint has a typed body and gives it the same fragment. -/
theorem requestName_mem_names_iff (h : TypeTable.ofEndpoints policy strategy endpoints = .ok t)
    (path : String) :
    requestName path ∈ t.names ↔
      ∃ e ∈ endpoints, e.hasTypedBody = true ∧ fragment e.path = fragment path := by
  rw [TypeTable.mem_names_ofEndpoints h]
  refine exists_congr fun e => and_congr_right fun _ => ?_
  rw [Endpoint.mem_typeNames]
  constructor
  · rintro (⟨hbody, hname⟩ | hname)
    · exact ⟨hbody, (Naming.typeName_eq_iff.mp hname).symm⟩
    · exact absurd hname (Naming.requestName_ne_responseName path e.path)
  · rintro ⟨hbody, hfragment⟩
    exact Or.inl ⟨hbody, Naming.typeName_eq_iff.mpr hfragment.symm⟩

/-- What is declared is mentioned in the line of the endpoint that names it. -/
theorem exists_mentions_of_mem_names (h : TypeTable.ofEndpoints policy strategy endpoints = .ok t)
    {name : String} (hname : name ∈ t.names) :
    ∃ e ∈ endpoints, name ∈ (Entry.ofEndpoint e).mentions := by
  obtain ⟨e, he, hmem⟩ := (TypeTable.mem_names_ofEndpoints h).mp hname
  refine ⟨e, he, Entry.mem_mentions_ofEndpoint.mpr ?_⟩
  rcases Endpoint.mem_typeNames.mp hmem with ⟨hbody, heq⟩ | heq
  · rw [Endpoint.hasTypedBody, Bool.and_eq_true] at hbody
    exact Or.inl ⟨hbody.2, heq⟩
  · exact Or.inr heq

/-- **Mentioned and declared types.**  The line of an endpoint mentions the type of its response,
which is declared.  If the endpoint has a request body, the line mentions a type for it, and that is
declared just when some endpoint of the same fragment has a body, not null, under a method that
takes one.  Every declared type is mentioned in the line of an endpoint. -/
theorem mentions_declared (h : TypeTable.ofEndpoints policy strategy endpoints = .ok t) :
    (∀ e ∈ endpoints, endpointEntry e = (Entry.ofEndpoint e).line ∧
        (Entry.ofEndpoint e).result ∈ t.names ∧
        (e.hasRequestBody = true → ∃ name, (Entry.ofEndpoint e).argument? = some name ∧
          (name ∈ t.names ↔ ∃ e' ∈ endpoints, e'.method ∈ Endpoint.bodyMethods ∧
            e'.requestBody.isNull = false ∧ fragment e'.path = fragment e.path))) ∧
      ∀ name ∈ t.names, ∃ e ∈ endpoints, name ∈ (Entry.ofEndpoint e).mentions := by
  refine ⟨?_, fun name hname => exists_mentions_of_mem_names h hname⟩
  intro e he
  refine ⟨(Entry.line_ofEndpoint e).symm, responseName_mem_names h he, ?_⟩
  intro hbody
  refine ⟨requestName e.path, if_pos hbody, ?_⟩
  rw [requestName_mem_names_iff h]
  simp only [Endpoint.hasTypedBody_iff, and_assoc]

/-- A body under `GET` that shares its fragment with one under `PUT`, and one that does not. -/
def bodiesUnderGet : List Endpoint :=
  [⟨"GET", "/a", .text "", .null, 200⟩, ⟨"PUT", "/api/a", .map [], .null, 200⟩,
    ⟨"GET", "/b", .text "", .null, 200⟩]

/-- The lines of both mention a type, and only the first one is declared. -/
theorem mentions_declared_bodiesUnderGet :
    ∃ t, TypeTable.ofEndpoints .firstWins .firstElement bodiesUnderGet = .ok t ∧
      "ARequest" ∈ t.names ∧ "BRequest" ∉ t.names := by
  have hok : (TypeTable.ofEndpoints .firstWins .firstElement bodiesUnderGet).isOk = true := by
    decide +kernel
  cases h : TypeTable.ofEndpoints .firstWins .firstElement bodiesUnderGet with
  | error o =>
      rw [h] at hok
      cases hok
  | ok t =>
      obtain ⟨hlines, _⟩ := mentions_declared h
      obtain ⟨_, _, hfirst⟩ := hlines ⟨"GET", "/a", .text "", .null, 200⟩ (by simp [bodiesUnderGet])
      obtain ⟨_, _, hlast⟩ := hlines ⟨"GET", "/b", .text "", .null, 200⟩ (by simp [bodiesUnderGet])
      obtain ⟨name, hname, hdeclared⟩ := hfirst rfl
      obtain ⟨name', hname', hdeclared'⟩ := hlast rfl
      have heq : requestName "/a" = "ARequest" := by decide +kernel
      have heq' : requestName "/b" = "BRequest" := by decide +kernel
      obtain rfl : requestName "/a" = name := Option.some.inj hname
      obtain rfl : requestName "/b" = name' := Option.some.inj hname'
      refine ⟨t, rfl, ?_, ?_⟩
      · rw [← heq, hdeclared]
        decide +kernel
      · rw [← heq', hdeclared']
        decide +kernel

end MockScaffold.TypesModule
