import MockScaffold.Document.Artifacts
import MockScaffold.Proofs.Json.Embedding
import MockScaffold.Proofs.Shape.Agreement
import MockScaffold.Proofs.Spec.Reading
import MockScaffold.Proofs.TypeTable.Bindings
import MockScaffold.Yaml.Reader

/-!
# When the artifacts can be generated

Generation takes samples of any kind, and not all of them get through: a key may have no form in
JSON, and an integer may be too long to be written.  Which endpoints get through is
`Endpoint.IsRenderable`, and it is enough to look at one endpoint at a time.

The main statement is `Artifacts.exists_generate_iff`.  Where the path of the types is more than a
suffix, there are artifacts just when every endpoint gets through.  A specification in JSON has only
such endpoints, since its keys are texts and its integers are read with the same limit; one in YAML
may have others (`Artifacts.generate_dateKeyed`).
-/

namespace MockScaffold

/-- Nothing in the samples and in the status code of an endpoint stops generation: the types can be
inferred, and if there is a handler, its sample can be embedded and its status code written.  A
handler for `GET` tells no status code. -/
structure Endpoint.IsRenderable (strategy : ArrayStrategy) (e : Endpoint) : Prop where
  request : e.hasTypedBody = true → Shape.meetsOverlongKey strategy e.requestBody = false
  response : Shape.meetsOverlongKey strategy e.response = false
  sample : ∀ verb, e.verb? = some verb → e.response.IsEmbeddable
  status : ∀ verb, e.verb? = some verb → verb ≠ .get → e.statusCode.natAbs < Nat.pow 10 digitLimit

namespace MocksModule

/-- The lines of an answer can be written when the response can be embedded and the status is not
too long. -/
theorem exists_answerLines_iff {e : Endpoint} : (∃ answer, answerLines e = .ok answer) ↔
    e.response.IsEmbeddable ∧ e.statusCode.natAbs < Nat.pow 10 digitLimit := by
  have hembed : (∃ response, Json.embed "      " e.response = .ok response) ↔
      e.response.IsEmbeddable := Json.exists_embed_iff
  rw [answerLines, exists_bind_eq_ok_iff, ← Json.exists_integer_iff, ← hembed]
  constructor
  · rintro ⟨response, hresponse, h⟩
    obtain ⟨status, hstatus, _⟩ := exists_bind_eq_ok_iff.mp h
    exact ⟨⟨response, hresponse⟩, status, hstatus⟩
  · rintro ⟨⟨response, hresponse⟩, status, hstatus⟩
    exact ⟨response, hresponse, exists_bind_eq_ok_iff.mpr ⟨status, hstatus, _, rfl⟩⟩

/-- A handler for `GET` embeds its sample; all others write a status code, too. -/
theorem exists_handlerLines_iff {verb : Verb} {e : Endpoint} {requestType : Option String} :
    (∃ lines, handlerLines verb e requestType = .ok lines) ↔ e.response.IsEmbeddable ∧
      (verb ≠ .get → e.statusCode.natAbs < Nat.pow 10 digitLimit) := by
  have hanswer {f : List String → List String} :
      (∃ lines, (answerLines e >>= fun answer => pure (f answer)) = .ok lines) ↔
        e.response.IsEmbeddable ∧ e.statusCode.natAbs < Nat.pow 10 digitLimit := by
    rw [← exists_answerLines_iff]
    exact exists_map_eq_ok_iff
  cases verb with
  | get =>
      have hembed : (∃ lines, handlerLines .get e requestType = .ok lines) ↔
          ∃ response, Json.embed "    " e.response = .ok response := exists_map_eq_ok_iff
      rw [hembed, Json.exists_embed_iff]
      simp
  | _ =>
      refine hanswer.trans ?_
      simp

/-- An endpoint of no verb has no handler, and that is no failure. -/
theorem exists_handler?_iff {e : Endpoint} {requestType : Option String} :
    (∃ handler, handler? e requestType = .ok handler) ↔ ∀ verb, e.verb? = some verb →
      e.response.IsEmbeddable ∧ (verb ≠ .get → e.statusCode.natAbs < Nat.pow 10 digitLimit) := by
  unfold handler?
  cases hverb : e.verb? with
  | none => simp
  | some verb =>
      dsimp only
      rw [exists_map_eq_ok_iff, exists_handlerLines_iff]
      simp

/-- The document of handlers can be written just when every handler in it can; for a GET request the
status is not written. -/
theorem exists_render_iff {endpoints : List Endpoint} {typesModule : Option String} :
    (∃ document, render endpoints typesModule = .ok document) ↔ ∀ e ∈ endpoints, ∀ verb,
      e.verb? = some verb → e.response.IsEmbeddable ∧
        (verb ≠ .get → e.statusCode.natAbs < Nat.pow 10 digitLimit) := by
  have hhandlers : (∃ document, render endpoints typesModule = .ok document) ↔
      ∃ handlers, (endpoints.mapM fun e =>
        handler? e (localType? (typesModule.filter (· ≠ "")) e)) = .ok handlers :=
    exists_map_eq_ok_iff
  rw [hhandlers, exists_mapM_eq_ok_iff]
  simp only [exists_handler?_iff]

end MocksModule

namespace Endpoint

variable {strategy : ArrayStrategy} {endpoints : List Endpoint}

/-- Types are inferred for the response, and for a body that has a type. -/
theorem inferable_namedSamples_iff {e : Endpoint} : Inferable strategy e.namedSamples ↔
    (e.hasTypedBody = true → Shape.meetsOverlongKey strategy e.requestBody = false) ∧
      Shape.meetsOverlongKey strategy e.response = false := by
  rw [Inferable, namedSamples, hasTypedBody_iff, List.forall_mem_append, List.forall_mem_singleton]
  split
  · next hbody => simp [hbody]
  · next hbody => simp [hbody]

/-- Endpoints get through just when there are a table and handlers for them. -/
theorem forall_isRenderable_iff : (∀ e ∈ endpoints, e.IsRenderable strategy) ↔
    Inferable strategy (MockScaffold.namedSamples endpoints) ∧ ∀ e ∈ endpoints, ∀ verb,
      e.verb? = some verb → e.response.IsEmbeddable ∧
        (verb ≠ .get → e.statusCode.natAbs < Nat.pow 10 digitLimit) := by
  have hinferable : Inferable strategy (MockScaffold.namedSamples endpoints) ↔
      ∀ e ∈ endpoints, Inferable strategy e.namedSamples := by
    simp only [Inferable, MockScaffold.namedSamples, List.forall_mem_flatMap]
  rw [hinferable]
  constructor
  · intro h
    refine ⟨fun e he => ?_, fun e he verb hverb => ?_⟩
    · exact inferable_namedSamples_iff.mpr ⟨(h e he).request, (h e he).response⟩
    · exact ⟨(h e he).sample verb hverb, (h e he).status verb hverb⟩
  · rintro ⟨htypes, hhandlers⟩ e he
    obtain ⟨hrequest, hresponse⟩ := inferable_namedSamples_iff.mp (htypes e he)
    exact ⟨hrequest, hresponse, fun verb hverb => (hhandlers e he verb hverb).1,
      fun verb hverb => (hhandlers e he verb hverb).2⟩

/-- An endpoint with values of JSON gets through. -/
theorem isRenderable_of_isPlain {e : Endpoint} (hrequest : e.requestBody.IsPlain)
    (hresponse : e.response.IsPlain) (hstatus : e.statusCode.natAbs < Nat.pow 10 digitLimit) :
    e.IsRenderable strategy := by
  have hkeys {v : Sample} (hv : v.IsPlain) : Shape.meetsOverlongKey strategy v = false :=
    Json.meetsOverlongKey_of_isEmbeddable hv.isEmbeddable strategy
  exact ⟨fun _ => hkeys hrequest, hkeys hresponse, fun _ _ => hresponse.isEmbeddable,
    fun _ _ _ => hstatus⟩

end Endpoint

namespace Artifacts

/-- There is a specifier of the types unless their path is nothing but a suffix. -/
theorem exists_typesModule_iff {workingDirectory : Place} {config : Config} :
    (∃ source, typesModule workingDirectory config = .ok source) ↔
      moduleStem config.typesPath.chars ≠ [] := by
  unfold typesModule importSpecifier?
  split
  · next hstem => exact ⟨fun ⟨_, h⟩ => (nomatch h), fun h => absurd hstem h⟩
  · next hstem => exact ⟨fun _ => hstem, fun _ => ⟨_, rfl⟩⟩

variable (workingDirectory : Place) (config : Config)

/-- **When the artifacts can be generated.**  Let the path of the types be more than a suffix.  Then
there are artifacts for a specification just when nothing in the samples and status codes of its
endpoints stops generation; and nothing does if the specification is read from JSON. -/
theorem exists_generate_iff (hstem : moduleStem config.typesPath.chars ≠ []) :
    (∀ spec : Specification, (∃ a, generate workingDirectory config spec = .ok a) ↔
        ∀ e ∈ spec.endpoints, e.IsRenderable config.arrayStrategy) ∧
      ∀ text v spec, Json.read text = .ok v → Specification.parse v = .ok spec →
        ∃ a, generate workingDirectory config spec = .ok a := by
  have hiff (spec : Specification) : (∃ a, generate workingDirectory config spec = .ok a) ↔
      ∀ e ∈ spec.endpoints, e.IsRenderable config.arrayStrategy := by
    obtain ⟨source, hsource⟩ := exists_typesModule_iff.mpr hstem
    have htable : (∃ t, (TypeTable.ofEndpoints config.collisionPolicy config.arrayStrategy
        spec.endpoints).mapError Fault.fieldName = .ok t) ↔ _ :=
      exists_mapError_eq_ok_iff.trans TypeTable.exists_ofEndpoints_iff
    have hmocks : (∃ mocks, (MocksModule.render spec.endpoints (some source)).mapError Fault.embed =
        .ok mocks) ↔ _ :=
      exists_mapError_eq_ok_iff.trans MocksModule.exists_render_iff
    rw [Endpoint.forall_isRenderable_iff, ← htable, ← hmocks, generate, hsource]
    constructor
    · rintro ⟨a, h⟩
      obtain ⟨table, ht, h⟩ := bind_eq_ok h
      obtain ⟨_, heq, h⟩ := bind_eq_ok h
      cases heq
      obtain ⟨mocks, hm, _⟩ := bind_eq_ok h
      exact ⟨⟨table, ht⟩, mocks, hm⟩
    · rintro ⟨⟨table, ht⟩, mocks, hm⟩
      exact exists_bind_eq_ok_iff.mpr ⟨table, ht, exists_bind_eq_ok_iff.mpr
        ⟨source, rfl, exists_bind_eq_ok_iff.mpr ⟨mocks, hm, _, rfl⟩⟩⟩
  refine ⟨hiff, fun text v spec hread hparse => (hiff spec).mpr fun e he => ?_⟩
  obtain ⟨hrequest, hresponse, hstatus⟩ :=
    Specification.isPlain_of_parse_eq_ok (Json.isPlain_of_read_eq_ok hread) hparse e he
  exact Endpoint.isRenderable_of_isPlain hrequest hresponse hstatus

/-- The configuration that has the default in every field. -/
def plainConfig : Config :=
  ⟨Config.defaultMocksPath, Config.defaultTypesPath, .firstWins, .firstElement, none⟩

/-- A specification in JSON. -/
def nestedText : String :=
  "\x7b\"apis\": [\x7b\"method\": \"put\", \"path\": \"/a\", \"statusCode\": \"201\"," ++
    "\"requestBody\": \x7b\"1\": [0.5, null]\x7d, \"response\": [[]]\x7d]\x7d"

/-- The artifacts for `nestedText` can be generated. -/
theorem exists_generate_nestedText : moduleStem plainConfig.typesPath.chars ≠ [] ∧
    ∃ v spec a, Json.read nestedText = .ok v ∧ Specification.parse v = .ok spec ∧
      generate [] plainConfig spec = .ok a := by
  have hstem : moduleStem plainConfig.typesPath.chars ≠ [] := by decide +kernel
  have hparse : ((Json.read nestedText).toOption.bind fun v =>
      (Specification.parse v).toOption).isSome = true := by decide +kernel
  obtain ⟨spec, hparse⟩ := Option.isSome_iff_exists.mp hparse
  obtain ⟨v, hread, hspec⟩ := Option.bind_eq_some_iff.mp hparse
  have hread := toOption_eq_some hread
  have hspec := toOption_eq_some hspec
  obtain ⟨a, ha⟩ := (exists_generate_iff [] plainConfig hstem).2 nestedText v spec hread hspec
  exact ⟨hstem, v, spec, a, hread, hspec, ha⟩

/-- A specification in YAML whose only sample has a date as a key. -/
def dateKeyed : String :=
  "apis:\n- \x7bmethod: GET, path: /, response: \x7b2024-01-01: 1\x7d\x7d\n"

/-- For `dateKeyed` nothing is generated: a date has no form as the key of an object in JSON. -/
theorem generate_dateKeyed : moduleStem plainConfig.typesPath.chars ≠ [] ∧
    ∃ v spec, Yaml.read dateKeyed = .ok v ∧ Specification.parse v = .ok spec ∧
      generate [] plainConfig spec = .error (.embed (.key (.date ⟨2024, 1, 1⟩))) := by
  have hstem : moduleStem plainConfig.typesPath.chars ≠ [] := by decide +kernel
  have hfault : ((Yaml.read dateKeyed).toOption.bind fun v =>
      (Specification.parse v).toOption.bind fun spec => fault? (generate [] plainConfig spec)) =
        some (.embed (.key (.date ⟨2024, 1, 1⟩))) := by decide +kernel
  obtain ⟨v, hread, hfault⟩ := Option.bind_eq_some_iff.mp hfault
  obtain ⟨spec, hspec, hfault⟩ := Option.bind_eq_some_iff.mp hfault
  exact ⟨hstem, v, spec, toOption_eq_some hread, toOption_eq_some hspec, fault?_eq_some hfault⟩

end Artifacts

end MockScaffold
