import Mathlib.Logic.Relation
import MockScaffold.Proofs.Document.HandlerLines

/-!
# Endpoints without a handler

There are handlers for five methods.  An endpoint with another one gives the module of mock handlers
nothing: no handler (`handler?_of_not_isSupported`), and no import, as its request bodies get no
type (`requestType?_of_not_isSupported`).  So the module is that of the other endpoints alone
(`render_filter_isSupported`).

It follows that edits of a specification by which endpoints without a handler come, go or move leave
the module as it is.  Such edits are just what leads from one list to another with the same other
endpoints in it (`edits_iff`), so the main statement, `render_eq_of_edits`, is about all of them.
-/

namespace MockScaffold.MocksModule

/-- Whether the method of an endpoint is one that handlers exist for. -/
def isSupported (e : Endpoint) : Bool := ["GET", "POST", "PUT", "PATCH", "DELETE"].contains e.method

/-- A method is supported when there is a verb for it. -/
theorem isSupported_eq (e : Endpoint) : isSupported e = e.verb?.isSome := by
  have hmethods : isSupported e = (Verb.all.map Verb.method).contains e.method := rfl
  rw [hmethods, Bool.eq_iff_iff, List.contains_iff_mem, List.mem_map, Endpoint.verb?,
    Verb.ofMethod?, List.find?_isSome]
  simp only [beq_iff_eq]

/-- Without a verb there is no handler. -/
theorem handler?_of_not_isSupported {e : Endpoint} (h : isSupported e = false)
    (requestType : Option String) : handler? e requestType = .ok none := by
  rw [isSupported_eq, Option.isSome_eq_false_iff, Option.isNone_iff_eq_none] at h
  rw [handler?, h]

/-- And no type of a body. -/
theorem requestType?_of_not_isSupported {e : Endpoint} (h : isSupported e = false) :
    requestType? e = none := by
  rw [isSupported_eq, Option.isSome_eq_false_iff, Option.isNone_iff_eq_none] at h
  rw [requestType?, if_neg]
  simp [Endpoint.hasTypedBody, Endpoint.acceptsBody, h]

/-! ## The module of the supported endpoints -/

/-- Items that give nothing may be left out before a list is worked through. -/
theorem mapM_filterMap_filter {ε α β : Type} {f : α → Except ε (Option β)} {p : α → Bool}
    (h : ∀ a, p a = false → f a = .ok none) (xs : List α) :
    (xs.mapM f).map (List.filterMap id) = ((xs.filter p).mapM f).map (List.filterMap id) := by
  induction xs with
  | nil => rfl
  | cons x xs ih =>
      rw [List.mapM_cons]
      cases hx : p x with
      | false =>
          rw [List.filter_cons_of_neg (by simp [hx]), h x hx, ← ih]
          cases xs.mapM f <;> rfl
      | true =>
          have hcons (y : Option β) (rest : Except ε (List (Option β))) :
              (rest >>= fun ys => pure (y :: ys)).map (List.filterMap id) =
                (rest.map (List.filterMap id)).map fun zs => y.toList ++ zs := by
            cases rest <;> cases y <;> rfl
          rw [List.filter_cons_of_pos hx, List.mapM_cons]
          cases f x with
          | error fault => rfl
          | ok y => exact (hcons y _).trans (ih ▸ (hcons y _).symm)

/-- So nothing is imported for an unsupported endpoint. -/
theorem specifiers_filter (endpoints : List Endpoint) :
    specifiers (endpoints.filter isSupported) = specifiers endpoints := by
  unfold specifiers
  rw [List.filterMap_filter]
  congr 1
  refine List.filterMap_congr fun e _ => ?_
  cases he : isSupported e with
  | true => rfl
  | false => rw [requestType?_of_not_isSupported he]; rfl

/-- The handlers of a module, one for each supported endpoint, come last in it. -/
theorem render_eq_map (endpoints : List Endpoint) (typesModule : Option String) :
    render endpoints typesModule =
      ((endpoints.mapM fun e => handler? e (localType? (typesModule.filter (· ≠ "")) e)).map
        (List.filterMap id)).map fun handlers =>
          imports ++ importLine (typesModule.filter (· ≠ "")) endpoints ++ "\n" ++ banner ++
            "export const handlers = [\n" ++ ",\n\n".intercalate handlers ++ "\n]\n" := by
  unfold render
  dsimp only
  cases endpoints.mapM fun e => handler? e (localType? (typesModule.filter (· ≠ "")) e) <;> rfl

/-- Endpoints without a handler give a module nothing. -/
theorem render_filter_isSupported (endpoints : List Endpoint) (typesModule : Option String) :
    render (endpoints.filter isSupported) typesModule = render endpoints typesModule := by
  have himport (source : Option String) :
      importLine source (endpoints.filter isSupported) = importLine source endpoints := by
    unfold importLine
    rw [specifiers_filter]
  rw [render_eq_map, render_eq_map, himport, ← mapM_filterMap_filter]
  exact fun e he => handler?_of_not_isSupported he _

/-- Supported endpoints have one handler each. -/
theorem forall₂_handlers {endpoints : List Endpoint} {localType : Endpoint → Option String}
    {results : List (Option String)} (hall : ∀ e ∈ endpoints, isSupported e = true)
    (h : List.Forall₂ (fun e result => handler? e (localType e) = .ok result) endpoints results) :
    List.Forall₂ (fun e handler => handler? e (localType e) = .ok (some handler)) endpoints
      (results.filterMap id) := by
  induction h with
  | nil => exact .nil
  | @cons e result endpoints results hresult _ ih =>
      obtain ⟨he, hrest⟩ := List.forall_mem_cons.mp hall
      rw [isSupported_eq, isSome_verb?_iff_of_handler?_eq_ok hresult] at he
      obtain ⟨handler, rfl⟩ := Option.isSome_iff_exists.mp he
      exact .cons hresult (ih hrest)

/-! ## Edits that a module does not see -/

/-- An endpoint without a handler is put into a list, taken out of it, or put elsewhere in it. -/
inductive Edit : List Endpoint → List Endpoint → Prop
  | insert (before after : List Endpoint) {e : Endpoint} (he : isSupported e = false) :
      Edit (before ++ after) (before ++ e :: after)
  | remove (before after : List Endpoint) {e : Endpoint} (he : isSupported e = false) :
      Edit (before ++ e :: after) (before ++ after)
  | move {before after before' after' : List Endpoint} {e : Endpoint} (he : isSupported e = false)
      (hothers : before ++ after = before' ++ after') :
      Edit (before ++ e :: after) (before' ++ e :: after')

/-- Every edit can be taken back. -/
instance : Std.Symm Edit where
  symm _ _ h := by
    cases h with
    | insert before after he => exact .remove before after he
    | remove before after he => exact .insert before after he
    | move he hothers => exact .move he hothers.symm

/-- One edit leaves the supported endpoints as they are. -/
theorem Edit.filter_eq {es fs : List Endpoint} (h : Edit es fs) :
    es.filter isSupported = fs.filter isSupported := by
  have hskip (before after : List Endpoint) {e : Endpoint} (he : isSupported e = false) :
      (before ++ e :: after).filter isSupported = (before ++ after).filter isSupported := by
    simp [he]
  cases h with
  | insert before after he => exact (hskip before after he).symm
  | remove before after he => exact hskip before after he
  | move he hothers => rw [hskip _ _ he, hskip _ _ he, hothers]

/-- The others can be taken out one by one. -/
theorem edits_filter (before endpoints : List Endpoint) :
    Relation.ReflTransGen Edit (before ++ endpoints) (before ++ endpoints.filter isSupported) := by
  induction endpoints generalizing before with
  | nil => exact .refl
  | cons e endpoints ih =>
      cases he : isSupported e with
      | true =>
          rw [List.filter_cons_of_pos he]
          simpa using ih (before ++ [e])
      | false =>
          rw [List.filter_cons_of_neg (by simp [he])]
          exact .head (.remove before endpoints he) (ih before)

/-- Edits lead from one list to another just when the supported endpoints are the same, in the same
order. -/
theorem edits_iff {es fs : List Endpoint} :
    Relation.ReflTransGen Edit es fs ↔ es.filter isSupported = fs.filter isSupported := by
  constructor
  · intro h
    induction h with
    | refl => rfl
    | tail _ hedit ih => exact ih.trans hedit.filter_eq
  · intro h
    have hdown : Relation.ReflTransGen Edit es (es.filter isSupported) := edits_filter [] es
    have hup : Relation.ReflTransGen Edit (fs.filter isSupported) fs :=
      symm (edits_filter [] fs)
    exact hdown.trans (h ▸ hup)

/-- **Endpoints without a handler leave no trace.**  The module of a specification is that of its
supported endpoints alone, also in that it cannot be rendered.  So it is the same for any two
specifications with the same supported endpoints in the same order, which are those that lead to
one another when endpoints without a handler are put in, taken out or put elsewhere.  Of the
supported endpoints each has its handler. -/
theorem render_eq_of_edits (typesModule : Option String) :
    (∀ endpoints, render endpoints typesModule =
      render (endpoints.filter isSupported) typesModule) ∧
    (∀ es fs : List Endpoint, es.filter isSupported = fs.filter isSupported →
      render es typesModule = render fs typesModule) ∧
    (∀ es fs : List Endpoint, Relation.ReflTransGen Edit es fs ↔
      es.filter isSupported = fs.filter isSupported) ∧
    ∀ endpoints document, render endpoints typesModule = .ok document →
      ∃ handlers, document = imports ++
          importLine (typesModule.filter (· ≠ "")) (endpoints.filter isSupported) ++ "\n" ++ banner ++
            "export const handlers = [\n" ++ ",\n\n".intercalate handlers ++ "\n]\n" ∧
        List.Forall₂ (fun e handler =>
          handler? e (localType? (typesModule.filter (· ≠ "")) e) = .ok (some handler))
          (endpoints.filter isSupported) handlers := by
  have hfilter := fun endpoints => (render_filter_isSupported endpoints typesModule).symm
  refine ⟨hfilter, ?_, fun es fs => edits_iff, ?_⟩
  · intro es fs hsame
    rw [hfilter es, hsame, ← hfilter fs]
  · intro endpoints document h
    rw [hfilter, render_eq_map] at h
    obtain ⟨handlers, hhandlers, rfl⟩ := map_eq_ok h
    obtain ⟨results, hresults, rfl⟩ := map_eq_ok hhandlers
    have hall : ∀ e ∈ endpoints.filter isSupported, isSupported e = true := by simp
    exact ⟨results.filterMap id, rfl, forall₂_handlers hall (mapM_eq_ok hresults)⟩

/-- Endpoints without a handler at both ends, with a request body and without, and two others. -/
def scatteredEndpoints : List Endpoint :=
  [⟨"HEAD", "/", .text "a", .null, 200⟩, ⟨"POST", "/", .text "a", .null, 201⟩,
    ⟨"GET", "/b", .null, .list [], 200⟩, ⟨"post", "/b", .text "a", .null, 200⟩]

/-- The endpoints of `scatteredEndpoints`, the ones without a handler put together. -/
def gatheredEndpoints : List Endpoint :=
  [⟨"POST", "/", .text "a", .null, 201⟩, ⟨"post", "/b", .text "a", .null, 200⟩,
    ⟨"HEAD", "/", .text "a", .null, 200⟩, ⟨"GET", "/b", .null, .list [], 200⟩]

/-- Both have one module, with two handlers and one import. -/
theorem render_eq_of_edits_scattered :
    scatteredEndpoints.filter isSupported = gatheredEndpoints.filter isSupported ∧
      Relation.ReflTransGen Edit scatteredEndpoints gatheredEndpoints ∧
      ∃ document, render scatteredEndpoints (some "./types") = .ok document ∧
        render gatheredEndpoints (some "./types") = .ok document ∧
        ∃ post get, document = imports ++
          "import type \x7b Request as ApiRequest \x7d from './types'\n\n" ++ banner ++
            "export const handlers = [\n" ++ ",\n\n".intercalate [post, get] ++ "\n]\n" := by
  have hsame : scatteredEndpoints.filter isSupported = gatheredEndpoints.filter isSupported := rfl
  obtain ⟨_, hrender, hedits, hhandlers⟩ := render_eq_of_edits (some "./types")
  have hok : (render scatteredEndpoints (some "./types")).isOk = true := by decide +kernel
  cases hdocument : render scatteredEndpoints (some "./types") with
  | error fault =>
      rw [hdocument] at hok
      cases hok
  | ok document =>
      refine ⟨hsame, (hedits _ _).mpr hsame, document, rfl, ?_, ?_⟩
      · rw [← hrender _ _ hsame, hdocument]
      · obtain ⟨handlers, htext, hall⟩ := hhandlers _ _ hdocument
        have hlength : handlers.length = 2 := hall.length_eq.symm
        obtain ⟨post, get, rfl⟩ := List.length_eq_two.mp hlength
        have himport : importLine (some "./types") (scatteredEndpoints.filter isSupported) =
            "import type \x7b Request as ApiRequest \x7d from './types'\n" := by decide +kernel
        have hfilter : (some "./types").filter (· ≠ "") = some "./types" := rfl
        rw [hfilter, himport] at htext
        exact ⟨post, get, by rw [htext]; rfl⟩

end MockScaffold.MocksModule
