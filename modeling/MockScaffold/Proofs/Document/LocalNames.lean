import MockScaffold.Proofs.Document.Imports

/-!
# Local names of imported types

A handler casts the body of a request to the type of the request bodies of its endpoint, by the name
that the import gives to this type.  A type named `Request` is imported as `ApiRequest`, all others
under their own names; so two imports share a local name if a path of the empty fragment and one of
the fragment `Api` both have typed bodies.

The main statement is `nodup_localName_iff`, that this is the only such case.  It is about names
without the words that the import itself uses: a comma between two types, and `as` between a type
and its local name.
-/

namespace MockScaffold.MocksModule

/-! ## Reading a specifier -/

/-- What stands between a type and its local name. -/
def asWord : List Char := [' ', 'a', 's', ' ']

/-- A text cut at the first `as`. -/
def cutAtAs? : List Char → Option (List Char × List Char)
  | [] => none
  | c :: rest =>
    match asWord.isPrefixOf? (c :: rest) with
    | some after => some ([], after)
    | none => (cutAtAs? rest).map fun (before, after) => (c :: before, after)

/-- The import that a specifier stands for. -/
def ImportedType.ofSpecifier (specifier : String) : ImportedType :=
  match cutAtAs? specifier.toList with
  | some (name, localName) => ⟨String.ofList name, String.ofList localName⟩
  | none => ⟨specifier, specifier⟩

/-- The types that a module of mock handlers imports. -/
def importedTypes (document : String) : List ImportedType :=
  ((importedSpecifiers? document).getD []).map ImportedType.ofSpecifier

/-- Where the word `as` does not stand, nothing is cut. -/
theorem cutAtAs?_eq_none {cs : List Char} (h : ¬ asWord <:+: cs) : cutAtAs? cs = none := by
  induction cs with
  | nil => rfl
  | cons c rest ih =>
      have hrest : ¬ asWord <:+: rest := fun hin => h (hin.trans (List.suffix_cons c rest).isInfix)
      have hstart : asWord.isPrefixOf? (c :: rest) = none := by
        cases hcut : asWord.isPrefixOf? (c :: rest) with
        | none => rfl
        | some after => exact absurd ⟨[], after, (Text.eq_append_of_isPrefixOf? hcut).symm⟩ h
      rw [cutAtAs?, hstart, ih hrest]
      rfl

/-- Names that have no meaning of their own inside an import. -/
def IsLegible (name : String) : Prop := ¬ comma <:+: name.toList ∧ ¬ asWord <:+: name.toList

/-- A name that can be read back is not that of the renamed import. -/
theorem IsLegible.ne_specifier {name : String} (h : IsLegible name) :
    name ≠ "Request as ApiRequest" := by
  rintro rfl
  exact h.2 ⟨"Request".toList, "ApiRequest".toList, by decide⟩

/-- A specifier is read as the import that it was written for. -/
theorem ofSpecifier_specifierOf {name : String} (hend : endsInRequest name = true)
    (hlegible : IsLegible name) :
    ImportedType.ofSpecifier (specifierOf name) = ImportedType.ofName name := by
  have hresponse : name ≠ "Response" := fun heq => absurd (heq ▸ hend) (by decide)
  by_cases hname : name = "Request"
  · subst hname
    decide
  · have hcut := cutAtAs?_eq_none hlegible.2
    simp [ImportedType.ofSpecifier, ImportedType.ofName, specifierOf, takenNames, hcut, hname,
      hresponse]

variable {endpoints : List Endpoint} {source document : String}

/-- All names of bodies end as they do. -/
theorem endsInRequest_of_mem_requestNames {name : String} (h : name ∈ requestNames endpoints) :
    endsInRequest name = true := by
  obtain ⟨e, _, rfl⟩ := exists_path_of_mem_requestNames h
  exact endsInRequest_requestName e.path

/-- The types that a document imports are those of the request bodies of its endpoints. -/
theorem importedTypes_eq (hsource : source ≠ "")
    (hlegible : ∀ name ∈ requestNames endpoints, IsLegible name)
    (h : render endpoints (some source) = .ok document) :
    importedTypes document = (requestNames endpoints).eraseDups.map ImportedType.ofName := by
  have hspecifiers : specifiers endpoints = (requestNames endpoints).eraseDups.map specifierOf := by
    rw [specifiers_eq_map_requestNames fun name hname => (hlegible name hname).ne_specifier,
      foldl_insertNew_nil]
  have htaken : ∀ s ∈ specifiers endpoints, TakenWhole s.toList := by
    intro s hs
    rw [hspecifiers] at hs
    obtain ⟨name, hname, rfl⟩ := List.mem_map.mp hs
    rw [List.mem_eraseDups] at hname
    obtain ⟨e, _, rfl⟩ := exists_path_of_mem_requestNames hname
    exact takenWhole_of_not_infix (hlegible _ hname).1
  have hread : (importedSpecifiers? document).getD [] = specifiers endpoints := by
    rw [importedSpecifiers?_render hsource htaken h]
    split
    · next hnil => rw [hnil]; rfl
    · rfl
  rw [importedTypes, hread, hspecifiers, List.map_map]
  refine List.map_congr_left fun name hname => ?_
  rw [List.mem_eraseDups] at hname
  exact ofSpecifier_specifierOf (endsInRequest_of_mem_requestNames hname) (hlegible name hname)

/-! ## Shared local names -/

/-- An import is made of the name and the local name. -/
theorem mk_localName_ofName (name : String) :
    ⟨name, (ImportedType.ofName name).localName⟩ = ImportedType.ofName name := rfl

/-- Only the name `Request` is changed for use in the document. -/
theorem localName_ofName {name : String} (hend : endsInRequest name = true) :
    (ImportedType.ofName name).localName = if name = "Request" then "ApiRequest" else name := by
  have hresponse : name ≠ "Response" := fun heq => absurd (heq ▸ hend) (by decide)
  by_cases hname : name = "Request"
  · subst hname
    decide
  · simp [ImportedType.ofName, takenNames, hname, hresponse]

/-- Two types share a local name only if one has the name that the other one is given. -/
theorem eq_or_of_localName_eq {m n : String} (hm : endsInRequest m = true)
    (hn : endsInRequest n = true)
    (h : (ImportedType.ofName m).localName = (ImportedType.ofName n).localName) :
    m = n ∨ m = "Request" ∧ n = "ApiRequest" ∨ m = "ApiRequest" ∧ n = "Request" := by
  rw [localName_ofName hm, localName_ofName hn] at h
  split at h <;> split at h
  · next hm' hn' => exact Or.inl (hm'.trans hn'.symm)
  · next hm' _ => exact Or.inr (Or.inl ⟨hm', h.symm⟩)
  · next _ hn' => exact Or.inr (Or.inr ⟨h, hn'⟩)
  · exact Or.inl h

/-- Whether the local name of `Request` is the name of another type. -/
def IsAliasTaken (names : List String) : Prop := "Request" ∈ names ∧ "ApiRequest" ∈ names

/-- A type has its local name to itself unless that is so and this is the name. -/
theorem forall_localName_eq_iff {names : List String}
    (hend : ∀ name ∈ names, endsInRequest name = true) {n : String} (hn : n ∈ names) :
    (∀ m ∈ names, (ImportedType.ofName m).localName = (ImportedType.ofName n).localName → m = n) ↔
      ¬ ((ImportedType.ofName n).localName = "ApiRequest" ∧ IsAliasTaken names) := by
  constructor
  · rintro honly ⟨hlocal, hrequest, halias⟩
    have hleft : "Request" = n := honly _ hrequest (by rw [hlocal]; decide)
    have hright : "ApiRequest" = n := honly _ halias (by rw [hlocal]; decide)
    exact absurd (hleft.trans hright.symm) (by decide)
  · intro hfree m hm heq
    rcases eq_or_of_localName_eq (hend m hm) (hend n hn) heq with h | ⟨rfl, rfl⟩ | ⟨rfl, rfl⟩
    · exact h
    · exact absurd ⟨by decide, hm, hn⟩ hfree
    · exact absurd ⟨by decide, hn, hm⟩ hfree

/-- Local names are told apart unless that is so. -/
theorem nodup_map_localName_iff {names : List String} (hnodup : names.Nodup)
    (hend : ∀ name ∈ names, endsInRequest name = true) :
    (names.map fun name => (ImportedType.ofName name).localName).Nodup ↔ ¬ IsAliasTaken names := by
  rw [List.nodup_map_iff_inj_on hnodup]
  constructor
  · intro hinj htaken
    have honly := fun m hm => hinj m hm "ApiRequest" htaken.2
    exact (forall_localName_eq_iff hend htaken.2).mp honly ⟨by decide, htaken⟩
  · intro hfree m hm n hn
    exact (forall_localName_eq_iff hend hn).mpr (fun h => hfree h.2) m hm

/-! ## Casts -/

/-- The document has a handler of the endpoint that casts request bodies to the type of a name. -/
def CastsBody (document : String) (e : Endpoint) (name : String) : Prop :=
  ∃ before verb after, e.verb? = some verb ∧
    document = before ++ (comment e ++ "\n" ++
      opening verb (Route.ofPath e.path) "async (\x7b params, request \x7d)" ++ "\n" ++
      "    const body = await request.json() as " ++ name ++ "\n" ++ after)

/-- A cast to a named type is written with the name. -/
theorem cast_some {name : String} (hname : name ≠ "") : cast (some name) = " as " ++ name := by
  unfold cast
  split
  · next h => cases h
  · next h => exact absurd (Option.some.inj h) hname
  · next h => rw [Option.some.inj h]

/-- The handler of a verb that takes a body reads it in its second line. -/
theorem exists_handlerLines_of_takesBody {verb : Verb} (hverb : verb.takesBody = true)
    {e : Endpoint} (hbody : e.hasRequestBody = true) {requestType : Option String}
    {lines : List String} (h : handlerLines verb e requestType = .ok lines) :
    ∃ answer, lines = opening verb (Route.ofPath e.path) "async (\x7b params, request \x7d)" ::
      ("    const body = await request.json()" ++ cast requestType) :: (answer ++ ["  \x7d)"]) := by
  cases verb with
  | get => cases hverb
  | delete => cases hverb
  | _ =>
      obtain ⟨answer, _, h⟩ := bind_eq_ok h
      cases h
      rw [if_pos hbody]
      exact ⟨answer, rfl⟩

/-- The handler of an endpoint with a typed body casts the body to the type that it is given. -/
theorem exists_handler_of_hasTypedBody {e : Endpoint} (he : e.hasTypedBody = true) {name : String}
    (hname : name ≠ "") {handler : Option String} (h : handler? e (some name) = .ok handler) :
    ∃ verb rest, e.verb? = some verb ∧ handler = some (comment e ++ "\n" ++
      opening verb (Route.ofPath e.path) "async (\x7b params, request \x7d)" ++ "\n" ++
      "    const body = await request.json() as " ++ name ++ "\n" ++ rest) := by
  rw [Endpoint.hasTypedBody, Bool.and_eq_true, Endpoint.acceptsBody, Option.any_eq_true] at he
  obtain ⟨⟨verb, hverb, htakes⟩, hbody⟩ := he
  rw [handler?, hverb] at h
  obtain ⟨lines, hlines, rfl⟩ := map_eq_ok h
  obtain ⟨answer, rfl⟩ := exists_handlerLines_of_takesBody htakes hbody hlines
  obtain ⟨line, others, hrest⟩ := List.exists_cons_of_ne_nil (by simp : answer ++ ["  \x7d)"] ≠ [])
  refine ⟨verb, "\n".intercalate (line :: others), hverb, ?_⟩
  have hcast : "    const body = await request.json()" ++ cast (some name) =
      "    const body = await request.json() as " ++ name := by
    rw [cast_some hname, ← String.append_assoc]
    rfl
  rw [hcast, hrest, String.intercalate_cons_cons, String.intercalate_cons_cons,
    String.intercalate_cons_cons]
  simp only [String.append_assoc]

/-- No name becomes empty. -/
theorem localName_ne_empty {name : String} (hend : endsInRequest name = true) :
    (ImportedType.ofName name).localName ≠ "" := by
  rw [localName_ofName hend]
  split
  · decide
  · rintro rfl
    exact absurd hend (by decide)

/-- In a document every endpoint with a typed body has a handler that casts the body to its local
type. -/
theorem castsBody_render (hsource : source ≠ "") (h : render endpoints (some source) = .ok document)
    {e : Endpoint} (he : e ∈ endpoints) (hbody : e.hasTypedBody = true) :
    CastsBody document e (ImportedType.ofName (Naming.requestName e.path)).localName := by
  unfold render at h
  obtain ⟨handlers, hhandlers, h⟩ := bind_eq_ok h
  cases h
  obtain ⟨handler, hmem, hhandler⟩ := exists_mem_eq_ok_of_mem hhandlers he
  have hlocal : localType? ((some source).filter (· ≠ "")) e =
      some (ImportedType.ofName (Naming.requestName e.path)).localName := by
    simp [localType?, requestType?, hbody, hsource]
  rw [hlocal] at hhandler
  obtain ⟨verb, rest, hverb, rfl⟩ :=
    exists_handler_of_hasTypedBody hbody (localName_ne_empty (endsInRequest_requestName _)) hhandler
  have hpart := (List.mem_filterMap (f := id)).mpr ⟨_, hmem, rfl⟩
  obtain ⟨before, after, hjoined⟩ := Text.exists_intercalate_eq_of_mem ",\n\n" hpart
  rw [hjoined]
  refine ⟨imports ++ importLine ((some source).filter (· ≠ "")) endpoints ++ "\n" ++ banner ++
    "export const handlers = [\n" ++ before, verb, rest ++ (after ++ "\n]\n"), hverb, ?_⟩
  simp only [String.append_assoc]

/-! ## The import of a document -/

/-- **Local names.**  Let no name of a request body have a meaning of its own inside an import.
Then the local names that a document imports differ, unless both `Request` and `ApiRequest` are
types of request bodies.  Every endpoint with a typed body has a handler that casts the body to a
local name under which its own type is imported; and no other type is imported under that name,
unless it is `ApiRequest` and both are. -/
theorem nodup_localName_iff (hsource : source ≠ "")
    (hlegible : ∀ name ∈ requestNames endpoints, IsLegible name)
    (h : render endpoints (some source) = .ok document) :
    (((importedTypes document).map (·.localName)).Nodup ↔
        ¬ IsAliasTaken (requestNames endpoints)) ∧
      ∀ e ∈ endpoints, e.hasTypedBody = true → ∃ localName, CastsBody document e localName ∧
        ⟨Naming.requestName e.path, localName⟩ ∈ importedTypes document ∧
        ((∀ i ∈ importedTypes document, i.localName = localName →
            i.name = Naming.requestName e.path) ↔
          ¬ (localName = "ApiRequest" ∧ IsAliasTaken (requestNames endpoints))) := by
  have htypes := importedTypes_eq hsource hlegible h
  have hend : ∀ name ∈ requestNames endpoints, endsInRequest name = true :=
    fun name => endsInRequest_of_mem_requestNames
  constructor
  · have hnodup : (requestNames endpoints).eraseDups.Nodup := by
      rw [← foldl_insertNew_nil]
      exact nodup_foldl_insertNew List.nodup_nil _
    have hiff := nodup_map_localName_iff hnodup fun name hname =>
      hend name (List.mem_eraseDups.mp hname)
    rw [htypes, List.map_map]
    simpa only [IsAliasTaken, List.mem_eraseDups, Function.comp_def] using hiff
  · intro e he hbody
    have hname : Naming.requestName e.path ∈ requestNames endpoints :=
      List.mem_filterMap.mpr ⟨e, he, if_pos hbody⟩
    refine ⟨_, castsBody_render hsource h he hbody, ?_, ?_⟩
    · rw [htypes, mk_localName_ofName]
      exact List.mem_map_of_mem (List.mem_eraseDups.mpr hname)
    · rw [← forall_localName_eq_iff hend hname, htypes]
      simp only [List.mem_map, List.mem_eraseDups, forall_exists_index, and_imp,
        forall_apply_eq_imp_iff₂]
      rfl

/-- A body of the type `Request`, one of the type `BRequest` and one of no type. -/
def bodiesAtRoot : List Endpoint :=
  [⟨"POST", "/", .scalar (.int 1), .null, 200⟩, ⟨"PATCH", "/b", .text "a", .null, 200⟩,
    ⟨"GET", "/api", .text "a", .null, 200⟩]

/-- The handlers of `bodiesAtRoot` import types under different names, and that of the root casts
its body to the type `Request` under its local name. -/
theorem nodup_localName_bodiesAtRoot :
    ∃ document, render bodiesAtRoot (some "./types") = .ok document ∧
      ((importedTypes document).map (·.localName)).Nodup ∧
      ∃ localName, CastsBody document ⟨"POST", "/", .scalar (.int 1), .null, 200⟩ localName ∧
        ⟨Naming.requestName "/", localName⟩ ∈ importedTypes document ∧
        ∀ i ∈ importedTypes document, i.localName = localName → i.name = Naming.requestName "/" := by
  have hnames : requestNames bodiesAtRoot = ["Request", "BRequest"] := by decide +kernel
  have hlegible : ∀ name ∈ requestNames bodiesAtRoot, IsLegible name := by
    rw [hnames]
    unfold IsLegible
    decide +kernel
  have hfree : ¬ IsAliasTaken (requestNames bodiesAtRoot) := by
    simp [hnames, IsAliasTaken]
  have hok : (render bodiesAtRoot (some "./types")).isOk = true := by decide +kernel
  cases h : render bodiesAtRoot (some "./types") with
  | error f =>
      rw [h] at hok
      cases hok
  | ok document =>
      obtain ⟨hnodup, hcasts⟩ := nodup_localName_iff (by decide) hlegible h
      obtain ⟨localName, hcast, htype, honly⟩ :=
        hcasts ⟨"POST", "/", .scalar (.int 1), .null, 200⟩ (by simp [bodiesAtRoot]) (by decide)
      exact ⟨document, rfl, hnodup.mpr hfree, localName, hcast, htype,
        honly.mpr fun hlocal => hfree hlocal.2⟩

/-- Two typed bodies, of the empty fragment and of the fragment `Api`. -/
def bodiesAtRootAndApi : List Endpoint :=
  [⟨"POST", "/", .scalar (.int 1), .null, 200⟩, ⟨"POST", "/api", .text "a", .null, 200⟩]

/-- Both types are imported as `ApiRequest`, and both handlers cast to this name. -/
theorem not_nodup_localName_bodiesAtRootAndApi :
    ∃ document, render bodiesAtRootAndApi (some "./types") = .ok document ∧
      importedTypes document = [⟨"Request", "ApiRequest"⟩, ⟨"ApiRequest", "ApiRequest"⟩] ∧
      ¬ ((importedTypes document).map (·.localName)).Nodup ∧
      ∀ e ∈ bodiesAtRootAndApi, CastsBody document e "ApiRequest" := by
  have hnames : requestNames bodiesAtRootAndApi = ["Request", "ApiRequest"] := by decide +kernel
  have hlegible : ∀ name ∈ requestNames bodiesAtRootAndApi, IsLegible name := by
    rw [hnames]
    unfold IsLegible
    decide +kernel
  have hlocal : ∀ e ∈ bodiesAtRootAndApi, e.hasTypedBody = true ∧
      (ImportedType.ofName (Naming.requestName e.path)).localName = "ApiRequest" := by
    decide +kernel
  have hok : (render bodiesAtRootAndApi (some "./types")).isOk = true := by decide +kernel
  have hsource : "./types" ≠ "" := by decide
  cases h : render bodiesAtRootAndApi (some "./types") with
  | error f =>
      rw [h] at hok
      cases hok
  | ok document =>
      have htypes : importedTypes document =
          [⟨"Request", "ApiRequest"⟩, ⟨"ApiRequest", "ApiRequest"⟩] := by
        rw [importedTypes_eq hsource hlegible h, hnames]
        decide
      refine ⟨document, rfl, htypes, ?_, ?_⟩
      · rw [htypes]
        decide
      · intro e he
        obtain ⟨hbody, hname⟩ := hlocal e he
        exact hname ▸ castsBody_render hsource h he hbody

end MockScaffold.MocksModule
