import MockScaffold.Document.Artifacts
import MockScaffold.Proofs.Naming.Fragment
import MockScaffold.Proofs.TypeTable.Names

/-!
# Imported types are declared types

The module of mock handlers imports types from the module of types.  Which ones, it decides from the
endpoints; which types are declared, the table decides from them too, on its own.  The main
statement, `importedSpecifiers?_eq`, is that they agree: the import names the types of request
bodies that the table has, in the order of the table, and is left out where there are none.

Imports and table both keep first occurrences, the one of specifiers and the other of names.
Dropping the names of responses commutes with that, and so does writing names as specifiers, since
names can be told from their specifiers (`specifierOf_inj`), those without blanks among them.
-/

namespace MockScaffold.MocksModule

/-! ## Reading an import back -/

/-- The texts between commas, up to a closing brace; `done` holds the characters of the present one
so far, last one first. -/
def readSpecifiers (done : List Char) : List Char → List String
  | ',' :: ' ' :: rest => String.ofList done.reverse :: readSpecifiers [] rest
  | ' ' :: '\x7d' :: _ => [String.ofList done.reverse]
  | c :: rest => readSpecifiers (c :: done) rest
  | [] => []

/-- The start of the import of types. -/
def typeImport : String := "import type \x7b "

/-- What a module of mock handlers imports by its second import, if it has one. -/
def importedSpecifiers? (document : String) : Option (List String) :=
  ((imports ++ typeImport).toList.isPrefixOf? document.toList).map (readSpecifiers [])

/-- A text that the reader of imports takes whole, whatever follows. -/
def TakenWhole (cs : List Char) : Prop :=
  ∀ done rest, readSpecifiers done (cs ++ rest) = readSpecifiers (cs.reverse ++ done) rest

/-- What stands between two specifiers. -/
def comma : List Char := [',', ' ']

/-- Without a comma and a brace there is no end, as long as neither begins at the last character. -/
theorem readSpecifiers_append {cs : List Char} {c : Char} (hcomma : ¬ comma <:+: cs ++ [c])
    (hbrace : '\x7d' ∉ cs ++ [c]) (done rest : List Char) :
    readSpecifiers done (cs ++ c :: rest) = readSpecifiers (cs.reverse ++ done) (c :: rest) := by
  induction cs generalizing done with
  | nil => rfl
  | cons d cs ih =>
      obtain ⟨e, after, hafter⟩ := List.exists_cons_of_ne_nil (by simp : cs ++ [c] ≠ [])
      rw [List.cons_append] at hcomma hbrace
      have hnext : cs ++ c :: rest = e :: (after ++ rest) := by
        rw [List.append_cons, hafter, List.cons_append]
      have hend : d = ',' → e ≠ ' ' := by
        rintro rfl rfl
        exact hcomma ⟨[], after, by simp [comma, hafter]⟩
      have hclose : e ≠ '\x7d' := by
        rintro rfl
        exact hbrace (by simp [hafter])
      have hin : ¬ comma <:+: cs ++ [c] := fun h => hcomma (h.trans (List.suffix_cons d _).isInfix)
      rw [List.cons_append, readSpecifiers, ih hin fun h => hbrace (List.mem_cons_of_mem d h)]
      · simp
      · rintro tail hd htail
        rw [hnext] at htail
        exact hend hd (List.head_eq_of_cons_eq htail)
      · rintro tail _ htail
        rw [hnext] at htail
        exact hclose (List.head_eq_of_cons_eq htail)

/-- The ending of names of request bodies. -/
def requestEnding : List Char := ['R', 'e', 'q', 'u', 'e', 's', 't']

/-- The specifiers between the braces of an import are read back. -/
theorem readSpecifiers_intercalate {specifiers : List String} (hne : specifiers ≠ [])
    (h : ∀ s ∈ specifiers, TakenWhole s.toList) (rest : List Char) :
    readSpecifiers [] ((", ".intercalate specifiers).toList ++ ' ' :: '\x7d' :: rest) =
      specifiers := by
  induction specifiers with
  | nil => exact absurd rfl hne
  | cons s others ih =>
      obtain ⟨hs, hothers⟩ := List.forall_mem_cons.mp h
      cases others with
      | nil => simp [hs [], readSpecifiers]
      | cons t others =>
          rw [String.intercalate_cons_cons, String.toList_append, String.toList_append,
            List.append_assoc, List.append_assoc, hs [], List.append_nil]
          simpa [readSpecifiers] using ih (List.cons_ne_nil t others) hothers

/-! ## Names of request bodies -/

/-- Whether a name ends like that of a type of request bodies. -/
def endsInRequest (name : String) : Bool := requestEnding.isSuffixOf name.toList

/-- The specifier of a type of request bodies. -/
def specifierOf (name : String) : String :=
  if name = "Request" then "Request as ApiRequest" else name

/-- The name of a body is the fragment of its path with the ending of bodies. -/
theorem toList_requestName (path : String) :
    (Naming.requestName path).toList = (Naming.fragment path).toList ++ requestEnding := by
  simp [Naming.requestName, Naming.typeName, requestEnding]

/-- A path without blanks gives a name without blanks. -/
theorem space_not_mem_requestName {path : String} (h : ' ' ∉ path.toList) :
    ' ' ∉ (Naming.requestName path).toList := by
  rw [toList_requestName, List.mem_append]
  rintro (hmem | hmem)
  · exact Naming.space_not_mem_fragment h hmem
  · exact absurd hmem (by decide)

/-- So it ends as names of bodies do. -/
@[simp] theorem endsInRequest_requestName (path : String) :
    endsInRequest (Naming.requestName path) = true := by
  rw [endsInRequest, toList_requestName, List.isSuffixOf_iff_suffix]
  exact List.suffix_append _ _

/-- The name of a response cannot pass as one of a request body. -/
@[simp] theorem endsInRequest_responseName (path : String) :
    endsInRequest (Naming.responseName path) = false := by
  simp [endsInRequest, Naming.responseName, Naming.typeName, requestEnding, List.isSuffixOf,
    List.isPrefixOf]

/-- For the name of a body the import says what `specifierOf` says. -/
theorem specifier_ofName {name : String} (h : endsInRequest name = true) :
    (ImportedType.ofName name).specifier = specifierOf name := by
  have hresponse : name ≠ "Response" := fun heq => absurd (heq ▸ h) (by decide)
  by_cases hname : name = "Request"
  · subst hname
    decide
  · simp [ImportedType.ofName, ImportedType.specifier, takenNames, specifierOf, hname, hresponse]

/-- A name can be told from its specifier, unless it reads like that of another one. -/
theorem specifierOf_inj {m n : String} (hm : m ≠ "Request as ApiRequest")
    (hn : n ≠ "Request as ApiRequest") (h : specifierOf m = specifierOf n) : m = n := by
  unfold specifierOf at h
  split at h <;> split at h
  · next hm' hn' => rw [hm', hn']
  · exact absurd h.symm hn
  · exact absurd h hm
  · exact h

/-- The specifier of a name without commas is taken whole by the reader of imports. -/
theorem takenWhole_of_not_infix {path : String}
    (h : ¬ comma <:+: (Naming.requestName path).toList) :
    TakenWhole (specifierOf (Naming.requestName path)).toList := by
  unfold specifierOf
  split
  · intro done rest
    simp [readSpecifiers]
  · intro done rest
    rw [toList_requestName] at h ⊢
    have hstart : (Naming.fragment path).toList ++ ['R'] <+:
        (Naming.fragment path).toList ++ requestEnding :=
      (List.prefix_append_right_inj _).mpr ⟨['e', 'q', 'u', 'e', 's', 't'], rfl⟩
    have hbrace : '\x7d' ∉ (Naming.fragment path).toList ++ ['R'] := by
      simpa using Naming.closingBrace_not_mem_fragment path
    rw [List.append_assoc]
    refine (readSpecifiers_append (mt (·.trans hstart.isInfix) h) hbrace done _).trans ?_
    simp [readSpecifiers, requestEnding]

/-- So is that of a name whose path has no blanks. -/
theorem takenWhole_specifierOf {path : String} (h : ' ' ∉ path.toList) :
    TakenWhole (specifierOf (Naming.requestName path)).toList := by
  apply takenWhole_of_not_infix
  exact fun hcomma => space_not_mem_requestName h (hcomma.subset (by decide))

/-! ## Names in the table and specifiers in the import -/

/-- The names that the endpoints give to types of request bodies, one after the other. -/
def requestNames (endpoints : List Endpoint) : List String := endpoints.filterMap requestType?

/-- Every imported name comes from the path of an endpoint. -/
theorem exists_path_of_mem_requestNames {endpoints : List Endpoint} {name : String}
    (h : name ∈ requestNames endpoints) : ∃ e ∈ endpoints, name = Naming.requestName e.path := by
  obtain ⟨e, he, hname⟩ := List.mem_filterMap.mp h
  unfold requestType? at hname
  split at hname
  · exact ⟨e, he, (Option.some.inj hname).symm⟩
  · cases hname

/-- Of the types of an endpoint only that of a body ends as those of bodies do. -/
theorem filter_typeNames (e : Endpoint) :
    e.typeNames.filter endsInRequest = (requestType? e).toList := by
  unfold Endpoint.typeNames requestType?
  split <;> simp

/-- Of the names of a table, those of request bodies are the ones that the endpoints give. -/
theorem filter_names_ofEndpoints {policy : CollisionPolicy} {strategy : ArrayStrategy}
    {endpoints : List Endpoint} {t : TypeTable}
    (h : TypeTable.ofEndpoints policy strategy endpoints = .ok t) :
    t.names.filter endsInRequest = (requestNames endpoints).foldl insertNew [] := by
  have hnames : (endpoints.flatMap Endpoint.typeNames).filter endsInRequest =
      requestNames endpoints := by
    rw [List.filter_flatMap, requestNames, List.filterMap_eq_flatMap_toList]
    exact List.flatMap_congr fun e _ => filter_typeNames e
  rw [TypeTable.names_ofEndpoints h, filter_foldl_insertNew, hnames, List.filter_nil]

/-- The specifiers are those of the names of bodies, each once, in order. -/
theorem specifiers_eq_foldl (endpoints : List Endpoint) :
    specifiers endpoints = ((requestNames endpoints).map specifierOf).foldl insertNew [] := by
  unfold specifiers requestNames
  rw [List.map_filterMap]
  congr 1
  refine List.filterMap_congr fun e _ => ?_
  unfold requestType?
  split
  · simp [specifier_ofName]
  · rfl

/-- Specifiers are those of the names of request bodies, if these can be told from them. -/
theorem specifiers_eq_map_requestNames {endpoints : List Endpoint}
    (h : ∀ name ∈ requestNames endpoints, name ≠ "Request as ApiRequest") :
    specifiers endpoints = ((requestNames endpoints).foldl insertNew []).map specifierOf := by
  rw [specifiers_eq_foldl, map_foldl_insertNew, List.map_nil]
  intro m hm n hn
  rw [List.nil_append] at hm hn
  exact specifierOf_inj (h m hm) (h n hn)

/-- Specifiers are those of the names of the table, if no path has a blank. -/
theorem specifiers_eq_map {policy : CollisionPolicy} {strategy : ArrayStrategy}
    {endpoints : List Endpoint} {t : TypeTable} (hpaths : ∀ e ∈ endpoints, ' ' ∉ e.path.toList)
    (h : TypeTable.ofEndpoints policy strategy endpoints = .ok t) :
    specifiers endpoints = (t.names.filter endsInRequest).map specifierOf := by
  rw [filter_names_ofEndpoints h, specifiers_eq_map_requestNames]
  rintro name hname rfl
  obtain ⟨e, he, heq⟩ := exists_path_of_mem_requestNames hname
  exact space_not_mem_requestName (hpaths e he) (heq ▸ (by decide))

/-! ## The import in the document -/

/-- With nothing to import there is no line. -/
theorem importLine_of_eq_nil (source : Option String) {endpoints : List Endpoint}
    (h : specifiers endpoints = []) : importLine source endpoints = "" := by
  unfold importLine
  rw [h]
  cases source <;> rfl

/-- Otherwise the line lists the specifiers and names the module. -/
theorem importLine_of_ne_nil (source : String) {endpoints : List Endpoint}
    (h : specifiers endpoints ≠ []) :
    importLine (some source) endpoints =
      typeImport ++ ", ".intercalate (specifiers endpoints) ++ " \x7d" ++
        (" from " ++ Route.literal source ++ "\n") := by
  have hclose : " \x7d from " = " \x7d" ++ " from " := rfl
  unfold importLine
  split
  · next h => cases h
  · next h' _ => exact absurd h' h
  · next heq _ =>
      cases heq
      rw [hclose]
      simp only [typeImport, String.append_assoc]

/-- A document starts with the fixed import, the import of types if there is one, and an empty
line. -/
theorem exists_of_render_eq_ok {endpoints : List Endpoint} {source document : String}
    (hsource : source ≠ "") (h : render endpoints (some source) = .ok document) :
    ∃ rest, document = imports ++ importLine (some source) endpoints ++ "\n" ++ rest := by
  unfold render at h
  obtain ⟨handlers, _, h⟩ := bind_eq_ok h
  cases h
  have hfilter : (some source).filter (· ≠ "") = some source := by simp [hsource]
  rw [hfilter]
  exact ⟨banner ++ ("export const handlers = [\n" ++
    (",\n\n".intercalate (handlers.filterMap id) ++ "\n]\n")), by simp only [String.append_assoc]⟩

/-- A document without import of types is not read as one with it. -/
theorem importedSpecifiers?_none (rest : String) :
    importedSpecifiers? (imports ++ "\n" ++ rest) = none := by
  have hfeed :
      (imports ++ typeImport).toList.isPrefixOf? (imports ++ "\n" ++ rest).toList = none := by
    cases h : (imports ++ typeImport).toList.isPrefixOf? (imports ++ "\n" ++ rest).toList with
    | none => rfl
    | some tail =>
        have heq := Text.eq_append_of_isPrefixOf? h
        simp only [String.toList_append, List.append_assoc, List.append_cancel_left_eq] at heq
        simp [typeImport] at heq
  rw [importedSpecifiers?, hfeed, Option.map_none]

/-- Reading the line back gives the specifiers, if each is taken whole. -/
theorem importedSpecifiers?_some {names : List String} (hne : names ≠ [])
    (htaken : ∀ s ∈ names, TakenWhole s.toList) (rest : String) :
    importedSpecifiers? (imports ++ (typeImport ++ ", ".intercalate names ++ " \x7d" ++ rest)) =
      some names := by
  have hcut : (imports ++ (typeImport ++ ", ".intercalate names ++ " \x7d" ++ rest)).toList =
      (imports ++ typeImport).toList ++
        ((", ".intercalate names).toList ++ ' ' :: '\x7d' :: rest.toList) := by
    simp
  rw [importedSpecifiers?, hcut, Text.isPrefixOf?_append, Option.map_some,
    readSpecifiers_intercalate hne htaken]

/-- The import of a document is read back as the specifiers of the endpoints. -/
theorem importedSpecifiers?_render {endpoints : List Endpoint} {source document : String}
    (hsource : source ≠ "") (htaken : ∀ s ∈ specifiers endpoints, TakenWhole s.toList)
    (h : render endpoints (some source) = .ok document) :
    importedSpecifiers? document =
      if specifiers endpoints = [] then none else some (specifiers endpoints) := by
  obtain ⟨rest, rfl⟩ := exists_of_render_eq_ok hsource h
  split
  · next hnil =>
      rw [importLine_of_eq_nil _ hnil, String.append_empty, importedSpecifiers?_none]
  · next hne =>
      rw [importLine_of_ne_nil source hne]
      have hread := importedSpecifiers?_some hne htaken
        (" from " ++ Route.literal source ++ "\n" ++ ("\n" ++ rest))
      simpa only [String.append_assoc] using hread

end MockScaffold.MocksModule

namespace MockScaffold

/-- A specifier of a module starts with a point. -/
theorem head?_specifierOfNames (names : List (List Char)) :
    (specifierOfNames names).head? = some '.' := by
  unfold specifierOfNames
  split
  · rfl
  · dsimp only
    split
    · next h => exact h
    · rfl

/-- The specifier of a module is never empty, since it starts with a dot. -/
theorem importSpecifier?_ne_empty {workingDirectory : List (List Char)}
    {importer imported : FilePath} {s : String}
    (h : importSpecifier? workingDirectory importer imported = some s) : s ≠ "" := by
  unfold importSpecifier? at h
  split at h
  · cases h
  · intro hempty
    have hchars := congrArg String.toList (Option.some.inj h)
    rw [String.toList_ofList, hempty] at hchars
    have hhead := head?_specifierOfNames
      (namesBetween (walkText workingDirectory importer.parent.chars)
        (walkText workingDirectory (moduleStem imported.chars)))
    rw [hchars] at hhead
    cases hhead

namespace Artifacts

/-- So a module of types that is named has a name. -/
theorem typesModule_ne_empty {workingDirectory : Place} {config : Config} {source : String}
    (h : typesModule workingDirectory config = .ok source) : source ≠ "" := by
  unfold typesModule at h
  cases hs : importSpecifier? workingDirectory config.mocksPath config.typesPath with
  | none =>
      rw [hs] at h
      cases h
  | some s =>
      rw [hs] at h
      cases h
      exact importSpecifier?_ne_empty hs

open MocksModule

/-- **Import and declarations agree.**  If no path has a blank, the import of the mock handlers
names, in the order of the table and each once, the types of request bodies that the table has;
where it has none, there is no import. -/
theorem importedSpecifiers?_eq {workingDirectory : Place} {config : Config} {spec : Specification}
    {a : Artifacts} (hpaths : ∀ e ∈ spec.endpoints, ' ' ∉ e.path.toList)
    (h : generate workingDirectory config spec = .ok a) :
    importedSpecifiers? a.mocks =
        (if a.table.names.filter endsInRequest = [] then none
          else some ((a.table.names.filter endsInRequest).map specifierOf)) ∧
      ((a.table.names.filter endsInRequest).map specifierOf).Nodup := by
  obtain ⟨table, htable, h⟩ := bind_eq_ok h
  obtain ⟨source, hsource, h⟩ := bind_eq_ok h
  obtain ⟨mocks, hmocks, h⟩ := bind_eq_ok h
  cases h
  have hspecifiers := specifiers_eq_map hpaths (mapError_eq_ok htable)
  have htaken : ∀ s ∈ specifiers spec.endpoints, TakenWhole s.toList := by
    intro s hs
    rw [specifiers_eq_foldl, mem_foldl_insertNew] at hs
    obtain ⟨name, hname, rfl⟩ := List.mem_map.mp (hs.resolve_left List.not_mem_nil)
    obtain ⟨e, he, rfl⟩ := exists_path_of_mem_requestNames hname
    exact takenWhole_specifierOf (hpaths e he)
  have hread := importedSpecifiers?_render (typesModule_ne_empty hsource) htaken
    (mapError_eq_ok hmocks)
  constructor
  · simpa only [hspecifiers, List.map_eq_nil_iff] using hread
  · rw [← hspecifiers]
    exact nodup_foldl_insertNew List.nodup_nil _

/-- Two bodies of one name at the root of the interface, a body without type, and another one. -/
def rootBodies : Specification :=
  ⟨[⟨"POST", "/api/", .map [], .null, 200⟩, ⟨"GET", "/api/a", .map [], .null, 200⟩,
    ⟨"PATCH", "/api/b", .list [], .null, 200⟩, ⟨"PUT", "/api//", .text "", .null, 200⟩]⟩

/-- The later of two types of a name wins, and lists are inferred from all of their items. -/
def lastWinsConfig : Config :=
  ⟨.ofText "mocks.ts", .ofText "api.ts", .lastWins, .union, none⟩

/-- The import of `rootBodies` names the types `Request` and `BRequest`. -/
theorem importedSpecifiers?_rootBodies :
    (∀ e ∈ rootBodies.endpoints, ' ' ∉ e.path.toList) ∧
      ∃ a, generate [] lastWinsConfig rootBodies = .ok a ∧
        importedSpecifiers? a.mocks = some ["Request as ApiRequest", "BRequest"] := by
  have hpaths : ∀ e ∈ rootBodies.endpoints, ' ' ∉ e.path.toList := by decide
  have hnames : (generate [] lastWinsConfig rootBodies).toOption.map (·.table.names) =
      some ["Request", "Response", "AResponse", "BRequest", "BResponse"] := by decide +kernel
  cases h : generate [] lastWinsConfig rootBodies with
  | error f =>
      rw [h] at hnames
      cases hnames
  | ok a =>
      rw [h] at hnames
      have htable : a.table.names = ["Request", "Response", "AResponse", "BRequest", "BResponse"] :=
        Option.some.inj hnames
      refine ⟨hpaths, a, rfl, ?_⟩
      rw [(importedSpecifiers?_eq hpaths h).1, htable]
      decide

end Artifacts

end MockScaffold
