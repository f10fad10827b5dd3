import MockScaffold.Document.TypesModule
import MockScaffold.Proofs.Naming.Fragment
import MockScaffold.Proofs.Shape.Unambiguity
import MockScaffold.Proofs.Json.ReadBack
import MockScaffold.Proofs.Text.LineStarts
import MockScaffold.Proofs.TypeTable.Bindings

/-!
# Declarations start lines of their own

Names of fields come from samples and may be any text.  In a type expression they are written so
that no further line of it starts like a declaration: after a line feed comes a blank, a brace or a
colon (`Shape.LaidOut.continued`).  Hence the lines of the module of types that start with `export `
are the first lines of its declarations, one for each entry of the table, and that of the interface
of endpoints (`TypesModule.exists_exportLines_render`).  Their names differ
(`TypesModule.nodup_declaredNames`).
-/

namespace MockScaffold

open Text

/-! ## Type expressions over several lines -/

namespace Shape

/-- How the lines of a type expression start, but for the first. -/
def expressionStarts : List (List Char) := [[' '], ['\x7d'], [':']]

/-- A bare name may end with a line feed, and then the colon after it starts a line. -/
theorem continued_propertyName (name : String) {rest : List Char}
    (h : Continued expressionStarts rest) :
    Continued expressionStarts ((propertyName name).toList ++ ':' :: rest) := by
  have hcolon : Continued expressionStarts (':' :: rest) := continued_cons (by decide) h
  unfold propertyName
  split
  · next hbare =>
      rcases isBareName_iff.mp hbare with hname | ⟨stem, hstem, rfl⟩
      · exact (continued_of_not_mem (newline_not_mem_of_isIdentifier hname)).append hcolon
      · rw [String.toList_append, List.append_assoc]
        exact (continued_of_not_mem (newline_not_mem_of_isIdentifier hstem)).append
          (continued_newline (by simp [expressionStarts] : [':'] ∈ _) ⟨rest, rfl⟩ hcolon)
  · exact (continued_of_not_mem (Json.newline_not_mem_quote name)).append hcolon

/-- Spaces and what comes after them start with a space, or with that. -/
theorem exists_prefix_spaces_append (d : Int) {c : Char} (hc : [c] ∈ expressionStarts)
    (rest : List Char) :
    ∃ start ∈ expressionStarts, start <+: (spaces d).toList ++ c :: rest := by
  cases hspaces : (spaces d).toList with
  | nil => exact ⟨[c], hc, rest, rfl⟩
  | cons first others =>
      have hfirst : first = ' ' := by
        have hmem : first ∈ (spaces d).toList := hspaces ▸ List.mem_cons_self
        rw [spaces, String.toList_ofList] at hmem
        exact List.eq_of_mem_replicate hmem
      exact ⟨[' '], by simp [expressionStarts], others ++ c :: rest, by rw [hfirst]; rfl⟩

/-- The lines of fields are continued, up to the brace that closes them. -/
theorem continued_fields (d : Int) {fields : List (String × Shape)}
    (h : ∀ f ∈ fields, Continued expressionStarts f.2.render.toList) :
    Continued expressionStarts
      ('\n' :: (fields.flatMap (fieldText d) ++ ((spaces d).toList ++ ['\x7d']))) := by
  have hspaces : Continued expressionStarts (spaces d).toList :=
    continued_of_not_mem (newline_not_mem_spaces d)
  induction fields with
  | nil =>
      exact .cons (fun _ => exists_prefix_spaces_append d (by simp [expressionStarts]) [])
        (hspaces.append (continued_of_not_mem (by decide)))
  | cons f rest ih =>
      obtain ⟨hf, hrest⟩ := List.forall_mem_cons.mp h
      have hvalue := hf.append (ih hrest)
      have hfield := continued_propertyName f.1 (continued_cons (by decide : ' ' ≠ '\n') hvalue)
      have hline := hspaces.append (continued_cons (by decide : ' ' ≠ '\n')
        (continued_cons (by decide : ' ' ≠ '\n') hfield))
      have hstart := exists_prefix_spaces_append d (by simp [expressionStarts] : [' '] ∈ _)
        (' ' :: ((propertyName f.1).toList ++ ':' :: ' ' :: (f.2.render.toList ++
          '\n' :: (rest.flatMap (fieldText d) ++ ((spaces d).toList ++ ['\x7d'])))))
      have htext : (f :: rest).flatMap (fieldText d) ++ ((spaces d).toList ++ ['\x7d']) =
          (spaces d).toList ++ ' ' :: ' ' :: ((propertyName f.1).toList ++ ':' :: ' ' ::
            (f.2.render.toList ++
              '\n' :: (rest.flatMap (fieldText d) ++ ((spaces d).toList ++ ['\x7d'])))) := by
        simp [fieldText]
      rw [htext]
      exact .cons (fun _ => hstart) hline

/-- Parentheses around a type start no line of their own. -/
theorem continued_memberText {m : Shape} (h : Continued expressionStarts m.render.toList) :
    Continued expressionStarts (memberText m) :=
  continued_cons (by decide) (continued_cons (by decide) (continued_cons (by decide) h))

/-- **Type expressions are continued.**  Whatever the names of its fields, every line of a type
expression but the first starts with a blank, a closing brace or a colon. -/
theorem LaidOut.continued {d : Int} {s : Shape} (hs : LaidOut d s) :
    Continued expressionStarts s.render.toList := by
  have hclose : Continued expressionStarts [')', '[', ']'] := continued_of_not_mem (by decide)
  induction hs with
  | word hw =>
      rw [toList_render_word hw]
      unfold word? at hw
      split at hw <;> cases hw <;> exact continued_of_not_mem (by decide)
  | list _ hunknown hobject ih =>
      rw [toList_render_list hunknown hobject]
      exact continued_cons (by decide) (ih.append hclose)
  | @choice d first second rest _ ih =>
      have hbar : Continued expressionStarts ((second :: rest).flatMap memberText) :=
        continued_flatMap fun m hm => continued_memberText (ih m (List.mem_cons_of_mem _ hm))
      rw [toList_render_choice]
      exact continued_cons (by decide)
        (((ih first List.mem_cons_self).append hbar).append hclose)
  | rows _ hobject ih =>
      rw [toList_render_rows hobject]
      exact ih.append (continued_of_not_mem (by decide))
  | object hne _ ih =>
      rw [toList_render_object _ hne]
      exact continued_cons (by decide) (continued_fields _ ih)

end Shape

/-! ## The document -/

namespace TypesModule

/-- How the lines start that declare something. -/
def exportWord : List Char := ['e', 'x', 'p', 'o', 'r', 't', ' ']

/-- The lines of a text that declare something. -/
def exportLines (cs : List Char) : List (List Char) :=
  (lines cs).filter (exportWord.isPrefixOf ·)

/-- A line opens the declaration of a name, as an interface or as an alias. -/
def Opens (line : List Char) (name : String) : Prop :=
  ("export interface " ++ name ++ " ").toList <+: line ∨
    ("export type " ++ name ++ " = ").toList <+: line

/-- Among lines chosen by how they start, the first is kept if it starts so. -/
theorem filter_isPrefixOf_cons {start line : List Char} (h : start <+: line)
    (rest : List (List Char)) :
    (line :: rest).filter (start.isPrefixOf ·) = line :: rest.filter (start.isPrefixOf ·) :=
  List.filter_cons_of_pos (List.isPrefixOf_iff_prefix.mpr h)

/-- None is kept if none starts so. -/
theorem filter_isPrefixOf_eq_nil {start : List Char} {ls : List (List Char)}
    (h : ∀ line ∈ ls, ¬ start <+: line) : ls.filter (start.isPrefixOf ·) = [] :=
  List.filter_eq_nil_iff.mpr fun line hline hstart =>
    h line hline (List.isPrefixOf_iff_prefix.mp hstart)

/-- A text whose first line alone declares something. -/
theorem exportLines_append_of_lines_eq {cs first : List Char} {rest : List (List Char)}
    (hlines : lines cs = first :: rest) (hfirst : exportWord <+: first)
    (hrest : ∀ line ∈ rest, ¬ exportWord <+: line) (ds : List Char) :
    exportLines (cs ++ '\n' :: ds) = first :: exportLines ds := by
  rw [exportLines, lines_append, hlines, List.cons_append, filter_isPrefixOf_cons hfirst,
    List.filter_append, filter_isPrefixOf_eq_nil hrest, List.nil_append]
  rfl

/-- A line that declares nothing. -/
theorem exportLines_append_plain {line : List Char} (hline : '\n' ∉ line)
    (hstart : ¬ exportWord <+: line) (ds : List Char) :
    exportLines (line ++ '\n' :: ds) = exportLines ds := by
  rw [exportLines, lines_append_of_not_mem hline, List.filter_cons_of_neg]
  · rfl
  · rwa [List.isPrefixOf_iff_prefix]

/-- **A declaration opens with its first line.**  No further line of it opens another one. -/
theorem exists_exportLines_declaration {name : String} {s : Shape} (hname : '\n' ∉ name.toList)
    (hs : s.LaidOut 0) (ds : List Char) :
    ∃ line, Opens line name ∧
      exportLines ((declaration name s).toList ++ '\n' :: ds) = line :: exportLines ds := by
  have hopen (opening : List Char) (hfeed : '\n' ∉ opening) (hexport : exportWord <+: opening) :
      ∃ line, opening <+: line ∧
        exportLines (opening ++ s.render.toList ++ '\n' :: '\n' :: ds) =
          line :: exportLines ds := by
    obtain ⟨first, rest, hlines, hfirst, hrest⟩ :=
      ((continued_of_not_mem hfeed).append hs.continued).exists_first_line (by decide) hfeed
        (List.prefix_append _ _) (by decide : ∀ start ∈ Shape.expressionStarts,
          ¬ start <+: exportWord ∧ ¬ exportWord <+: start)
    refine ⟨first, hfirst, ?_⟩
    rw [exportLines_append_of_lines_eq hlines (hexport.trans hfirst) hrest,
      ← List.nil_append ('\n' :: ds),
      exportLines_append_plain List.not_mem_nil (by decide)]
  unfold declaration
  split
  · obtain ⟨line, hline, heq⟩ := hopen ("export interface " ++ name ++ " ").toList
      (by simp [hname]) ⟨"interface ".toList ++ name.toList ++ " ".toList, by simp [exportWord]⟩
    exact ⟨line, .inl hline, by simpa using heq⟩
  · obtain ⟨line, hline, heq⟩ := hopen ("export type " ++ name ++ " = ").toList
      (by simp [hname]) ⟨"type ".toList ++ name.toList ++ " = ".toList, by simp [exportWord]⟩
    exact ⟨line, .inr hline, by simpa using heq⟩

/-- Every entry of a table has its line, in the order of the entries. -/
theorem exists_exportLines_entries {entries : List (String × Shape)}
    (h : ∀ e ∈ entries, '\n' ∉ e.1.toList ∧ e.2.LaidOut 0) (ds : List Char) :
    ∃ declared, List.Forall₂ Opens declared (entries.map (·.1)) ∧
      exportLines (entries.flatMap (fun e => (declaration e.1 e.2).toList ++ ['\n']) ++ ds) =
        declared ++ exportLines ds := by
  induction entries with
  | nil => exact ⟨[], .nil, rfl⟩
  | cons e rest ih =>
      obtain ⟨⟨hname, hs⟩, hrest⟩ := List.forall_mem_cons.mp h
      obtain ⟨declared, hdeclared, heq⟩ := ih hrest
      obtain ⟨line, hline, hfirst⟩ := exists_exportLines_declaration hname hs
        (rest.flatMap (fun e => (declaration e.1 e.2).toList ++ ['\n']) ++ ds)
      refine ⟨line :: declared, .cons hline hdeclared, ?_⟩
      rw [List.cons_append, ← heq, ← hfirst]
      simp

/-- The entry of an endpoint is one line, and it is indented. -/
theorem exists_endpointEntry_eq {e : Endpoint} (hmethod : '\n' ∉ e.method.toList)
    (hpath : '\n' ∉ e.path.toList) :
    ∃ line : List Char, (endpointEntry e).toList = ' ' :: line ++ ['\n'] ∧ '\n' ∉ line := by
  have hfunction := Naming.newline_not_mem_functionName hmethod hpath
  have hrequest := Naming.newline_not_mem_requestName hpath
  have hresponse := Naming.newline_not_mem_responseName hpath
  let argument := if e.hasRequestBody then "(body: " ++ Naming.requestName e.path ++ ")" else "()"
  have hargument : '\n' ∉ argument.toList := by
    unfold argument
    split
    · simpa using hrequest
    · decide
  refine ⟨(" " ++ Naming.functionName e.method e.path ++ ": " ++ argument ++ " => Promise<" ++
    Naming.responseName e.path ++ ">").toList, ?_, ?_⟩
  · simp [endpointEntry, argument]
  · simp [hfunction, hargument, hresponse]

/-- The entries of the endpoints declare nothing. -/
theorem exportLines_endpointEntries {endpoints : List Endpoint}
    (h : ∀ e ∈ endpoints, '\n' ∉ e.method.toList ∧ '\n' ∉ e.path.toList) (ds : List Char) :
    exportLines (endpoints.flatMap (fun e => (endpointEntry e).toList) ++ ds) = exportLines ds := by
  induction endpoints with
  | nil => rfl
  | cons e rest ih =>
      obtain ⟨⟨hmethod, hpath⟩, hrest⟩ := List.forall_mem_cons.mp h
      obtain ⟨line, heq, hline⟩ := exists_endpointEntry_eq hmethod hpath
      have hindented : ¬ exportWord <+: ' ' :: line :=
        prefix_exclusive (by decide) (⟨line, rfl⟩ : [' '] <+: ' ' :: line)
      rw [List.flatMap_cons, heq, List.append_assoc, List.append_assoc, List.singleton_append,
        exportLines_append_plain (by simpa using hline) hindented, ih hrest]

/-- **The declarations of a document.**  The lines that start like a declaration are one for each
entry of the table, in its order, and that of the interface of endpoints. -/
theorem exists_exportLines_render {table : TypeTable} {endpoints : List Endpoint}
    (htable : ∀ e ∈ table.entries, '\n' ∉ e.1.toList ∧ e.2.LaidOut 0)
    (hendpoints : ∀ e ∈ endpoints, '\n' ∉ e.method.toList ∧ '\n' ∉ e.path.toList) :
    ∃ declared, List.Forall₂ Opens declared table.names ∧
      exportLines (render table endpoints).toList =
        declared ++ ["export interface ApiEndpoints \x7b".toList] := by
  let bannerLine := "// Auto-generated TypeScript types from API specification".toList
  let commentLine := "// API function types".toList
  let openingLine := "export interface ApiEndpoints \x7b".toList
  let declarations := table.entries.flatMap fun e => (declaration e.1 e.2).toList ++ ['\n']
  let signatures := endpoints.flatMap fun e => (endpointEntry e).toList
  have hrender : (render table endpoints).toList = bannerLine ++ '\n' :: ([] ++ '\n' ::
      (declarations ++ (commentLine ++ '\n' :: (openingLine ++ '\n' ::
        (signatures ++ (['\x7d'] ++ '\n' :: [])))))) := by
    simp [render, banner, bannerLine, commentLine, openingLine, declarations, signatures,
      List.flatMap_map]
  have hlast : exportLines [] = [] := by decide
  obtain ⟨declared, hdeclared, hentries⟩ := exists_exportLines_entries htable
    (commentLine ++ '\n' :: (openingLine ++ '\n' :: (signatures ++ (['\x7d'] ++ '\n' :: []))))
  refine ⟨declared, hdeclared, ?_⟩
  rw [hrender, exportLines_append_plain (by decide) (by decide),
    exportLines_append_plain (by decide) (by decide), hentries,
    exportLines_append_plain (by decide) (by decide),
    exportLines_append_of_lines_eq (lines_of_not_mem (by decide)) (by decide)
      (fun _ h => absurd h List.not_mem_nil),
    exportLines_endpointEntries hendpoints,
    exportLines_append_plain (by decide) (by decide), hlast]

/-! ## The table of endpoints -/

section

variable {policy : CollisionPolicy} {strategy : ArrayStrategy} {endpoints : List Endpoint}
  {table : TypeTable}

/-- Whatever the samples are, the names of a table are on one line and its types are laid out. -/
theorem entries_ofEndpoints (hpaths : ∀ e ∈ endpoints, '\n' ∉ e.path.toList)
    (h : TypeTable.ofEndpoints policy strategy endpoints = .ok table) :
    ∀ e ∈ table.entries, '\n' ∉ e.1.toList ∧ e.2.LaidOut 0 := by
  intro e he
  obtain ⟨v, hv, hshape⟩ := TypeTable.exists_of_mem_entries h he
  obtain ⟨e', he', hname⟩ := exists_path_of_mem_namedSamples hv
  constructor
  · rcases hname with hname | hname <;> rw [hname]
    · exact Naming.newline_not_mem_requestName (hpaths e' he')
    · exact Naming.newline_not_mem_responseName (hpaths e' he')
  · rw [hshape]
    exact Shape.laidOut_infer strategy 0 v

/-- The last letters of a derived name keep it apart from that of the table of endpoints. -/
theorem typeName_ne_apiEndpoints {path suffix : String}
    (hsuffix : suffix = "Request" ∨ suffix = "Response") :
    Naming.typeName path suffix ≠ "ApiEndpoints" := by
  intro h
  have hlast := congrArg (fun s => s.toList.getLast?) h
  rcases hsuffix with rfl | rfl <;> simp [Naming.typeName] at hlast

/-- **Declared names differ.**  No type has the name of another one, nor that of the interface of
endpoints. -/
theorem nodup_declaredNames (h : TypeTable.ofEndpoints policy strategy endpoints = .ok table) :
    (table.names ++ ["ApiEndpoints"]).Nodup := by
  have hnames : table.names.Nodup := by
    rw [TypeTable.names_ofEndpoints h]
    exact MocksModule.nodup_foldl_insertNew List.nodup_nil _
  refine List.nodup_append.mpr ⟨hnames, List.nodup_singleton _, ?_⟩
  rintro name hname other hother rfl
  obtain rfl := List.mem_singleton.mp hother
  obtain ⟨e, _, hmem⟩ := (TypeTable.mem_names_ofEndpoints h).mp hname
  rcases Endpoint.mem_typeNames.mp hmem with ⟨_, heq⟩ | heq
  · exact typeName_ne_apiEndpoints (.inl rfl) heq.symm
  · exact typeName_ne_apiEndpoints (.inr rfl) heq.symm

end

end TypesModule

end MockScaffold
