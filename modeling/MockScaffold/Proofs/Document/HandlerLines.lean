import MockScaffold.Proofs.Document.DeclarationLines
import MockScaffold.Proofs.Document.Imports
import MockScaffold.Proofs.Route.Pattern

/-!
# Handlers start lines of their own

The sample that a handler answers with is embedded over several lines.  Each of them but the first
is indented further than the comment above a handler and the line after it
(`Json.continued_of_embed_eq_ok`), and so is everything else that a handler writes after these two
(`MocksModule.exists_of_handlerLines_eq_ok`).  Hence the comments of a document are the first lines
of its handlers, each with the line that opens the handler after it
(`MocksModule.forall₂_commentLines_render`).

Together with the lines of declarations this is the main statement, `structureLines_documents`:
samples start no line that counts as structure of either document.
-/

namespace MockScaffold

open Text

/-! ## Parts of a handler that stay on one line -/

namespace Route

/-- A literal has a line feed only if its text has one. -/
theorem newline_not_mem_literal {s : String} (h : '\n' ∉ s.toList) : '\n' ∉ (literal s).toList := by
  have hescape : ∀ c ∈ s.toList, '\n' ∉ escapeChar c := by
    intro c hc hmem
    unfold escapeChar at hmem
    split at hmem
    · simp only [List.mem_cons, List.not_mem_nil, or_false] at hmem
      exact hmem.elim (by decide) fun heq => h (heq ▸ hc)
    · exact h (List.mem_singleton.mp hmem ▸ hc)
  simpa [literal] using hescape

end Route

namespace Json

/-- The digits of an integer have none. -/
theorem newline_not_mem_integer {n : Int} {text : String} (h : integer n = .ok text) :
    '\n' ∉ text.toList := by
  obtain ⟨_, rfl⟩ := integer_eq_ok h
  rw [toList_toString_int, List.mem_append, not_or]
  exact ⟨newline_not_mem_signText _, newline_not_mem_toDigits _⟩

/-- An embedded sample is indented wherever a line of it starts. -/
theorem continued_of_embed_eq_ok {indent : String} (hindent : '\n' ∉ indent.toList) {v : Sample}
    {text : String} (h : embed indent v = .ok text) : Continued [indent.toList] text.toList := by
  obtain ⟨s, _, rfl⟩ := map_eq_ok h
  rw [toList_indentLines]
  exact continued_indented hindent s.toList

end Json

namespace MocksModule

/-! ## Handlers -/

/-- How the lines of a handler start, but for the first. -/
def bodyStarts : List (List Char) := [[' ', ' ', ' ', ' '], [' ', ' ', '\x7d']]

/-- How a comment above a handler starts. -/
def commentStart : List Char := [' ', ' ', '/', '/', ' ']

/-- How a handler starts. -/
def handlerStart (method : String) : String := "  http." ++ lower method ++ "("

/-- A part of a handler after its first line: one line or several ones. -/
def IsBodyPart (cs : List Char) : Prop :=
  (∃ start ∈ bodyStarts, start <+: cs) ∧ Continued bodyStarts cs

/-- A line by itself, with the start of a line of a body, is part of a body. -/
theorem isBodyPart_of_not_mem {cs : List Char} (hstart : ∃ start ∈ bodyStarts, start <+: cs)
    (h : '\n' ∉ cs) : IsBodyPart cs :=
  ⟨hstart, continued_of_not_mem h⟩

/-- An embedded sample between texts of one line. -/
theorem isBodyPart_embed {indent before after : String} (hindent : '\n' ∉ indent.toList)
    (hwide : [' ', ' ', ' ', ' '] <+: indent.toList) (hbefore : '\n' ∉ before.toList)
    (hstart : [' ', ' ', ' ', ' '] <+: before.toList) (hafter : '\n' ∉ after.toList)
    {v : Sample} {text : String} (h : Json.embed indent v = .ok text) :
    IsBodyPart (before ++ text ++ after).toList := by
  have htext : Continued bodyStarts text.toList := by
    refine (Json.continued_of_embed_eq_ok hindent h).mono fun start hmem => ?_
    exact ⟨_, List.mem_cons_self, List.mem_singleton.mp hmem ▸ hwide⟩
  rw [String.toList_append, String.toList_append]
  refine ⟨⟨_, List.mem_cons_self, ?_⟩, ?_⟩
  · exact (hstart.trans (List.prefix_append _ _)).trans (List.prefix_append _ _)
  · exact ((continued_of_not_mem hbefore).append htext).append (continued_of_not_mem hafter)

/-- What a handler answers with. -/
theorem isBodyPart_of_mem_answerLines {e : Endpoint} {answer : List String}
    (h : answerLines e = .ok answer) : ∀ line ∈ answer, IsBodyPart line.toList := by
  obtain ⟨response, hresponse, h⟩ := bind_eq_ok h
  obtain ⟨status, hstatus, h⟩ := bind_eq_ok h
  cases h
  have hline : '\n' ∉ status.toList := Json.newline_not_mem_integer hstatus
  have hspaces : ∀ cs : List Char, ∃ start ∈ bodyStarts, start <+: ' ' :: ' ' :: ' ' :: ' ' :: cs :=
    fun cs => ⟨_, List.mem_cons_self, cs, rfl⟩
  intro line hmem
  simp only [List.mem_cons, List.not_mem_nil, or_false] at hmem
  rcases hmem with rfl | rfl | rfl | rfl
  · exact isBodyPart_of_not_mem (by decide) (by decide)
  · exact isBodyPart_embed (by decide) (by decide) (by decide) (by decide) (by decide) hresponse
  · exact isBodyPart_of_not_mem (by simpa using hspaces _) (by simpa using hline)
  · exact isBodyPart_of_not_mem (by decide) (by decide)

/-- A cast to a type has no line feed if the name of the type has none. -/
theorem newline_not_mem_cast {requestType : Option String}
    (h : ∀ name, requestType = some name → '\n' ∉ name.toList) :
    '\n' ∉ (cast requestType).toList := by
  unfold cast
  split
  · decide
  · decide
  · next name _ => simpa using h name rfl

/-- The first line of a handler is one line. -/
theorem newline_not_mem_opening {verb : Verb} {route resolver : String}
    (hroute : '\n' ∉ route.toList) (hresolver : '\n' ∉ resolver.toList) :
    '\n' ∉ (opening verb route resolver).toList := by
  have hword : '\n' ∉ verb.word.toList := by cases verb <;> decide
  have hliteral := Route.newline_not_mem_literal hroute
  simp [opening, hword, hliteral, hresolver]

/-- A method in lower case is the word of its verb. -/
theorem lower_method (verb : Verb) : lower verb.method = verb.word := by
  cases verb <;> rfl

/-- The first line of a handler starts as handlers do. -/
theorem handlerStart_prefix_opening (verb : Verb) (route resolver : String) :
    (handlerStart verb.method).toList <+: (opening verb route resolver).toList :=
  ⟨(Route.literal route ++ ", " ++ resolver ++ " => \x7b").toList, by
    simp [handlerStart, opening, lower_method]⟩

/-- **A handler line by line.**  It has a first line that calls its verb; all further parts of it
are parts of its body. -/
theorem exists_of_handlerLines_eq_ok {verb : Verb} {e : Endpoint} {requestType : Option String}
    (hpath : '\n' ∉ e.path.toList) (htype : ∀ name, requestType = some name → '\n' ∉ name.toList)
    {parts : List String} (h : handlerLines verb e requestType = .ok parts) :
    ∃ first rest, parts = first :: rest ∧ '\n' ∉ first.toList ∧
      (handlerStart verb.method).toList <+: first.toList ∧
      ∀ part ∈ rest, IsBodyPart part.toList := by
  have hroute := Route.not_mem_ofPath (by decide) hpath
  have hclose : IsBodyPart "  \x7d)".toList := isBodyPart_of_not_mem (by decide) (by decide)
  have hread : IsBodyPart ("    const body = await request.json()" ++ cast requestType).toList := by
    have hstart : [' ', ' ', ' ', ' '] <+: "    const body = await request.json()".toList := by
      decide
    rw [String.toList_append]
    refine isBodyPart_of_not_mem ⟨_, List.mem_cons_self, hstart.trans (List.prefix_append _ _)⟩ ?_
    rw [List.mem_append, not_or]
    exact ⟨by decide, newline_not_mem_cast htype⟩
  cases verb with
  | get =>
      obtain ⟨response, hresponse, h⟩ := bind_eq_ok h
      cases h
      refine ⟨_, _, rfl, ?_, ?_, ?_⟩
      · split
        · exact newline_not_mem_opening hroute (by decide)
        · exact newline_not_mem_opening hpath (by decide)
      · split <;> exact handlerStart_prefix_opening .get _ _
      · have hanswer : IsBodyPart ("    return HttpResponse.json(" ++ response ++ ")").toList :=
          isBodyPart_embed (by decide) (by decide) (by decide) (by decide) (by decide) hresponse
        exact List.forall_mem_cons.mpr ⟨hanswer, List.forall_mem_singleton.mpr hclose⟩
  | delete =>
      obtain ⟨answer, hanswer, h⟩ := bind_eq_ok h
      cases h
      refine ⟨_, _, rfl, newline_not_mem_opening hroute (by decide),
        handlerStart_prefix_opening .delete _ _, ?_⟩
      exact List.forall_mem_append.mpr
        ⟨isBodyPart_of_mem_answerLines hanswer, List.forall_mem_singleton.mpr hclose⟩
  | _ =>
      obtain ⟨answer, hanswer, h⟩ := bind_eq_ok h
      cases h
      refine ⟨_, _, rfl, newline_not_mem_opening hroute (by decide),
        handlerStart_prefix_opening _ _ _, ?_⟩
      refine List.forall_mem_append.mpr ⟨List.forall_mem_append.mpr
        ⟨?_, isBodyPart_of_mem_answerLines hanswer⟩, List.forall_mem_singleton.mpr hclose⟩
      split
      · exact List.forall_mem_singleton.mpr hread
      · exact List.forall_mem_nil _

/-- The text of a handler: its comment, and below it what starts with the call of its verb. -/
def IsHandler (e : Endpoint) (cs : List Char) : Prop :=
  ∃ body, cs = (comment e).toList ++ '\n' :: body ∧ (handlerStart e.method).toList <+: body ∧
    Continued bodyStarts body

/-- The parts of a body, each on lines of its own, go on with lines of a body. -/
theorem continued_flatMap_newline {parts : List String}
    (h : ∀ part ∈ parts, IsBodyPart part.toList) :
    Continued bodyStarts (parts.flatMap fun part => "\n".toList ++ part.toList) := by
  refine continued_flatMap fun part hpart => ?_
  obtain ⟨⟨start, hstart, hprefix⟩, hcontinued⟩ := h part hpart
  exact continued_newline hstart hprefix hcontinued

/-- What is written for an endpoint has the form of a handler, if neither its path nor its type
breaks the line. -/
theorem isHandler_of_handler?_eq_ok {e : Endpoint} {requestType : Option String}
    (hpath : '\n' ∉ e.path.toList) (htype : ∀ name, requestType = some name → '\n' ∉ name.toList)
    {text : String} (h : handler? e requestType = .ok (some text)) : IsHandler e text.toList := by
  unfold handler? at h
  split at h
  · cases h
  · next verb hverb =>
      obtain ⟨parts, hparts, heq⟩ := map_eq_ok h
      obtain ⟨first, rest, rfl, hline, hfirst, hrest⟩ :=
        exists_of_handlerLines_eq_ok hpath htype hparts
      obtain rfl := Option.some.inj heq
      have hmethod : verb.method = e.method := by simpa using List.find?_some hverb
      refine ⟨first.toList ++ rest.flatMap fun part => "\n".toList ++ part.toList, ?_, ?_, ?_⟩
      · rw [toList_intercalate_cons, List.flatMap_cons, List.append_assoc]
        rfl
      · exact hmethod ▸ hfirst.trans (List.prefix_append _ _)
      · exact (continued_of_not_mem hline).append (continued_flatMap_newline hrest)

/-- An endpoint gets a handler if its method is a verb. -/
theorem isSome_verb?_iff_of_handler?_eq_ok {e : Endpoint} {requestType handler : Option String}
    (h : handler? e requestType = .ok handler) : e.verb?.isSome = handler.isSome := by
  unfold handler? at h
  split at h
  · next hverb =>
      obtain rfl := Except.ok.inj h
      rw [hverb]
      rfl
  · next verb hverb =>
      obtain ⟨parts, _, rfl⟩ := map_eq_ok h
      rw [hverb]
      rfl

/-- The type of request bodies has a name of one line, and so has its import. -/
theorem newline_not_mem_of_localType? {typesModule : Option String} {e : Endpoint}
    (hpath : '\n' ∉ e.path.toList) {name : String} (h : localType? typesModule e = some name) :
    '\n' ∉ name.toList := by
  have hrequest := Naming.newline_not_mem_requestName hpath
  have hlocal : '\n' ∉ (ImportedType.ofName (Naming.requestName e.path)).localName.toList := by
    unfold ImportedType.ofName
    dsimp only
    split
    · simpa using hrequest
    · exact hrequest
  obtain ⟨request, htype, rfl⟩ := Option.map_eq_some_iff.mp h
  unfold requestType? at htype
  split at htype
  · obtain rfl := Option.some.inj htype
    split
    · exact hlocal
    · exact hrequest
  · cases htype

/-- The handlers of a document are those of the endpoints with a verb, in their order. -/
theorem forall₂_isHandler {typesModule : Option String} {endpoints : List Endpoint}
    {handlers : List (Option String)} (hpaths : ∀ e ∈ endpoints, '\n' ∉ e.path.toList)
    (h : List.Forall₂ (fun e handler => handler? e (localType? typesModule e) = .ok handler)
      endpoints handlers) :
    List.Forall₂ (fun e text => IsHandler e text.toList) (endpoints.filter (·.verb?.isSome))
      (handlers.filterMap id) := by
  induction h with
  | nil => exact .nil
  | @cons e handler rest others hhandler _ ih =>
      obtain ⟨hpath, hrest⟩ := List.forall_mem_cons.mp hpaths
      have hverb := isSome_verb?_iff_of_handler?_eq_ok hhandler
      cases handler with
      | none =>
          rw [List.filter_cons_of_neg (by simp [hverb])]
          exact ih hrest
      | some text =>
          rw [List.filter_cons_of_pos (by simp [hverb])]
          exact .cons (isHandler_of_handler?_eq_ok hpath
            (fun name => newline_not_mem_of_localType? hpath) hhandler) (ih hrest)

/-! ## The comments of a document -/

/-- The lines that start like the comment above a handler, each with the line after it. -/
def commentLines : List (List Char) → List (List Char × Option (List Char))
  | [] => []
  | line :: rest =>
    if commentStart.isPrefixOf line then (line, rest.head?) :: commentLines rest
    else commentLines rest

/-- A comment counts, together with the line after it. -/
theorem commentLines_cons_comment {line : List Char} (h : commentStart <+: line)
    (rest : List (List Char)) :
    commentLines (line :: rest) = (line, rest.head?) :: commentLines rest := by
  rw [commentLines, if_pos (List.isPrefixOf_iff_prefix.mpr h)]

/-- Lines that are no comments, before others. -/
theorem commentLines_append {ls : List (List Char)} (h : ∀ line ∈ ls, ¬ commentStart <+: line)
    (rest : List (List Char)) : commentLines (ls ++ rest) = commentLines rest := by
  induction ls with
  | nil => rfl
  | cons line ls ih =>
      obtain ⟨hline, hls⟩ := List.forall_mem_cons.mp h
      rw [List.cons_append, commentLines, if_neg (mt List.isPrefixOf_iff_prefix.mp hline), ih hls]

/-- A line in front that is no comment does not count. -/
theorem commentLines_lines_append {line : List Char} (hline : '\n' ∉ line)
    (hstart : ¬ commentStart <+: line) (ds : List Char) :
    commentLines (lines (line ++ '\n' :: ds)) = commentLines (lines ds) := by
  rw [lines_append_of_not_mem hline, ← List.singleton_append]
  exact commentLines_append (List.forall_mem_singleton.mpr hstart) _

/-- A comment is that of an endpoint, and the line after it opens a handler for its method. -/
def HeadsHandler (commentLine : List Char × Option (List Char)) (e : Endpoint) : Prop :=
  commentLine.1 = ("  // " ++ e.method ++ " " ++ e.path).toList ∧
    ∃ next, commentLine.2 = some next ∧ ("  http." ++ lower e.method ++ "(").toList <+: next

/-- **A handler has one comment.**  It is the first line, the call of the verb comes after it, and
the sample that is embedded below brings in no other one.  What ends a handler may stand on its last
line. -/
theorem commentLines_handler {e : Endpoint} (hmethod : '\n' ∉ e.method.toList)
    (hpath : '\n' ∉ e.path.toList) {cs mark : List Char} (h : IsHandler e cs) (hmark : '\n' ∉ mark)
    (ds : List Char) :
    ∃ c, HeadsHandler c e ∧
      commentLines (lines (cs ++ (mark ++ '\n' :: ds))) = c :: commentLines (lines ds) := by
  obtain ⟨body, rfl, hopening, hbody⟩ := h
  have hcomment : '\n' ∉ (comment e).toList := by simp [comment, hmethod, hpath]
  have hstart : '\n' ∉ (handlerStart e.method).toList := by
    have hlower : '\n' ∉ (lower e.method).toList := fun hmem =>
      hmethod (mem_of_mem_lower (by decide) hmem)
    simp [handlerStart, hlower]
  obtain ⟨first, rest, hlines, hfirst, hrest⟩ :=
    (hbody.append (continued_of_not_mem hmark)).exists_first_line (by decide) hstart
      (hopening.trans (List.prefix_append _ _)) (by decide : ∀ start ∈ bodyStarts,
        ¬ start <+: commentStart ∧ ¬ commentStart <+: start)
  have hstartCall : "  http.".toList <+: (handlerStart e.method).toList :=
    ⟨(lower e.method ++ "(").toList, by simp [handlerStart]⟩
  have hcall : "  http.".toList <+: first := hstartCall.trans hfirst
  have hplain : ∀ line ∈ first :: rest, ¬ commentStart <+: line :=
    List.forall_mem_cons.mpr ⟨prefix_exclusive (by decide) hcall, hrest⟩
  refine ⟨((comment e).toList, some first), ⟨rfl, first, rfl, hfirst⟩, ?_⟩
  have htext : (comment e).toList ++ '\n' :: body ++ (mark ++ '\n' :: ds) =
      (comment e).toList ++ '\n' :: (body ++ mark ++ '\n' :: ds) := by simp
  rw [htext, lines_append_of_not_mem hcomment, lines_append, hlines,
    commentLines_cons_comment, commentLines_append hplain, List.cons_append, List.head?_cons]
  exact ⟨(e.method ++ " " ++ e.path).toList, by simp [comment, commentStart]⟩

/-- The handlers of a list have one comment each, in their order. -/
theorem exists_commentLines_intercalate {endpoints : List Endpoint} {texts : List String}
    (hfeed : ∀ e ∈ endpoints, '\n' ∉ e.method.toList ∧ '\n' ∉ e.path.toList)
    (h : List.Forall₂ (fun e text => IsHandler e text.toList) endpoints texts) (ds : List Char) :
    ∃ found, List.Forall₂ HeadsHandler found endpoints ∧
      commentLines (lines ((",\n\n".intercalate texts).toList ++ '\n' :: ds)) =
        found ++ commentLines (lines ds) := by
  induction h with
  | nil => exact ⟨[], .nil, commentLines_lines_append List.not_mem_nil (by decide) ds⟩
  | @cons e text rest others hhandler hothers ih =>
      obtain ⟨⟨hmethod, hpath⟩, hrest⟩ := List.forall_mem_cons.mp hfeed
      obtain ⟨found, hfound, heq⟩ := ih hrest
      cases hothers with
      | nil =>
          obtain ⟨c, hc, hlines⟩ :=
            commentLines_handler hmethod hpath hhandler List.not_mem_nil ds
          exact ⟨[c], .cons hc .nil, by simpa using hlines⟩
      | @cons e' text' rest' others' _ _ =>
          have hcomma : '\n' ∉ [','] := by decide
          obtain ⟨c, hc, hlines⟩ := commentLines_handler hmethod hpath hhandler hcomma
            ([] ++ '\n' :: ((",\n\n".intercalate (text' :: others')).toList ++ '\n' :: ds))
          rw [commentLines_lines_append List.not_mem_nil (by decide), heq] at hlines
          refine ⟨c :: found, .cons hc hfound, ?_⟩
          rw [List.cons_append, ← hlines, String.intercalate_cons_cons]
          simp

/-- Names that are imported have no line feeds if no path has one. -/
theorem newline_not_mem_specifiers {endpoints : List Endpoint}
    (hpaths : ∀ e ∈ endpoints, '\n' ∉ e.path.toList) :
    ∀ s ∈ specifiers endpoints, '\n' ∉ s.toList := by
  intro s hs
  rw [specifiers_eq_foldl, mem_foldl_insertNew] at hs
  obtain ⟨name, hname, rfl⟩ := List.mem_map.mp (hs.resolve_left List.not_mem_nil)
  obtain ⟨e, he, rfl⟩ := exists_path_of_mem_requestNames hname
  unfold specifierOf
  split
  · decide
  · exact Naming.newline_not_mem_requestName (hpaths e he)

/-- Neither has the list of them. -/
theorem newline_not_mem_intercalate {parts : List String} (h : ∀ s ∈ parts, '\n' ∉ s.toList) :
    '\n' ∉ (", ".intercalate parts).toList := by
  cases parts with
  | nil => exact List.not_mem_nil
  | cons s rest =>
      obtain ⟨hs, hrest⟩ := List.forall_mem_cons.mp h
      rw [toList_intercalate_cons, List.mem_append, List.mem_flatMap, not_or]
      refine ⟨hs, fun ⟨t, ht, hmem⟩ => ?_⟩
      rcases List.mem_append.mp hmem with hmem | hmem
      · exact absurd hmem (by decide)
      · exact hrest t ht hmem

/-- The import of types is one line, if there is one, and no comment. -/
theorem commentLines_importLine {source : Option String} {endpoints : List Endpoint}
    (hsource : ∀ s, source = some s → '\n' ∉ s.toList)
    (hpaths : ∀ e ∈ endpoints, '\n' ∉ e.path.toList) (ds : List Char) :
    commentLines (lines ((importLine source endpoints).toList ++ ds)) =
      commentLines (lines ds) := by
  cases source with
  | none => rfl
  | some s =>
      by_cases hnil : specifiers endpoints = []
      · rw [importLine_of_eq_nil (some s) hnil]
        rfl
      · let line := "import type \x7b " ++ ", ".intercalate (specifiers endpoints) ++
          " \x7d from " ++ Route.literal s
        have hline : '\n' ∉ line.toList := by
          have hnames := newline_not_mem_intercalate (newline_not_mem_specifiers hpaths)
          have hliteral := Route.newline_not_mem_literal (hsource s rfl)
          simp only [line, String.toList_append, List.mem_append, not_or]
          exact ⟨⟨⟨by decide, hnames⟩, by decide⟩, hliteral⟩
        have hstart : ¬ commentStart <+: line.toList := by
          have hword : typeImport.toList <+: line.toList :=
            ⟨(", ".intercalate (specifiers endpoints) ++ " \x7d from " ++ Route.literal s).toList,
              by simp [line, typeImport]⟩
          exact prefix_exclusive (by decide) hword
        have heq : (importLine (some s) endpoints).toList = line.toList ++ ['\n'] := by
          rw [importLine_of_ne_nil s hnil]
          simp [line, typeImport]
        rw [heq, List.append_assoc, List.singleton_append, commentLines_lines_append hline hstart]

/-- **The comments of a document.**  They are those of the endpoints with a verb, in their order,
each with the line that opens the handler below it. -/
theorem forall₂_commentLines_render {endpoints : List Endpoint} {typesModule : Option String}
    {document : String} (hfeed : ∀ e ∈ endpoints, '\n' ∉ e.method.toList ∧ '\n' ∉ e.path.toList)
    (hsource : ∀ s, typesModule = some s → '\n' ∉ s.toList)
    (h : render endpoints typesModule = .ok document) :
    List.Forall₂ HeadsHandler (commentLines (lines document.toList))
      (endpoints.filter (·.verb?.isSome)) := by
  have hpaths : ∀ e ∈ endpoints, '\n' ∉ e.path.toList := fun e he => (hfeed e he).2
  have hverbs : ∀ e ∈ endpoints.filter (·.verb?.isSome),
      '\n' ∉ e.method.toList ∧ '\n' ∉ e.path.toList :=
    fun e he => hfeed e (List.mem_of_mem_filter he)
  obtain ⟨handlers, hhandlers, h⟩ := bind_eq_ok h
  cases h
  let source := typesModule.filter (· ≠ "")
  have hline : ∀ s, source = some s → '\n' ∉ s.toList :=
    fun s hs => hsource s (Option.eq_some_of_filter_eq_some hs)
  let importLines := "import \x7b http, HttpResponse \x7d from 'msw'".toList
  let bannerLine := "// Auto-generated handlers from API specification".toList
  let firstLine := "export const handlers = [".toList
  let handlerTexts := ",\n\n".intercalate (handlers.filterMap id)
  have hrender : (imports ++ importLine source endpoints ++ "\n" ++ banner ++
      "export const handlers = [\n" ++ handlerTexts ++ "\n]\n").toList =
      importLines ++ '\n' :: ((importLine source endpoints).toList ++ ([] ++ '\n' ::
        (bannerLine ++ '\n' :: (firstLine ++ '\n' ::
          (handlerTexts.toList ++ '\n' :: ([']'] ++ '\n' :: [])))))) := by
    simp [imports, banner, importLines, bannerLine, firstLine]
  obtain ⟨found, hfound, hlines⟩ := exists_commentLines_intercalate hverbs
    (forall₂_isHandler hpaths (mapM_eq_ok hhandlers)) ([']'] ++ '\n' :: [])
  have hlast : commentLines (lines []) = [] := rfl
  rw [hrender, commentLines_lines_append (by decide) (by decide),
    commentLines_importLine hline hpaths, commentLines_lines_append (by decide) (by decide),
    commentLines_lines_append (by decide) (by decide),
    commentLines_lines_append (by decide) (by decide), hlines,
    commentLines_lines_append (by decide) (by decide), hlast, List.append_nil]
  exact hfound

end MocksModule

/-! ## Both documents -/

open TypesModule (Opens exportLines)
open MocksModule (HeadsHandler commentLines)

/-- **Samples forge no structure.**  Let methods, paths and the specifier of the import have no line
feeds.  Then, whatever the samples are, the lines of the module of types that start like a
declaration open those of the table, in its order, and the last of them the interface of endpoints,
all under different names.  The lines of the module of mock handlers that start like a comment are
those of the endpoints with a verb, in their order, and after each comes the line that opens the
handler. -/
theorem structureLines_documents (policy : CollisionPolicy) (strategy : ArrayStrategy)
    (endpoints : List Endpoint) (typesModule : Option String)
    (hfeed : ∀ e ∈ endpoints, '\n' ∉ e.method.toList ∧ '\n' ∉ e.path.toList)
    (hsource : ∀ s, typesModule = some s → '\n' ∉ s.toList) :
    (∀ table, TypeTable.ofEndpoints policy strategy endpoints = .ok table →
        (∃ declared, List.Forall₂ Opens declared table.names ∧
          exportLines (TypesModule.render table endpoints).toList =
            declared ++ ["export interface ApiEndpoints \x7b".toList]) ∧
        (table.names ++ ["ApiEndpoints"]).Nodup) ∧
      ∀ document, MocksModule.render endpoints typesModule = .ok document →
        List.Forall₂ HeadsHandler (commentLines (lines document.toList))
          (endpoints.filter (·.verb?.isSome)) := by
  refine ⟨fun table htable => ⟨?_, ?_⟩, fun document hdocument => ?_⟩
  · have hpaths : ∀ e ∈ endpoints, '\n' ∉ e.path.toList := fun e he => (hfeed e he).2
    exact TypesModule.exists_exportLines_render
      (TypesModule.entries_ofEndpoints hpaths htable) hfeed
  · exact TypesModule.nodup_declaredNames htable
  · exact MocksModule.forall₂_commentLines_render hfeed hsource hdocument

/-- Samples whose keys and texts look like structure of the documents, and a method without
handler. -/
def forgingEndpoints : List Endpoint :=
  [⟨"POST", "/a", .map [(.text "x: 1\nexport type X = 1", .text "\n  // GET /b\n  http.get("),
      (.text "y\n", .map [(.text "export ", .scalar .null)])], .text "\n]\n  // GET /a", 201⟩,
    ⟨"HEAD", "/b", .scalar .null, .list [.text "export interface A "], 200⟩,
    ⟨"GET", "/c", .scalar .null, .list [.map [(.text "  // GET /d", .text "  // GET /e")]], 200⟩]

/-- The documents of `forgingEndpoints` have a declaration for each of four types and one more, and
a comment for each of two handlers. -/
theorem structureLines_forgingEndpoints :
    ∃ table document, TypeTable.ofEndpoints .firstWins .union forgingEndpoints = .ok table ∧
      MocksModule.render forgingEndpoints (some "./types") = .ok document ∧
      table.names = ["ARequest", "AResponse", "BResponse", "CResponse"] ∧
      (exportLines (TypesModule.render table forgingEndpoints).toList).length = 5 ∧
      (commentLines (lines document.toList)).map (·.1) =
        ["  // POST /a".toList, "  // GET /c".toList] := by
  have hfeed : ∀ e ∈ forgingEndpoints, '\n' ∉ e.method.toList ∧ '\n' ∉ e.path.toList := by decide
  have hsource : ∀ s, some "./types" = some s → '\n' ∉ s.toList := by
    rintro s ⟨⟩
    decide
  have hnames : (TypeTable.ofEndpoints .firstWins .union forgingEndpoints).toOption.map (·.names) =
      some ["ARequest", "AResponse", "BResponse", "CResponse"] := by decide +kernel
  have hok : (MocksModule.render forgingEndpoints (some "./types")).isOk = true := by decide +kernel
  obtain ⟨htables, hdocuments⟩ :=
    structureLines_documents .firstWins .union forgingEndpoints (some "./types") hfeed hsource
  cases htable : TypeTable.ofEndpoints .firstWins .union forgingEndpoints with
  | error o =>
      rw [htable] at hnames
      cases hnames
  | ok table =>
      rw [htable] at hnames
      have hnames : table.names = ["ARequest", "AResponse", "BResponse", "CResponse"] :=
        Option.some.inj hnames
      cases hdocument : MocksModule.render forgingEndpoints (some "./types") with
      | error f =>
          rw [hdocument] at hok
          cases hok
      | ok document =>
          obtain ⟨⟨declared, hdeclared, heq⟩, _⟩ := htables table htable
          refine ⟨table, document, rfl, rfl, hnames, ?_, ?_⟩
          · rw [heq, List.length_append, hdeclared.length_eq, hnames]
            rfl
          · obtain ⟨first, _, ⟨hfirst, _⟩, hrest, hlines⟩ :=
              List.forall₂_cons_right_iff.mp (hdocuments document hdocument)
            obtain ⟨second, _, ⟨hsecond, _⟩, hnil, rfl⟩ := List.forall₂_cons_right_iff.mp hrest
            rw [hlines, List.forall₂_nil_right_iff.mp hnil, List.map_cons, List.map_singleton,
              hfirst, hsecond]
            rfl

end MockScaffold
