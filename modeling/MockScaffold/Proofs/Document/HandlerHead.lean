import MockScaffold.Proofs.Document.HandlerLines
import MockScaffold.Proofs.Route.Rewriting

/-!
# The head of a handler

The path of an endpoint has a part in two lines of its handler, the comment and the opening below
it, and in nothing else: `handler?_eq_map` takes a handler apart into these two and lines that are
the same for every path.  The opening gives the route as a literal, by one rule for all verbs, also
where a handler for `GET` takes the path as it is (`handler_route`).

The comment gives the path as it stands.  A line feed in it ends the comment, and the rest of the
path is then read as a part of the script.  So the main statement on comments,
`comment_handler`, says which part that is, and that there is none just when no character of the
path ends a comment.
-/

namespace MockScaffold.MocksModule

open Text

/-! ## The opening of a handler -/

/-- What the resolver of a handler takes. -/
def resolver (verb : Verb) (path : String) : String :=
  match verb with
  | .get => if Route.hasParameters path then "(\x7b params \x7d)" else "()"
  | .delete => "(\x7b params \x7d)"
  | .post | .put | .patch => "async (\x7b params, request \x7d)"

/-- The lines of a handler: its opening, and below it lines in which the path has no part. -/
theorem handlerLines_eq_map (verb : Verb) (e : Endpoint) (requestType : Option String) :
    ∃ body : Except Json.EmbedFault (List String), ∀ path : String,
      handlerLines verb { e with path := path } requestType =
        body.map fun rest => opening verb (Route.ofPath path) (resolver verb path) :: rest := by
  cases verb with
  | get =>
      refine ⟨(Json.embed "    " e.response).map fun response =>
        ["    return HttpResponse.json(" ++ response ++ ")", "  \x7d)"], fun path => ?_⟩
      -- without parameters the path is written as it is, and then it is the route
      have hopening : (if Route.hasParameters path then
          opening .get (Route.ofPath path) "(\x7b params \x7d)" else opening .get path "()") =
          opening .get (Route.ofPath path) (resolver .get path) := by
        cases hparameters : Route.hasParameters path with
        | true => simp [resolver, hparameters]
        | false => simp [resolver, hparameters, Route.ofPath_eq_self hparameters]
      cases hembed : Json.embed "    " e.response with
      | error fault =>
          rw [handlerLines, hembed]
          rfl
      | ok response =>
          rw [handlerLines, hembed, ← hopening]
          rfl
  | delete =>
      refine ⟨(answerLines e).map fun answer => answer ++ ["  \x7d)"], fun path => ?_⟩
      have hanswer : answerLines { e with path := path } = answerLines e := rfl
      rw [handlerLines, hanswer]
      cases answerLines e <;> rfl
  | _ =>
      refine ⟨(answerLines e).map fun answer =>
        (if e.hasRequestBody then ["    const body = await request.json()" ++ cast requestType]
          else []) ++ answer ++ ["  \x7d)"], fun path => ?_⟩
      have hanswer : answerLines { e with path := path } = answerLines e := rfl
      have hbody : Endpoint.hasRequestBody { e with path := path } = e.hasRequestBody := rfl
      rw [handlerLines, hanswer, hbody]
      cases answerLines e <;> rfl

/-- A handler is the comment, the opening, and what the path has no part in. -/
theorem handler?_eq_map {e : Endpoint} {verb : Verb} (hverb : e.verb? = some verb)
    (requestType : Option String) :
    ∃ body : Except Json.EmbedFault (List String), ∀ path : String,
      handler? { e with path := path } requestType = body.map fun rest =>
        some ("\n".intercalate (comment { e with path := path } ::
          opening verb (Route.ofPath path) (resolver verb path) :: rest)) := by
  obtain ⟨body, hbody⟩ := handlerLines_eq_map verb e requestType
  refine ⟨body, fun path => ?_⟩
  have hverb' : Endpoint.verb? { e with path := path } = some verb := hverb
  rw [handler?, hverb']
  dsimp only
  rw [hbody path]
  cases body <;> rfl

/-- **Routes are rewritten once and for all, and alike for every verb.**  No name stands between
braces in a route, so that a second rewriting changes nothing.  Whatever the verb, the handler for a
path opens with the literal of its route, above lines that do not depend on the path, and fails for
one path just when it fails for all.  A handler for `GET` names its parameters wherever its route
has a colon. -/
theorem handler_route :
    (∀ path : String,
      (∀ name, name ≠ [] → (∀ c ∈ name, isWordChar c = true) →
        ¬ '\x7b' :: (name ++ ['\x7d']) <:+: (Route.ofPath path).toList) ∧
      Route.ofPath (Route.ofPath path) = Route.ofPath path ∧
      (':' ∈ (Route.ofPath path).toList → resolver .get path = "(\x7b params \x7d)")) ∧
    ∀ (e : Endpoint) (verb : Verb) (requestType : Option String), e.verb? = some verb →
      ∃ body : Except Json.EmbedFault (List String), ∀ path : String,
        handler? { e with path := path } requestType = body.map fun rest =>
          some ("\n".intercalate (("  // " ++ e.method ++ " " ++ path) ::
            ("  http." ++ verb.word ++ "(" ++ Route.literal (Route.ofPath path) ++ ", " ++
              resolver verb path ++ " => \x7b") :: rest)) := by
  refine ⟨fun path => ⟨?_, ?_, ?_⟩, fun e verb requestType hverb => ?_⟩
  · rw [Route.ofPath, String.toList_ofList]
    exact Route.placeholders_eq_nil_iff.mp (Route.placeholders_pattern path.toList)
  · rw [Route.ofPath, Route.ofPath, String.toList_ofList, Route.pattern_pattern]
  · intro hcolon
    rw [resolver, if_pos (Route.hasParameters_of_mem_ofPath hcolon)]
  · exact handler?_eq_map hverb requestType

/-- An endpoint whose placeholder stands between further braces. -/
def bracedEndpoint : Endpoint := ⟨"GET", "/a/\x7b\x7bid\x7d\x7d", .null, .null, 200⟩

/-- Its route holds no placeholder and a colon, and its handler names the parameters. -/
theorem handler_route_bracedEndpoint :
    bracedEndpoint.verb? = some .get ∧ ':' ∈ (Route.ofPath bracedEndpoint.path).toList ∧
      ¬ "\x7bid\x7d".toList <:+: (Route.ofPath bracedEndpoint.path).toList ∧
      ∃ rest, handler? bracedEndpoint none = .ok (some ("\n".intercalate
        ("  // GET /a/\x7b\x7bid\x7d\x7d" ::
          "  http.get('/a/\x7b:id\x7d', (\x7b params \x7d) => \x7b" :: rest))) := by
  have hverb : bracedEndpoint.verb? = some .get := rfl
  have hroute : Route.ofPath bracedEndpoint.path = "/a/\x7b:id\x7d" := by decide +kernel
  have hcolon : ':' ∈ (Route.ofPath bracedEndpoint.path).toList := by
    rw [hroute]
    decide
  obtain ⟨hpaths, hhandlers⟩ := handler_route
  obtain ⟨hnone, _, hresolver⟩ := hpaths bracedEndpoint.path
  obtain ⟨body, hbody⟩ := hhandlers bracedEndpoint .get none hverb
  have hhandler := hbody bracedEndpoint.path
  have hname : "id".toList.all isWordChar = true := by decide
  refine ⟨hverb, hcolon, hnone "id".toList (by decide) (List.all_eq_true.mp hname), ?_⟩
  cases body with
  | error fault =>
      have hok : (handler? bracedEndpoint none).isOk = true := by decide +kernel
      have herror : handler? bracedEndpoint none = .error fault := hhandler
      rw [herror] at hok
      cases hok
  | ok rest =>
      rw [hresolver hcolon, hroute] at hhandler
      exact ⟨rest, hhandler⟩

/-! ## The comment of a handler -/

/-- The characters that end a line of a script, and with it a comment. -/
def endsLine (c : Char) : Bool :=
  c == '\n' || c == '\r' || c == '\u2028' || c == '\u2029'

/-- What is left of a script that starts with a comment, from the end of the comment on. -/
def afterComment (script : List Char) : List Char := script.dropWhile fun c => !endsLine c

/-- The first line of a text, up to its first line feed. -/
def firstLine (cs : List Char) : List Char := cs.takeWhile (· != '\n')

/-- What comes after the first line feed of a text. -/
def afterFirstLine (cs : List Char) : List Char := (cs.dropWhile (· != '\n')).tail

/-- A line has no line feed at any place. -/
theorem bne_newline_of_not_mem {line : List Char} (h : '\n' ∉ line) :
    ∀ c ∈ line, (c != '\n') = true := by
  intro c hc
  rw [bne_iff_ne]
  intro heq
  exact h (heq ▸ hc)

/-- The first line ends at the first line feed. -/
theorem firstLine_append {line : List Char} (h : '\n' ∉ line) (rest : List Char) :
    firstLine (line ++ '\n' :: rest) = line := by
  rw [firstLine, List.takeWhile_append_of_pos (bne_newline_of_not_mem h)]
  simp

/-- What follows it is the rest. -/
theorem afterFirstLine_append {line : List Char} (h : '\n' ∉ line) (rest : List Char) :
    afterFirstLine (line ++ '\n' :: rest) = rest := by
  rw [afterFirstLine, List.dropWhile_append_of_pos (bne_newline_of_not_mem h)]
  simp

/-- No line feed stands in a first line. -/
theorem newline_not_mem_firstLine (cs : List Char) : '\n' ∉ firstLine cs := by
  intro hmem
  have hbefore := List.mem_takeWhile_imp hmem
  simp at hbefore

/-- The method of a handler is one of five words. -/
theorem exists_verb_of_handler?_eq_ok {e : Endpoint} {requestType : Option String} {text : String}
    (h : handler? e requestType = .ok (some text)) :
    ∃ verb, e.verb? = some verb ∧ e.method = verb.method := by
  cases hverb : e.verb? with
  | none =>
      rw [handler?, hverb] at h
      cases h
  | some verb =>
      have hmethod : verb.method = e.method := by simpa using List.find?_some hverb
      exact ⟨verb, rfl, hmethod.symm⟩

/-- A comment reaches up to the path at least. -/
theorem endsLine_eq_false_of_mem_commentStart {e : Endpoint} {requestType : Option String}
    {text : String} (h : handler? e requestType = .ok (some text)) :
    ∀ c ∈ ("  // " ++ e.method ++ " ").toList, endsLine c = false := by
  obtain ⟨verb, _, hmethod⟩ := exists_verb_of_handler?_eq_ok h
  rw [hmethod]
  cases verb <;> simp [endsLine, Verb.method]

/-- The text of a handler: its comment, and below it the opening and lines that the path has no part
in. -/
theorem exists_opening_of_handler?_eq_ok {e : Endpoint} {requestType : Option String}
    {text : String} (h : handler? e requestType = .ok (some text)) :
    ∃ verb body, e.method = verb.method ∧ text.toList = (comment e).toList ++
      '\n' :: ((opening verb (Route.ofPath e.path) (resolver verb e.path)).toList ++ body) := by
  obtain ⟨verb, hverb, hmethod⟩ := exists_verb_of_handler?_eq_ok h
  obtain ⟨body, hbody⟩ := handler?_eq_map hverb requestType
  have hhandler : body.map _ = .ok (some text) := (hbody e.path).symm.trans h
  obtain ⟨rest, _, htext⟩ := map_eq_ok hhandler
  refine ⟨verb, rest.flatMap fun part => "\n".toList ++ part.toList, hmethod, ?_⟩
  rw [← Option.some.inj htext, toList_intercalate_cons, List.flatMap_cons, List.append_assoc]
  rfl

/-- Below the comment stands the call of the verb. -/
theorem exists_call_of_handler?_eq_ok {e : Endpoint} {requestType : Option String} {text : String}
    (h : handler? e requestType = .ok (some text)) :
    ∃ body, text.toList = (comment e).toList ++ '\n' :: body ∧
      (handlerStart e.method).toList <+: body := by
  obtain ⟨verb, body, hmethod, htext⟩ := exists_opening_of_handler?_eq_ok h
  have hcall := handlerStart_prefix_opening verb (Route.ofPath e.path) (resolver verb e.path)
  rw [← hmethod] at hcall
  exact ⟨_, htext, hcall.trans (List.prefix_append _ _)⟩

/-- A text that is left at some character is left there at the latest. -/
theorem dropWhile_append_cons {p : Char → Bool} {c : Char} (hc : p c = false)
    (cs ds : List Char) : (cs ++ c :: ds).dropWhile p = cs.dropWhile p ++ c :: ds := by
  induction cs with
  | nil => simp [hc]
  | cons d cs ih =>
      rw [List.cons_append]
      cases hd : p d with
      | true => rw [List.dropWhile_cons_of_pos hd, List.dropWhile_cons_of_pos hd, ih]
      | false =>
          have hstay : ¬ p d = true := by simp [hd]
          rw [List.dropWhile_cons_of_neg hstay, List.dropWhile_cons_of_neg hstay,
            List.cons_append]

/-- After a comment the script goes on with what stands in it from its first end of a line on. -/
theorem afterComment_append {start : List Char} (h : ∀ c ∈ start, endsLine c = false)
    (cs rest : List Char) :
    afterComment (start ++ (cs ++ '\n' :: rest)) =
      cs.dropWhile (fun c => !endsLine c) ++ '\n' :: rest := by
  have hstart : ∀ c ∈ start, (!endsLine c) = true := by
    intro c hc
    rw [h c hc]
    rfl
  rw [afterComment, List.dropWhile_append_of_pos hstart, dropWhile_append_cons (by decide)]

/-- **Comments of handlers.**  The first line of a handler is the whole comment, with the call of
the verb on the line below, just when the path has no line feed.  In every case a script goes on
after the comment with the part of the path from its first end of a line on, and then with the call
of the verb; so no part of the path is read as code just when the path ends no line. -/
theorem comment_handler {e : Endpoint} {requestType : Option String} {text : String}
    (h : handler? e requestType = .ok (some text)) :
    (firstLine text.toList = ("  // " ++ e.method ++ " " ++ e.path).toList ∧
        ("  http." ++ lower e.method ++ "(").toList <+: afterFirstLine text.toList ↔
      '\n' ∉ e.path.toList) ∧
    ∃ code call, afterComment text.toList = code ++ '\n' :: call ∧
      code = e.path.toList.dropWhile (fun c => !endsLine c) ∧
      (code = [] ↔ ∀ c ∈ e.path.toList, endsLine c = false) ∧
      ("  http." ++ lower e.method ++ "(").toList <+: call := by
  obtain ⟨body, htext, hcall⟩ := exists_call_of_handler?_eq_ok h
  have hstart := endsLine_eq_false_of_mem_commentStart h
  have hcomment : (comment e).toList = ("  // " ++ e.method ++ " ").toList ++ e.path.toList := by
    simp [comment]
  refine ⟨⟨?_, ?_⟩, ?_⟩
  · rintro ⟨hfirst, _⟩ hmem
    have hin : '\n' ∈ firstLine text.toList := by
      rw [hfirst]
      simp [hmem]
    exact newline_not_mem_firstLine _ hin
  · intro hpath
    have hline : '\n' ∉ (comment e).toList := by
      rw [hcomment, List.mem_append, not_or]
      refine ⟨fun hmem => ?_, hpath⟩
      have hends := hstart _ hmem
      exact absurd hends (by decide)
    rw [htext, firstLine_append hline, afterFirstLine_append hline]
    exact ⟨rfl, hcall⟩
  · refine ⟨_, body, ?_, rfl, ?_, hcall⟩
    · rw [htext, hcomment, List.append_assoc, afterComment_append hstart]
    · rw [List.dropWhile_eq_nil_iff]
      simp

/-- An endpoint that changes a part of an order. -/
def orderEndpoint : Endpoint := ⟨"PATCH", "/orders/\x7bid\x7d", .text "a", .null, 202⟩

/-- The handler of `orderEndpoint`. -/
def orderHandler : String :=
  "  // PATCH /orders/\x7bid\x7d\n" ++
  "  http.patch('/orders/:id', async (\x7b params, request \x7d) => \x7b\n" ++
  "    const body = await request.json() as OrdersIdRequest\n" ++
  "    return HttpResponse.json(\n" ++
  "      null,\n" ++
  "      \x7b status: 202 \x7d\n" ++
  "    )\n" ++
  "  \x7d)"

/-- The comment of `orderHandler` is its first line, and the call stands on the next one. -/
theorem comment_handler_orderEndpoint :
    handler? orderEndpoint (some "OrdersIdRequest") = .ok (some orderHandler) ∧
      firstLine orderHandler.toList = "  // PATCH /orders/\x7bid\x7d".toList ∧
      "  http.patch(".toList <+: afterFirstLine orderHandler.toList := by
  have hhandler : handler? orderEndpoint (some "OrdersIdRequest") = .ok (some orderHandler) := by
    decide +kernel
  have hpath : '\n' ∉ orderEndpoint.path.toList := by decide
  obtain ⟨hfirst, hcall⟩ := (comment_handler hhandler).1.mpr hpath
  exact ⟨hhandler, hfirst, hcall⟩

/-- An endpoint whose path is broken over two lines. -/
def brokenEndpoint : Endpoint := ⟨"GET", "/users\nstop()", .null, .null, 200⟩

/-- The handler of `brokenEndpoint`. -/
def brokenHandler : String :=
  "  // GET /users\n" ++
  "stop()\n" ++
  "  http.get('/users\n" ++
  "stop()', () => \x7b\n" ++
  "    return HttpResponse.json(null)\n" ++
  "  \x7d)"

/-- The comment of `brokenHandler` ends inside the path, and the script goes on with its rest. -/
theorem handler_brokenEndpoint :
    handler? brokenEndpoint none = .ok (some brokenHandler) ∧
      firstLine brokenHandler.toList ≠
        ("  // " ++ brokenEndpoint.method ++ " " ++ brokenEndpoint.path).toList ∧
      ¬ ("  http." ++ lower brokenEndpoint.method ++ "(").toList <+:
        afterFirstLine brokenHandler.toList ∧
      "\nstop()".toList <+: afterComment brokenHandler.toList := by
  have hhandler : handler? brokenEndpoint none = .ok (some brokenHandler) := by decide +kernel
  exact ⟨hhandler, by decide, by decide, by decide⟩

end MockScaffold.MocksModule
