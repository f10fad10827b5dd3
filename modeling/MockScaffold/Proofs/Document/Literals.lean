import MockScaffold.Proofs.Document.HandlerHead
import MockScaffold.Proofs.Route.Literal

/-!
# Literals in the module of mock handlers

Two texts from outside stand in a module of mock handlers as literals: the route in the call of a
handler, and the specifier of the module of types in the import.  Both are written by
`Route.literal`, so that a reader of the script finds the whole text there and goes on behind it.
-/

namespace MockScaffold.MocksModule

open Text
open Route (readLiteral? readLiteral?_append_eq_some_iff)

/-- The call of a handler starts with the literal of its route. -/
theorem exists_readLiteral?_handler {e : Endpoint} {requestType : Option String} {text : String}
    (h : handler? e requestType = .ok (some text)) (hfeed : '\n' ∉ e.path.toList)
    (hreturn : '\r' ∉ e.path.toList) :
    ∃ call after, text.toList = (comment e ++ "\n" ++ handlerStart e.method).toList ++ call ∧
      readLiteral? call = some ((Route.ofPath e.path).toList, ", ".toList ++ after) := by
  obtain ⟨verb, body, hmethod, htext⟩ := exists_opening_of_handler?_eq_ok h
  let after := (resolver verb e.path ++ " => \x7b").toList ++ body
  refine ⟨(Route.literal (Route.ofPath e.path)).toList ++ (", ".toList ++ after), after, ?_, ?_⟩
  · rw [htext, hmethod, handlerStart, lower_method, opening]
    simp [after]
  · exact readLiteral?_append_eq_some_iff.mpr
      ⟨Route.not_mem_ofPath (by decide) hfeed, Route.not_mem_ofPath (by decide) hreturn⟩

/-- The import of types ends with the literal of its module. -/
theorem exists_readLiteral?_render {endpoints : List Endpoint} {source document : String}
    (hsource : source ≠ "") (hne : specifiers endpoints ≠ [])
    (h : render endpoints (some source) = .ok document) (hfeed : '\n' ∉ source.toList)
    (hreturn : '\r' ∉ source.toList) :
    ∃ script after, document.toList = (imports ++ typeImport ++
        ", ".intercalate (specifiers endpoints) ++ " \x7d from ").toList ++ script ∧
      readLiteral? script = some (source.toList, "\n".toList ++ after) := by
  obtain ⟨rest, rfl⟩ := exists_of_render_eq_ok hsource h
  let after := ("\n" ++ rest).toList
  refine ⟨(Route.literal source).toList ++ ("\n".toList ++ after), after, ?_, ?_⟩
  · rw [importLine_of_ne_nil source hne]
    simp [after]
  · exact readLiteral?_append_eq_some_iff.mpr ⟨hfeed, hreturn⟩

/-- **Literals are delimited.**  Whatever follows a literal, it is read up to its end and as its text,
just when the text has no line feed and no carriage return.  So the literal of a route leaves the
rest of the call of its handler, and that of the module of types the rest of the import: neither
can be closed early from inside. -/
theorem literals_delimited :
    (∀ (s : String) (rest : List Char),
      readLiteral? ((Route.literal s).toList ++ rest) = some (s.toList, rest) ↔
        '\n' ∉ s.toList ∧ '\r' ∉ s.toList) ∧
    (∀ (e : Endpoint) (requestType : Option String) (text : String),
      handler? e requestType = .ok (some text) → '\n' ∉ e.path.toList → '\r' ∉ e.path.toList →
      ∃ call after, text.toList = (comment e ++ "\n" ++ handlerStart e.method).toList ++ call ∧
        readLiteral? call = some ((Route.ofPath e.path).toList, ", ".toList ++ after)) ∧
    ∀ (endpoints : List Endpoint) (source document : String), source ≠ "" →
      specifiers endpoints ≠ [] → render endpoints (some source) = .ok document →
      '\n' ∉ source.toList → '\r' ∉ source.toList →
      ∃ script after, document.toList = (imports ++ typeImport ++
          ", ".intercalate (specifiers endpoints) ++ " \x7d from ").toList ++ script ∧
        readLiteral? script = some (source.toList, "\n".toList ++ after) := by
  refine ⟨fun s rest => readLiteral?_append_eq_some_iff, ?_, ?_⟩
  · intro e requestType text h hfeed hreturn
    exact exists_readLiteral?_handler h hfeed hreturn
  · intro endpoints source document hsource hne h hfeed hreturn
    exact exists_readLiteral?_render hsource hne h hfeed hreturn

/-- An endpoint whose path has a quote, and a backslash at its end. -/
def quotedEndpoint : Endpoint := ⟨"PUT", "/it's/\x7bid\x7d\\", .text "a", .null, 200⟩

/-- The handler of `quotedEndpoint`. -/
def quotedHandler : String :=
  "  // PUT /it's/\x7bid\x7d\\\n" ++
  "  http.put('/it\\'s/:id\\\\', async (\x7b params, request \x7d) => \x7b\n" ++
  "    const body = await request.json() as It'sId\\Request\n" ++
  "    return HttpResponse.json(\n" ++
  "      null,\n" ++
  "      \x7b status: 200 \x7d\n" ++
  "    )\n" ++
  "  \x7d)"

/-- The module of `quotedEndpoint`, with types from a module whose name has a quote. -/
def quotedModule : String :=
  imports ++ "import type \x7b It'sId\\Request \x7d from './\\'types'\n\n" ++ banner ++
  "export const handlers = [\n" ++ quotedHandler ++ "\n]\n"

/-- Quotes and backslashes after one another, in a literal, in a route and in an import. -/
theorem literals_delimited_quoted :
    readLiteral? ((Route.literal "\\'\\\\''\\").toList ++ "')".toList) =
        some ("\\'\\\\''\\".toList, "')".toList) ∧
      handler? quotedEndpoint (some "It'sId\\Request") = .ok (some quotedHandler) ∧
      (∃ call after,
        quotedHandler.toList = "  // PUT /it's/\x7bid\x7d\\\n  http.put(".toList ++ call ∧
        readLiteral? call = some ("/it's/:id\\".toList, ", ".toList ++ after)) ∧
      render [quotedEndpoint] (some "./'types") = .ok quotedModule ∧
      ∃ script after, quotedModule.toList = (imports ++ typeImport).toList ++
          "It'sId\\Request \x7d from ".toList ++ script ∧
        readLiteral? script = some ("./'types".toList, "\n".toList ++ after) := by
  have hhandler : handler? quotedEndpoint (some "It'sId\\Request") = .ok (some quotedHandler) := by
    decide +kernel
  have hmodule : render [quotedEndpoint] (some "./'types") = .ok quotedModule := by decide +kernel
  have hspecifiers : specifiers [quotedEndpoint] = ["It'sId\\Request"] := by decide +kernel
  have hroute : (Route.ofPath quotedEndpoint.path).toList = "/it's/:id\\".toList := by decide +kernel
  have hstart : comment quotedEndpoint ++ "\n" ++ handlerStart quotedEndpoint.method =
      "  // PUT /it's/\x7bid\x7d\\\n  http.put(" := by decide +kernel
  have himport : (imports ++ typeImport ++ ", ".intercalate ["It'sId\\Request"] ++
      " \x7d from ").toList = (imports ++ typeImport).toList ++
      "It'sId\\Request \x7d from ".toList := by
    rw [String.toList_append, String.toList_append, List.append_assoc]
    rfl
  obtain ⟨hliterals, hhandlers, himports⟩ := literals_delimited
  refine ⟨(hliterals _ _).mpr (by decide), hhandler, ?_, hmodule, ?_⟩
  · have hread := hhandlers _ _ _ hhandler (by decide) (by decide)
    rw [hroute, hstart] at hread
    exact hread
  · have hread := himports [quotedEndpoint] "./'types" quotedModule (by decide)
      (by rw [hspecifiers]; decide) hmodule (by decide) (by decide)
    rw [hspecifiers, himport] at hread
    exact hread

end MockScaffold.MocksModule
