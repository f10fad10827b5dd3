import MockScaffold.Route

/-!
# Literals read back

`Route.literal` writes a text as a single-quoted literal.  Whoever reads a script takes such a
literal up to the first quote that no backslash stands before, and the character after a backslash
for itself.  The key fact is `readQuoted?_escapeChar`: what is written for one character is read as
that character, whatever follows.  So a literal is read back as its text and ends where it was
written to end (`readLiteral?_append`), however backslashes and quotes follow one another; unless
the text has a line end, which no literal may hold.
-/

namespace MockScaffold.Route

/-- The characters that may not stand in a literal. -/
def endsLiteral (c : Char) : Bool := c == '\n' || c == '\r'

/-- Reads a literal after its opening quote: its text, and what follows the closing quote.  Only
quotes and backslashes may be escaped. -/
def readQuoted? : List Char → Option (List Char × List Char)
  | [] => none
  | '\'' :: rest => some ([], rest)
  | '\\' :: c :: rest =>
    if c = '\\' ∨ c = '\'' then (readQuoted? rest).map fun (text, after) => (c :: text, after)
    else none
  | c :: rest =>
    if endsLiteral c then none
    else (readQuoted? rest).map fun (text, after) => (c :: text, after)

/-- Reads the literal that a script starts with. -/
def readLiteral? : List Char → Option (List Char × List Char)
  | '\'' :: rest => readQuoted? rest
  | _ => none

/-- What is written for one character is read as that character, if it may stand in a literal. -/
theorem readQuoted?_escapeChar (c : Char) (rest : List Char) :
    readQuoted? (escapeChar c ++ rest) =
      if endsLiteral c then none
      else (readQuoted? rest).map fun (text, after) => (c :: text, after) := by
  by_cases hescape : c = '\\' ∨ c = '\''
  · have hwritten : escapeChar c = ['\\', c] := by simp [escapeChar, hescape]
    have hplain : endsLiteral c = false := by rcases hescape with rfl | rfl <;> rfl
    rw [hwritten, List.cons_append, List.singleton_append, readQuoted?, if_pos hescape, hplain]
    rfl
  · have hwritten : escapeChar c = [c] := by simp [escapeChar, hescape]
    obtain ⟨hbackslash, hquote⟩ := not_or.mp hescape
    rw [hwritten, List.singleton_append, readQuoted?]
    · exact hquote
    · intro d rest' heq
      exact absurd heq hbackslash

/-- What is written for a text is read as that text, if no line ends in it. -/
theorem readQuoted?_flatMap (cs rest : List Char) :
    readQuoted? (cs.flatMap escapeChar ++ '\'' :: rest) =
      if cs.any endsLiteral then none else some (cs, rest) := by
  induction cs with
  | nil => rfl
  | cons c cs ih =>
      rw [List.flatMap_cons, List.append_assoc, readQuoted?_escapeChar, ih, List.any_cons]
      cases endsLiteral c with
      | true => rfl
      | false => cases cs.any endsLiteral <;> rfl

/-- At the start of a script, a literal is read up to its end as the text that it was written for,
and what follows is left as it is; unless the text ends a line, and then no literal is read. -/
theorem readLiteral?_append (s : String) (rest : List Char) :
    readLiteral? ((literal s).toList ++ rest) =
      if s.toList.any endsLiteral then none else some (s.toList, rest) := by
  have hliteral : (literal s).toList ++ rest =
      '\'' :: (s.toList.flatMap escapeChar ++ '\'' :: rest) := by
    simp [literal]
  rw [hliteral, readLiteral?, readQuoted?_flatMap]

/-- A literal is read back from in front of any text just when it has no line break of its own. -/
theorem readLiteral?_append_eq_some_iff {s : String} {rest : List Char} :
    readLiteral? ((literal s).toList ++ rest) = some (s.toList, rest) ↔
      '\n' ∉ s.toList ∧ '\r' ∉ s.toList := by
  have hends : s.toList.any endsLiteral = false ↔ '\n' ∉ s.toList ∧ '\r' ∉ s.toList := by
    simp only [List.any_eq_false, endsLiteral, Bool.or_eq_true, beq_iff_eq, not_or]
    exact ⟨fun h => ⟨fun hmem => (h _ hmem).1 rfl, fun hmem => (h _ hmem).2 rfl⟩,
      fun ⟨hfeed, hreturn⟩ c hc => ⟨fun heq => hfeed (heq ▸ hc), fun heq => hreturn (heq ▸ hc)⟩⟩
  rw [readLiteral?_append, ← hends]
  cases s.toList.any endsLiteral <;> simp

end MockScaffold.Route
