import MockScaffold.Yaml.Lexeme
import MockScaffold.Yaml.ScalarText

/-!
# The tokens of a YAML text

Indentation becomes explicit tokens: a block collection is opened where its first entry stands
further right than the enclosing one, and closed where a line stands further left.  A key needs no
mark of its own; it is recognised at the colon after it.  A token that might be such a key is
therefore remembered as a *candidate*, with its number among the tokens, and when the colon comes
the marks are put in front of it.  A candidate expires at the end of its line, or 1024 characters
on; one that stands where only a key can stand must not expire.

`Token.ofText` yields the tokens up to the first fault, and that fault.  A token is not yielded
while it may turn out to start a key, so a fault met in the meantime comes before it.
-/

namespace MockScaffold.Yaml

/-- A token. -/
inductive Token where
  | streamEnd
  | directive (d : Directive)
  | documentStart
  | documentEnd
  | blockSequenceStart
  | blockMappingStart
  | blockEnd
  | flowSequenceStart
  | flowSequenceEnd
  | flowMappingStart
  | flowMappingEnd
  | blockEntry
  | flowEntry
  | key
  | value
  | alias (name : String)
  | anchor (name : String)
  | tag (handle : Option String) (suffix : String)
  | scalar (text : String) (plain : Bool)
  deriving DecidableEq, Repr

/-- A token that may turn out to start a key. -/
structure Candidate where
  tokenNumber : Nat
  required : Bool
  index : Nat
  line : Nat
  column : Nat

/-- The state between two tokens.  `indent` is the column of the innermost block collection, `-1`
outside of all, and `indents` those around it; `candidates` holds at most one candidate for each
level of flow collections. -/
structure Lexer where
  cursor : Cursor
  tokens : Array Token
  flowLevel : Nat
  indent : Int
  indents : List Int
  keyAllowed : Bool
  candidates : List (Nat × Candidate)

namespace Lexer

def start (cs : List Char) : Lexer where
  cursor := Cursor.start cs
  tokens := #[]
  flowLevel := 0
  indent := -1
  indents := []
  keyAllowed := true
  candidates := []

def push (t : Token) (x : Lexer) : Lexer := { x with tokens := x.tokens.push t }

/-- Puts a token in front of the one with the given number. -/
def insert (n : Nat) (t : Token) (x : Lexer) : Lexer :=
  if h : n ≤ x.tokens.size then { x with tokens := x.tokens.insertIdx n t h } else x

/-- Pushes a mark of the given number of characters. -/
def mark (length : Nat) (t : Token) (x : Lexer) : Lexer :=
  { x.push t with cursor := x.cursor.skip length }

def inFlow (x : Lexer) : Bool := x.flowLevel != 0

/-- Passes over blanks, comments and line breaks; after a break in block context a key may
start. -/
def skipBlanks : Nat → Lexer → Lexer
  | 0, x => x
  | fuel + 1, x =>
    let c := (x.cursor.skipRun (· == ' ')).skipComment
    match c.lineBreak? with
    | some (_, c) => skipBlanks fuel { x with cursor := c, keyAllowed := x.keyAllowed || !x.inFlow }
    | none => { x with cursor := c }

/-- Passes over what lies between tokens, and over a byte order mark at the start of the text. -/
def toNextToken (x : Lexer) : Lexer :=
  let c := x.cursor
  let c := if c.index = 0 ∧ c.peek = some '\uFEFF' then c.next else c
  skipBlanks (c.rest.length + 1) { x with cursor := c }

/-- Whether a candidate has not expired. -/
def isFresh (x : Lexer) (k : Candidate) : Bool :=
  k.line == x.cursor.line && x.cursor.index ≤ k.index + 1024

/-- Drops the candidates that have expired. -/
def expire (x : Lexer) : Except Fault Lexer :=
  if x.candidates.any fun k => !x.isFresh k.2 && k.2.required then .error (.malformed .missingColon)
  else .ok { x with candidates := x.candidates.filter fun k => x.isFresh k.2 }

/-- The tokens before the first that may still turn out to start a key. -/
def settled (x : Lexer) : List Token :=
  let fresh := x.candidates.filter fun k => x.isFresh k.2
  x.tokens.toList.take (fresh.foldl (fun n k => min n k.2.tokenNumber) x.tokens.size)

/-- Drops the candidate of the present flow level. -/
def dropCandidate (x : Lexer) : Except Fault Lexer :=
  match x.candidates.lookup x.flowLevel with
  | some k =>
    if k.required then .error (.malformed .missingColon)
    else .ok { x with candidates := x.candidates.filter (·.1 != x.flowLevel) }
  | none => .ok x

/-- Remembers the token about to come as a candidate, if a key may stand here. -/
def saveCandidate (x : Lexer) : Except Fault Lexer :=
  if x.keyAllowed then do
    let x ← x.dropCandidate
    let c := x.cursor
    let k : Candidate := {
      tokenNumber := x.tokens.size
      required := !x.inFlow && x.indent == c.column
      index := c.index
      line := c.line
      column := c.column }
    return { x with candidates := (x.flowLevel, k) :: x.candidates }
  else .ok x

/-- Closes the block collections that stand further right than a column. -/
def closeBlocks (column : Int) (x : Lexer) : Lexer :=
  if x.inFlow then x
  else
    let closed := (x.indent :: x.indents).takeWhile (column < ·)
    let left := (x.indent :: x.indents).dropWhile (column < ·)
    { x with
      tokens := closed.foldl (fun ts _ => ts.push .blockEnd) x.tokens
      indent := left.headD (-1)
      indents := left.tail }

/-- Opens a block collection at a column that lies further right than the present one; tells
whether it did. -/
def openBlock (column : Nat) (x : Lexer) : Bool × Lexer :=
  if x.indent < column then (true, { x with indent := column, indents := x.indent :: x.indents })
  else (false, x)

/-- Ends all blocks, as the marks of documents do. -/
def endBlocks (x : Lexer) : Except Fault Lexer := do
  let x ← (x.closeBlocks (-1)).dropCandidate
  return { x with keyAllowed := false }

/-- A directive line. -/
def directive (x : Lexer) : Except Fault Lexer := do
  let x ← x.endBlocks
  let (d, c) ← x.cursor.directive
  return { x.push (.directive d) with cursor := c }

/-- One of the marks between documents. -/
def separator (t : Token) (x : Lexer) : Except Fault Lexer := do
  let x ← x.endBlocks
  return x.mark 3 t

def flowStart (t : Token) (x : Lexer) : Except Fault Lexer := do
  let x ← x.saveCandidate
  return { x.mark 1 t with flowLevel := x.flowLevel + 1, keyAllowed := true }

/-- Ends a flow collection; a closing mark outside of all fits nowhere. -/
def flowEnd (t : Token) (x : Lexer) : Except Fault Lexer := do
  let x ← x.dropCandidate
  if x.flowLevel = 0 then .error (.malformed .unexpectedToken)
  return { x.mark 1 t with flowLevel := x.flowLevel - 1, keyAllowed := false }

def flowEntry (x : Lexer) : Except Fault Lexer := do
  let x ← { x with keyAllowed := true }.dropCandidate
  return x.mark 1 .flowEntry

/-- Opens a block collection for an entry or a key that is marked here. -/
def openMarked (t : Token) (x : Lexer) : Except Fault Lexer :=
  if x.inFlow then .ok x
  else if !x.keyAllowed then .error (.malformed .misplaced)
  else
    match x.openBlock x.cursor.column with
    | (true, x) => .ok (x.push t)
    | (false, x) => .ok x

def blockEntry (x : Lexer) : Except Fault Lexer := do
  let x ← x.openMarked .blockSequenceStart
  let x ← { x with keyAllowed := true }.dropCandidate
  return x.mark 1 .blockEntry

def explicitKey (x : Lexer) : Except Fault Lexer := do
  let x ← x.openMarked .blockMappingStart
  let x ← { x with keyAllowed := !x.inFlow }.dropCandidate
  return x.mark 1 .key

/-- Turns the candidate of the present flow level into a key. -/
def turnToKey (k : Candidate) (x : Lexer) : Lexer :=
  let x := { x with candidates := x.candidates.filter (·.1 != x.flowLevel), keyAllowed := false }
  let x := x.insert k.tokenNumber .key
  if x.inFlow then x
  else
    match x.openBlock k.column with
    | (true, x) => x.insert k.tokenNumber .blockMappingStart
    | (false, x) => x

/-- A colon: it turns the candidate into a key, or else gives an explicit or missing key its
value. -/
def value (x : Lexer) : Except Fault Lexer :=
  match x.candidates.lookup x.flowLevel with
  | some k => .ok ((x.turnToKey k).mark 1 .value)
  | none => do
    let x ← x.openMarked .blockMappingStart
    let x ← { x with keyAllowed := !x.inFlow }.dropCandidate
    return x.mark 1 .value

/-- Pushes a token that may start a key, read by the given function. -/
def lexeme {α : Type} (read : Cursor → Except Fault (α × Cursor)) (token : α → Token) (x : Lexer) :
    Except Fault Lexer := do
  let x ← x.saveCandidate
  let (a, c) ← read x.cursor
  return { x.push (token a) with cursor := c, keyAllowed := false }

def plain (x : Lexer) : Except Fault Lexer := do
  let x ← x.saveCandidate
  let (text, c, ended) := x.cursor.plainScalar x.inFlow (x.indent + 1)
  return { x.push (.scalar text true) with cursor := c, keyAllowed := ended }

def block (folded : Bool) (x : Lexer) : Except Fault Lexer := do
  let x ← x.dropCandidate
  let (text, c) ← x.cursor.blockScalar folded (max 1 (x.indent + 1)).toNat
  return { x.push (.scalar text false) with cursor := c, keyAllowed := true }

/-- Whether a plain scalar can start here. -/
def startsPlain (x : Lexer) : Bool :=
  match x.cursor.peek with
  | none => false
  | some ch =>
    !(endsItem (some ch) || "-?:,[]\x7b\x7d#&*!|>'\"%@`".toList.contains ch) ||
      (!endsItem (x.cursor.peekAt 1) && (ch == '-' || (!x.inFlow && (ch == '?' || ch == ':'))))

/-- Takes the token that starts with `ch`, the next character, or the several that come with it. -/
def token (ch : Char) (x : Lexer) : Except Fault Lexer :=
  let c := x.cursor
  let spaced := endsItem (c.peekAt 1)
  if c.column = 0 ∧ ch = '%' then x.directive
  else if c.column = 0 ∧ c.atSeparator then
    x.separator (if ch = '-' then .documentStart else .documentEnd)
  else if ch = '[' then x.flowStart .flowSequenceStart
  else if ch = '{' then x.flowStart .flowMappingStart
  else if ch = ']' then x.flowEnd .flowSequenceEnd
  else if ch = '}' then x.flowEnd .flowMappingEnd
  else if ch = ',' then x.flowEntry
  else if ch = '-' && spaced then x.blockEntry
  else if ch = '?' && (x.inFlow || spaced) then x.explicitKey
  else if ch = ':' && (x.inFlow || spaced) then x.value
  else if ch = '*' then x.lexeme Cursor.anchorName .alias
  else if ch = '&' then x.lexeme Cursor.anchorName .anchor
  else if ch = '!' then x.lexeme Cursor.tag fun t => .tag t.1 t.2
  else if (ch = '|' || ch = '>') && !x.inFlow then x.block (ch == '>')
  else if ch = '\'' || ch = '"' then
    x.lexeme (Cursor.quotedScalar (ch == '"')) fun s => .scalar s false
  else if x.startsPlain then x.plain
  else .error (.malformed .strayCharacter)

/-- Goes to the next token and takes it.  `none` means that the text has ended. -/
def step (x : Lexer) : Except Fault (Option Lexer) := do
  let x ← x.toNextToken.expire
  let x := x.closeBlocks x.cursor.column
  match x.cursor.peek with
  | none => return none
  | some ch => return some (← x.token ch)

/-- Takes tokens to the end of the text or to the first fault.  The first argument bounds the
number of steps, each of which takes a character. -/
def run : Nat → Lexer → List Token × Option Fault
  | 0, x => (x.tokens.toList, some (.malformed .strayCharacter))
  | fuel + 1, x =>
    match x.step with
    | .error e => (x.settled, some e)
    | .ok (some x) => run fuel x
    | .ok none =>
      match (do (← x.toNextToken.expire).endBlocks) with
      | .error e => (x.tokens.toList, some e)
      | .ok x => ((x.push .streamEnd).tokens.toList, none)

end Lexer

/-- The tokens of a text, and the fault that ended them early. -/
def Token.ofText (cs : List Char) : List Token × Option Fault :=
  (Lexer.start cs).run (cs.length + 1)

end MockScaffold.Yaml
