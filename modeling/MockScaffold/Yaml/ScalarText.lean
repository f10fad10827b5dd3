import MockScaffold.Text.Hex
import MockScaffold.Text.Surrogate
import MockScaffold.Yaml.Cursor

/-!
# The text of scalars

Quoted, plain and block scalars.  All of them fold lines: a single break between two lines of text
is a space, and further breaks stay breaks.  A break that is one of the two Unicode separators is
kept as it is.  A first `Nat` argument bounds the number of rounds; every round takes a character.
-/

namespace MockScaffold.Yaml.Cursor

/-- The line breaks of empty lines inside quotes, with the blanks around them. -/
def quotedBreaks : Nat → Cursor → Except Fault (List Char × Cursor)
  | 0, c => .ok ([], c)
  | fuel + 1, c =>
    if c.atSeparator then .error (.malformed .separatorInQuotes)
    else
      let c := c.skipRun fun ch => ch == ' ' || ch == '\t'
      match c.lineBreak? with
      | some (b, c) => (quotedBreaks fuel c).map fun (bs, c) => (b :: bs, c)
      | none => .ok ([], c)

/-- Line breaks folded: the first is dropped if others follow, and a space if none does. -/
def fold (first : Char) (others : List Char) : List Char :=
  if first ≠ '\n' then first :: others else if others.isEmpty then [' '] else others

/-- Blanks inside quotes; at the end of a line they are dropped, and the break is folded. -/
def quotedBlanks (c : Cursor) : Except Fault (List Char × Cursor) :=
  let (blanks, c) := c.takeRun fun ch => ch == ' ' || ch == '\t'
  match c.lineBreak? with
  | some (b, c) => (quotedBreaks (c.rest.length + 1) c).map fun (bs, c) => (fold b bs, c)
  | none => if c.rest.isEmpty then .error (.malformed .unterminated) else .ok (blanks, c)

/-- The character that a one-letter escape stands for. -/
def letterEscape? : Char → Option Char
  | '0' => some '\x00'
  | 'a' => some '\x07'
  | 'b' => some '\x08'
  | 't' | '\t' => some '\t'
  | 'n' => some '\n'
  | 'v' => some '\x0b'
  | 'f' => some '\x0c'
  | 'r' => some '\r'
  | 'e' => some '\x1b'
  | ' ' => some ' '
  | '"' => some '"'
  | '\\' => some '\\'
  | '/' => some '/'
  | 'N' => some '\x85'
  | '_' => some '\u00a0'
  | 'L' => some '\u2028'
  | 'P' => some '\u2029'
  | _ => none

/-- The number of hexadecimal digits that an escape takes. -/
def escapeDigits? : Char → Option Nat
  | 'x' => some 2
  | 'u' => some 4
  | 'U' => some 8
  | _ => none

/-- A code point of so many hexadecimal digits. -/
def codePoint? (places : Nat) (cs : List Char) : Option Nat :=
  let digits := cs.take places
  if digits.length = places then Text.ofHex? digits else none

/-- An escaped low surrogate. -/
def lowSurrogate? : List Char → Option Nat
  | '\\' :: 'u' :: rest => (codePoint? 4 rest).filter Text.isLowSurrogate
  | _ => none

/-- An escape by code point, from its digits on.  Two escapes may spell the surrogates of one
character. -/
def escapedCodePoint (places : Nat) (c : Cursor) : Except Fault (List Char × Cursor) :=
  match codePoint? places c.rest with
  | none => .error (.malformed .escape)
  | some n =>
    if 0x110000 ≤ n then .error (.value (.codePoint n))
    else
      let after := c.skip places
      match Text.isHighSurrogate n, lowSurrogate? after.rest with
      | true, some low => .ok ([Text.pairChar n low], after.skip 6)
      | _, _ => .ok ([Text.unitChar n], after)

/-- An escape, from the character after its backslash on.  An escaped line break is dropped with
the blanks that follow it. -/
def escaped (c : Cursor) : Except Fault (List Char × Cursor) :=
  match c.peek with
  | none => .error (.malformed .escape)
  | some ch =>
    match letterEscape? ch, escapeDigits? ch with
    | some x, _ => .ok ([x], c.next)
    | none, some places => c.next.escapedCodePoint places
    | none, none =>
      match c.lineBreak? with
      | some (_, c) => quotedBreaks (c.rest.length + 1) c
      | none => .error (.malformed .escape)

/-- A character that ends a run of ordinary ones inside quotes. -/
def stopsQuoted (ch : Char) : Bool :=
  ch == '\'' || ch == '"' || ch == '\\' || ch == ' ' || ch == '\t' || isBreak ch

/-- The text of a quoted scalar after its opening mark, the closing mark included. -/
def quotedText (double : Bool) : Nat → Cursor → Except Fault (List Char × Cursor)
  | 0, _ => .error (.malformed .unterminated)
  | fuel + 1, c => do
    let (first, c) := c.takeRun (!stopsQuoted ·)
    match c.rest with
    | [] => .error (.malformed .unterminated)
    | ch :: after =>
      if double && ch == '"' then return (first, c.next)
      else if double && ch == '\\' then do
        let (cs, c) ← c.next.escaped
        let (others, c) ← quotedText double fuel c
        return (first ++ cs ++ others, c)
      else if !double && ch == '\'' then
        if after.head? == some '\'' then do
          let (others, c) ← quotedText double fuel (c.skip 2)
          return (first ++ '\'' :: others, c)
        else return (first, c.next)
      else if ch == '\'' || ch == '"' || ch == '\\' then do
        let (others, c) ← quotedText double fuel c.next
        return (first ++ ch :: others, c)
      else do
        let (cs, c) ← c.quotedBlanks
        let (others, c) ← quotedText double fuel c
        return (first ++ cs ++ others, c)

/-- A quoted scalar, from its opening mark on. -/
def quotedScalar (double : Bool) (c : Cursor) : Except Fault (String × Cursor) :=
  (quotedText double (c.rest.length + 1) c.next).map fun (cs, c) => (String.ofList cs, c)

/-! ## Plain scalars -/

/-- The breaks of empty lines between the lines of a plain scalar, with the spaces around them;
`none` if a document ends here. -/
def plainBreaks : Nat → Cursor → Option (List Char) × Cursor
  | 0, c => (some [], c)
  | fuel + 1, c =>
    let c := c.skipRun (· == ' ')
    match c.lineBreak? with
    | some (b, c) =>
      if c.atSeparator then (none, c)
      else
        let (bs?, c) := plainBreaks fuel c
        (bs?.map (b :: ·), c)
    | none => (some [], c)

/-- What stands between two words of a plain scalar: the text it stands for, the place after it,
and whether a line was ended. -/
def plainBlanks (c : Cursor) : List Char × Cursor × Bool :=
  let (spaces, c) := c.takeRun (· == ' ')
  match c.lineBreak? with
  | none => (spaces, c, false)
  | some (b, c) =>
    if c.atSeparator then ([], c, true)
    else
      let (bs?, c) := plainBreaks (c.rest.length + 1) c
      ((bs?.map (fold b)).getD [], c, true)

/-- The length of the word that a plain scalar goes on with: up to a blank, a colon before a
blank, or inside flow collections one of their marks. -/
def plainWordLength (inFlow : Bool) : List Char → Nat
  | [] => 0
  | ch :: rest =>
    let colonEnds :=
      ch == ':' &&
        (endsItem rest.head? || (inFlow && (rest.head?.map ",[]\x7b\x7d".toList.contains).getD false))
    if endsItem (some ch) || colonEnds || (inFlow && ",?[]\x7b\x7d".toList.contains ch) then 0
    else plainWordLength inFlow rest + 1

/-- A plain scalar, given the least column its further lines may have.  The flag says whether it
ended after a line break. -/
def plainText (inFlow : Bool) (least : Int) :
    Nat → List Char → Bool → Cursor → List Char × Cursor × Bool
  | 0, _, ended, c => ([], c, ended)
  | fuel + 1, blanks, ended, c =>
    let length := if c.peek == some '#' then 0 else plainWordLength inFlow c.rest
    if length = 0 then ([], c, ended)
    else
      let word := c.rest.take length
      let (blanks', c, ended) := (c.skip length).plainBlanks
      if blanks'.isEmpty || c.peek == some '#' || (!inFlow && (c.column : Int) < least) then
        (blanks ++ word, c, ended)
      else
        let (others, c, ended) := plainText inFlow least fuel blanks' ended c
        (blanks ++ word ++ others, c, ended)

/-- A plain scalar with the place after it, and whether it ended after a line break. -/
def plainScalar (inFlow : Bool) (least : Int) (c : Cursor) : String × Cursor × Bool :=
  let (cs, c, ended) := plainText inFlow least (c.rest.length + 1) [] false c
  (String.ofList cs, c, ended)

/-! ## Block scalars -/

/-- What becomes of the line breaks at the end of a block scalar. -/
inductive Chomping where
  | clip
  | strip
  | keep
  deriving DecidableEq, Repr

def chomping? : Option Char → Option Chomping
  | some '+' => some .keep
  | some '-' => some .strip
  | _ => none

/-- A digit from 1 to 9 that fixes the indentation; zero is a fault. -/
def indentDigit (c : Cursor) : Except Fault (Option Nat × Cursor) :=
  match c.peek with
  | some ch =>
    if ch.isDigit then
      if ch = '0' then .error (.malformed .blockIndicator)
      else .ok (some (ch.toNat - 48), c.next)
    else .ok (none, c)
  | none => .ok (none, c)

/-- The chomping and the indentation of a block scalar, in either order. -/
def blockIndicators (c : Cursor) : Except Fault ((Chomping × Option Nat) × Cursor) :=
  match chomping? c.peek with
  | some chomping => c.next.indentDigit.map fun (digit, c) => ((chomping, digit), c)
  | none => do
    let (digit, c) ← c.indentDigit
    match digit, chomping? c.peek with
    | some _, some chomping => return ((chomping, digit), c.next)
    | _, _ => return ((.clip, digit), c)

/-- The header of a block scalar after its mark, to the end of the line. -/
def blockHeader (c : Cursor) : Except Fault ((Chomping × Option Nat) × Cursor) := do
  let (header, c) ← c.blockIndicators
  if endsWord c.peek then return (header, ← c.blankLine .blockIndicator)
  else .error (.malformed .blockIndicator)

/-- The empty lines before the first line of text, and the deepest indentation among them. -/
def leadingBreaks : Nat → Nat → Cursor → List Char × Nat × Cursor
  | 0, deepest, c => ([], deepest, c)
  | fuel + 1, deepest, c =>
    match c.peek with
    | some ' ' => let c := c.next; leadingBreaks fuel (max deepest c.column) c
    | _ =>
      match c.lineBreak? with
      | some (b, c) =>
        let (bs, deepest, c) := leadingBreaks fuel deepest c
        (b :: bs, deepest, c)
      | none => ([], deepest, c)

/-- The place after at most as many spaces as lead to the given column. -/
def skipIndent (indent : Nat) (c : Cursor) : Cursor :=
  c.skip (min (indent - c.column) (c.rest.takeWhile (· == ' ')).length)

/-- The empty lines before the next line of text at the given indentation. -/
def blockBreaks (indent : Nat) : Nat → Cursor → List Char × Cursor
  | 0, c => ([], c)
  | fuel + 1, c =>
    let c := c.skipIndent indent
    match c.lineBreak? with
    | some (b, c) =>
      let (bs, c) := blockBreaks indent fuel c
      (b :: bs, c)
    | none => ([], c)

/-- The break at the end of a line, unless the text ends with the line. -/
def ownBreak (c : Cursor) : List Char × Cursor :=
  match c.lineBreak? with
  | some (b, c) => ([b], c)
  | none => ([], c)

/-- The lines of a block scalar from a line of text on: the text, the last line's own break, and
the breaks after it.  `breaks` are those of the empty lines before. -/
def blockLines (folded : Bool) (indent : Nat) :
    Nat → List Char → Cursor → List Char × List Char × List Char × Cursor
  | 0, breaks, c => ([], [], breaks, c)
  | fuel + 1, breaks, c =>
    let isBlank := fun ch? : Option Char => ch? == some ' ' || ch? == some '\t'
    let startsBlank := isBlank c.peek
    let (line, c) := c.takeRun (!isBreak ·)
    let (own, c) := c.ownBreak
    let (after, c) := blockBreaks indent (c.rest.length + 1) c
    if c.column = indent ∧ !c.rest.isEmpty then
      let between :=
        if folded && own == ['\n'] && !startsBlank && !isBlank c.peek then
          if after.isEmpty then [' '] else []
        else own
      let (others, last, trailing, c) := blockLines folded indent fuel after c
      (breaks ++ line ++ between ++ others, last, trailing, c)
    else (breaks ++ line, own, after, c)

/-- The empty lines before the text of a block scalar, and the column of its lines.  That is at
least `least`, and is fixed by a digit or by the first of the lines. -/
def blockStart (least : Nat) (digit? : Option Nat) (c : Cursor) : List Char × Nat × Cursor :=
  match digit? with
  | some digit =>
    let indent := least + digit - 1
    let (breaks, c) := blockBreaks indent (c.rest.length + 1) c
    (breaks, indent, c)
  | none =>
    let (breaks, deepest, c) := leadingBreaks (c.rest.length + 1) 0 c
    (breaks, max least deepest, c)

/-- The text of a block scalar after the empty lines at its start, if there is any. -/
def blockText (folded : Bool) (indent : Nat) (breaks : List Char) (c : Cursor) :
    List Char × List Char × List Char × Cursor :=
  if c.column = indent ∧ !c.rest.isEmpty then
    blockLines folded indent (c.rest.length + 1) breaks c
  else ([], [], breaks, c)

/-- A block scalar, from its mark on.  `least` is the least column its lines may have. -/
def blockScalar (folded : Bool) (least : Nat) (c : Cursor) : Except Fault (String × Cursor) := do
  let ((chomping, digit?), c) ← c.next.blockHeader
  let (breaks, indent, c) := c.blockStart least digit?
  let (text, last, trailing, c) := c.blockText folded indent breaks
  let ending :=
    match chomping with
    | .strip => []
    | .clip => last
    | .keep => last ++ trailing
  return (String.ofList (text ++ ending), c)

end MockScaffold.Yaml.Cursor
