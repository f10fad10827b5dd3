import MockScaffold.Yaml.Tag
import MockScaffold.Yaml.Token

/-!
# The nodes of a YAML document

A node is a tagged scalar, sequence or mapping.  An alias is the node that it names, so a node may
be reached in several ways, even from inside itself; therefore the nodes of a document are numbered,
and a collection holds the numbers of its parts.  `Document.ofTokens?` reads the single document of
a text from its tokens: directives, the root node and the marks of documents.

Each function of the grammar starts at the token it is named for and leaves the tokens after it.
The first argument of each bounds the depth of the recursion; between two tokens it goes down at
most four levels.
-/

namespace MockScaffold.Yaml

/-- What a node holds. -/
inductive Content where
  | scalar (text : String)
  | sequence (items : List Nat)
  | mapping (entries : List (Nat × Nat))
  deriving DecidableEq, Repr

/-- A tagged value. -/
structure Node where
  tag : Tag
  content : Content
  deriving DecidableEq, Repr

/-- The nodes of a document, and which of them is the whole. -/
structure Document where
  nodes : Array Node
  root : Nat

/-- Why the reader of nodes stops: it refuses a token, or there is none left. -/
inductive Stop where
  | refused (m : Malformed)
  | exhausted
  deriving DecidableEq, Repr

/-- What the reader of nodes knows: the tokens ahead, the nodes so far, the anchors with their nodes
and the abbreviations for tags. -/
structure Composer where
  tokens : List Token
  nodes : Array Node
  anchors : List (String × Nat)
  handles : List (String × String)

/-- A step of the reader of nodes. -/
abbrev Compose (α : Type) := StateT Composer (Except Stop) α

namespace Compose

def refuse {α : Type} (m : Malformed) : Compose α := throw (.refused m)

/-- The next token, which is not taken. -/
def peek : Compose Token := do
  match (← get).tokens with
  | t :: _ => return t
  | [] => throw .exhausted

def advance : Compose Unit := modify fun s => { s with tokens := s.tokens.tail }

/-- Takes the next token if it is the given one. -/
def accept (t : Token) : Compose Bool := do
  if (← peek) = t then
    advance
    return true
  else return false

/-- Takes an anchor. -/
def anchor? : Compose (Option String) := do
  match ← peek with
  | .anchor name => advance; return some name
  | _ => return none

/-- Takes a tag as it is written. -/
def tag? : Compose (Option (Option String × String)) := do
  match ← peek with
  | .tag handle suffix => advance; return some (handle, suffix)
  | _ => return none

/-- Spells out a tag. -/
def spellOut : Option String × String → Compose String
  | (none, suffix) => return suffix
  | (some handle, suffix) => do
    match (← get).handles.lookup handle with
    | some leading => return leading ++ suffix
    | none => refuse .undefinedHandle

/-- An anchor and a tag as it is written, in either order. -/
def writtenProperties : Compose (Option String × Option (Option String × String)) := do
  match ← anchor? with
  | some a => return (some a, ← tag?)
  | none =>
    match ← tag? with
    | some t => return (← anchor?, some t)
    | none => return (none, none)

/-- An anchor and a tag, which is spelled out when both have been taken. -/
def properties : Compose (Option String × Option String) := do
  let (anchor, tag) ← writtenProperties
  match tag with
  | some t => return (anchor, some (← spellOut t))
  | none => return (anchor, none)

/-- Gives a node its anchor, if it has one; no two nodes may have the same. -/
def setAnchor (n : Nat) : Option String → Compose Unit
  | none => return ()
  | some name => do
    if ((← get).anchors.lookup name).isSome then refuse .repeatedAnchor
    else modify fun s => { s with anchors := (name, n) :: s.anchors }

/-- Adds a node, and gives its number. -/
def add (anchor : Option String) (tag : Tag) (content : Content) : Compose Nat := do
  let n := (← get).nodes.size
  modify fun s => { s with nodes := s.nodes.push ⟨tag, content⟩ }
  setAnchor n anchor
  return n

/-- The nothing that stands where a value is left out. -/
def addEmpty : Compose Nat := add none .null (.scalar "")

/-- Gives a collection its parts, which may hold it. -/
def complete (n : Nat) (content : Content) : Compose Nat := do
  modify fun s => { s with nodes := s.nodes.modify n fun node => { node with content } }
  return n

/-- The tag of a scalar: a plain one without a tag, and any with the tag `!`, are judged by their
spelling. -/
def scalarTag (tag : Option String) (plain : Bool) (text : String) : Tag :=
  match tag with
  | none => if plain then Tag.ofPlain text else .text
  | some "!" => Tag.ofPlain text
  | some name => Tag.ofName name

/-- The tag of a collection. -/
def collectionTag (tag : Option String) (usual : Tag) : Tag :=
  match tag with
  | none | some "!" => usual
  | some name => Tag.ofName name

/-- Whether a token can follow a place where a node was left out. -/
def endsNode (inFlow : Bool) (t : Token) : Bool :=
  if inFlow then
    [Token.value, .flowEntry, .flowSequenceEnd, .flowMappingEnd].contains t
  else [Token.key, .value, .blockEnd].contains t

/-- A node, or nothing if a token comes that ends its place. -/
def nodeUnless (ends : Token → Bool) (node : Compose Nat) : Compose Nat := do
  if ends (← peek) then addEmpty else node

/-- A key after its mark, and its value, which may have a mark or be left out. -/
def entry (value : Compose Nat) : Compose (Nat × Nat) := do
  let key ← value
  if ← accept .value then return (key, ← value) else return (key, ← addEmpty)

/-- The comma before every item but the first. -/
def comma (first : Bool) : Compose Unit := do
  if first then return ()
  else if ← accept .flowEntry then return ()
  else refuse .unexpectedToken

/-- An item of a flow sequence.  A marked key makes a mapping of one entry. -/
def flowItem (value node : Compose Nat) : Compose Nat := do
  if ← accept .key then
    let n ← add none .mapping (.mapping [])
    complete n (.mapping [← entry value])
  else node

/-- An entry of a flow mapping.  An item without a mark is a key without a value. -/
def flowEntry (value node : Compose Nat) : Compose (Nat × Nat) := do
  if ← accept .key then entry value else return (← node, ← addEmpty)

mutual

/-- A node.  In `block` context block collections may start here; `indentless` sequences are those
whose entries stand at the column of the key before them. -/
def node : Nat → Bool → Bool → Compose Nat
  | 0, _, _ => refuse .unexpectedToken
  | fuel + 1, block, indentless => do
    match ← peek with
    | .alias name =>
      advance
      match (← get).anchors.lookup name with
      | some n => return n
      | none => refuse .undefinedAlias
    | _ =>
      let (anchor, tag) ← properties
      let t ← peek
      match t, block with
      | .scalar text plain, _ =>
        advance
        add anchor (scalarTag tag plain text) (.scalar text)
      | .flowSequenceStart, _ =>
        let n ← add anchor (collectionTag tag .sequence) (.sequence [])
        advance
        complete n (.sequence (← flowItems fuel true))
      | .flowMappingStart, _ =>
        let n ← add anchor (collectionTag tag .mapping) (.mapping [])
        advance
        complete n (.mapping (← flowEntries fuel true))
      | .blockSequenceStart, true =>
        let n ← add anchor (collectionTag tag .sequence) (.sequence [])
        advance
        complete n (.sequence (← blockItems fuel))
      | .blockMappingStart, true =>
        let n ← add anchor (collectionTag tag .mapping) (.mapping [])
        advance
        complete n (.mapping (← blockEntries fuel))
      | _, _ =>
        if indentless && t = .blockEntry then
          let n ← add anchor (collectionTag tag .sequence) (.sequence [])
          complete n (.sequence (← indentlessItems fuel))
        else if anchor.isSome || tag.isSome then
          add anchor (scalarTag tag tag.isNone "") (.scalar "")
        else refuse .unexpectedToken

/-- The entries of a block sequence, up to and with its end. -/
def blockItems : Nat → Compose (List Nat)
  | 0 => refuse .unexpectedToken
  | fuel + 1 => do
    if ← accept .blockEntry then
      let item ← nodeUnless (fun t => t = .blockEntry ∨ t = .blockEnd) (node fuel true false)
      return item :: (← blockItems fuel)
    else if ← accept .blockEnd then return []
    else refuse .unexpectedToken

/-- The entries of a sequence that is not indented. -/
def indentlessItems : Nat → Compose (List Nat)
  | 0 => refuse .unexpectedToken
  | fuel + 1 => do
    if ← accept .blockEntry then
      let item ← nodeUnless (fun t => t = .blockEntry ∨ endsNode false t) (node fuel true false)
      return item :: (← indentlessItems fuel)
    else return []

/-- A key or a value after its mark, or nothing. -/
def valueNode : Nat → Bool → Compose Nat
  | 0, _ => refuse .unexpectedToken
  | fuel + 1, inFlow => nodeUnless (endsNode inFlow) (node fuel (!inFlow) (!inFlow))

/-- The entries of a block mapping, up to and with its end. -/
def blockEntries : Nat → Compose (List (Nat × Nat))
  | 0 => refuse .unexpectedToken
  | fuel + 1 => do
    if ← accept .blockEnd then return []
    else if ← accept .key then return (← entry (valueNode fuel false)) :: (← blockEntries fuel)
    else refuse .unexpectedToken

/-- The items of a flow sequence, up to and with its end. -/
def flowItems : Nat → Bool → Compose (List Nat)
  | 0, _ => refuse .unexpectedToken
  | fuel + 1, first => do
    if ← accept .flowSequenceEnd then return []
    comma first
    if ← accept .flowSequenceEnd then return []
    let item ← flowItem (valueNode fuel true) (node fuel false false)
    return item :: (← flowItems fuel false)

/-- The entries of a flow mapping, up to and with its end. -/
def flowEntries : Nat → Bool → Compose (List (Nat × Nat))
  | 0, _ => refuse .unexpectedToken
  | fuel + 1, first => do
    if ← accept .flowMappingEnd then return []
    comma first
    if ← accept .flowMappingEnd then return []
    let entry ← flowEntry (valueNode fuel true) (node fuel false false)
    return entry :: (← flowEntries fuel false)

end

/-- The abbreviations for tags that need no directive. -/
def defaultHandles : List (String × String) := [("!", "!"), ("!!", coreTags)]

/-- The directives before a document; each handle and the version may be given once. -/
def directives : Nat → Bool → List (String × String) → Compose (List (String × String))
  | 0, _, _ => refuse .unexpectedToken
  | fuel + 1, versioned, handles => do
    match ← peek with
    | .directive d =>
      advance
      match d with
      | .version major _ =>
        if versioned then refuse .repeatedDirective
        else if major ≠ 1 then refuse .version
        else directives fuel true handles
      | .tagHandle handle leading =>
        if (handles.lookup handle).isSome then refuse .repeatedDirective
        else directives fuel versioned ((handle, leading) :: handles)
      | .reserved => directives fuel versioned handles
    | _ => return handles

/-- Whether a document starts with a mark of its own. -/
def startsExplicitly : Token → Bool
  | .directive _ | .documentStart => true
  | _ => false

/-- Whether nothing stands in a document after its mark. -/
def endsDocument : Token → Bool
  | .directive _ | .documentStart | .documentEnd | .streamEnd => true
  | _ => false

/-- Takes the marks that end a document. -/
def skipEnds : Nat → Compose Unit
  | 0 => return ()
  | fuel + 1 => do if ← accept .documentEnd then skipEnds fuel

/-- The root of a document that starts with a mark of its own, after its directives. -/
def explicitRoot (fuel : Nat) : Compose Nat := do
  let handles ← directives fuel false []
  modify fun s => { s with handles := handles ++ defaultHandles }
  if ← accept .documentStart then nodeUnless endsDocument (node fuel true false)
  else refuse .unexpectedToken

/-- The root of the only document of a text; `none` if there is none.  The directives of a second
document are read before it is refused. -/
def document (fuel : Nat) : Compose (Option Nat) := do
  let first ← peek
  if first = .streamEnd then return none
  let root ← (if startsExplicitly first then explicitRoot fuel else node fuel true false)
  skipEnds fuel
  if (← peek) = .streamEnd then return some root
  let _ ← directives fuel false []
  refuse .severalDocuments

end Compose

/-- The document that the tokens spell; `fault` is the fault at their end, if the text was not read
to its end. -/
def Document.ofTokens? (tokens : List Token) (fault : Option Fault) :
    Except Fault (Option Document) := do
  let fuel := 4 * tokens.length + 8
  let result := (Compose.document fuel).run {
    tokens
    nodes := #[]
    anchors := []
    handles := Compose.defaultHandles }
  let (root?, s) ← result.mapError fun
    | .refused m => .malformed m
    | .exhausted => fault.getD (.malformed .unterminated)
  return root?.map fun root => ⟨s.nodes, root⟩

end MockScaffold.Yaml
