import MockScaffold.Yaml.Leaf
import MockScaffold.Yaml.Node

/-!
# Building the values of a document

The value of every node is built once, and is then shared by all places that hold the node.  A
scalar is read as soon as it is met.  A collection is only begun, and filled when its turn comes:
first what was begun first, so the collections are filled level by level.  Therefore of several
faults the one that counts is the shallowest, and of those the first.

The nodes themselves are never changed.  Merging changes the entries of mappings, and it makes plain
text of the keys `=` that it passes; both are kept beside the nodes.
-/

namespace MockScaffold.Yaml

/-- A built value; the values inside a collection are those of the given nodes. -/
inductive Piece where
  | scalar (s : Scalar)
  | list (items : List Nat)
  | map (entries : List (Scalar × Nat))
  | set (members : List Scalar)
  | pairs (entries : List (Nat × Nat))

/-- What a collection is before it is filled. -/
def Piece.begun? : Tag → Option Piece
  | .sequence => some (.list [])
  | .mapping => some (.map [])
  | .set => some (.set [])
  | .orderedMapping | .pairs => some (.pairs [])
  | _ => none

/-- The entries of a mapping. -/
def Content.entries : Content → List (Nat × Nat)
  | .mapping entries => entries
  | _ => []

/-- The node of a number. -/
def Document.node (d : Document) (n : Nat) : Node := d.nodes.getD n ⟨.null, .scalar ""⟩

/-- The number of entries of all mappings. -/
def Document.entryCount (d : Document) : Nat :=
  d.nodes.foldl (fun count node => count + node.content.entries.length) 0

/-- What has been built: the entries of each mapping as merging has left them, the keys that have
become plain text, the values of the nodes so far, and the collections that wait to be filled, the
last one first. -/
structure Builder where
  entries : Array (List (Nat × Nat))
  texts : List Nat
  pieces : Array (Option Piece)
  waiting : List Nat

/-- A step in building the values of a document. -/
abbrev Build (α : Type) := StateT Builder (Except Fault) α

namespace Builder

/-- Nothing is built yet. -/
def start (d : Document) : Builder where
  entries := d.nodes.map fun node => node.content.entries
  texts := []
  pieces := Array.replicate d.nodes.size none
  waiting := []

/-- The entries of a mapping. -/
def entriesOf (b : Builder) (n : Nat) : List (Nat × Nat) := b.entries.getD n []

/-- The value of a node, if it has been built. -/
def piece? (b : Builder) (n : Nat) : Option Piece := b.pieces.getD n none

/-- The tag of a node. -/
def tagOf (d : Document) (b : Builder) (n : Nat) : Tag :=
  match (d.node n).tag with
  | .default => if b.texts.contains n then .text else .default
  | tag => tag

/-- The text of a node under a tag for scalars.  A mapping stands for its default value, if it has
one.  The first argument bounds the number of mappings on the way; a way with more of them than
there are nodes has no end. -/
def scalarText (d : Document) (b : Builder) : Nat → Nat → Except Fault String
  | 0, _ => .error (.value .endlessDefault)
  | fuel + 1, n =>
    match (d.node n).content with
    | .scalar text => .ok text
    | .sequence _ => .error (.malformed .kindOfNode)
    | .mapping _ =>
      match (b.entriesOf n).find? fun e => b.tagOf d e.1 = .default with
      | some e => b.scalarText d fuel e.2
      | none => .error (.malformed .kindOfNode)

/-- A node read under a tag for scalars.  A date is taken from the node's own text. -/
def leaf (d : Document) (b : Builder) (n : Nat) : Except Fault Scalar := do
  let text ← b.scalarText d (d.nodes.size + 1) n
  match b.tagOf d n, (d.node n).content with
  | .timestamp, .mapping _ => .error (.value .timestampMapping)
  | tag, _ => leafValue tag text

end Builder

namespace Build

def refuse {α : Type} (m : Malformed) : Build α := throw (.malformed m)

/-- Puts the entries of a mapping in place of what they were. -/
def putEntries (n : Nat) (entries : List (Nat × Nat)) : Build Unit :=
  modify fun b => { b with entries := b.entries.setIfInBounds n entries }

def putPiece (n : Nat) (p : Piece) : Build Unit :=
  modify fun b => { b with pieces := b.pieces.setIfInBounds n (some p) }

/-- Makes plain text of keys. -/
def putTexts (keys : List Nat) : Build Unit := modify fun b => { b with texts := keys ++ b.texts }

variable (d : Document)

/-- Takes the first merge key out of a mapping, and gives its value. -/
def takeMerge (n : Nat) : Build (Option Nat) := do
  let entries := (← get).entriesOf n
  let isMerge := fun e : Nat × Nat => decide ((d.node e.1).tag = .merge)
  match entries.find? isMerge with
  | none => return none
  | some (_, value) =>
    putEntries n (entries.eraseP isMerge)
    return some value

/-- Replaces the merge keys of a mapping by the entries they bring in, which are put in front; those
are gathered in `merged`.  A merge key takes a mapping, or a sequence of mappings of which the later
ones come first.  The way may lead back to a mapping that is being merged, and the rest of its merge
keys are taken there.  The first argument bounds the number of merge keys. -/
def merge : Nat → Nat → List (Nat × Nat) → Build Unit
  | 0, _, _ => refuse .mergedValue
  | fuel + 1, n, merged => do
    match ← takeMerge d n with
    | none =>
      let own := (← get).entriesOf n
      putTexts ((own.map (·.1)).filter fun k => (d.node k).tag = .default)
      putEntries n (merged ++ own)
    | some source =>
      match (d.node source).content with
      | .mapping _ =>
        merge fuel source []
        merge fuel n (merged ++ (← get).entriesOf source)
      | .sequence items =>
        let groups ← items.mapM fun item => do
          match (d.node item).content with
          | .mapping _ =>
            merge fuel item []
            return (← get).entriesOf item
          | _ => refuse .mergedValue
        merge fuel n (merged ++ groups.reverse.flatten)
      | .scalar _ => refuse .mergedValue

/-- Reads a scalar or begins a collection, unless the node has its value already. -/
def start (n : Nat) : Build Unit := do
  let b ← get
  if (b.piece? n).isSome then return
  let tag := b.tagOf d n
  match Piece.begun? tag, tag with
  | some p, _ =>
    putPiece n p
    modify fun b => { b with waiting := n :: b.waiting }
  | none, .merge | none, .default | none, .unknown _ => refuse .unknownTag
  | none, _ => putPiece n (.scalar (← b.leaf d n))

/-- A key, which has to be a scalar. -/
def key (n : Nat) : Build Scalar := do
  start d n
  match (← get).piece? n with
  | some (.scalar s) => return s
  | _ => refuse .keyKind

/-- The entries that fill a mapping. -/
def entries (n : Nat) : Build (List (Scalar × Nat)) := do
  match (d.node n).content with
  | .mapping _ =>
    merge d (d.entryCount + 1) n []
    let filled ← ((← get).entriesOf n).mapM fun (k, v) => do
      let key ← key d k
      start d v
      return (key, v)
    return MockScaffold.putEntries [] filled
  | _ => refuse .kindOfNode

/-- The one entry of an item in a list of pairs. -/
def pair (n : Nat) : Build (Nat × Nat) := do
  match (d.node n).content, (← get).entriesOf n with
  | .mapping _, [(k, v)] =>
    start d k
    start d v
    return (k, v)
  | _, _ => refuse .kindOfNode

/-- The items of a sequence. -/
def items (n : Nat) : Build (List Nat) :=
  match (d.node n).content with
  | .sequence items => return items
  | _ => refuse .kindOfNode

/-- Fills a collection. -/
def fill (n : Nat) : Build Unit := do
  match (d.node n).tag with
  | .mapping => putPiece n (.map (← entries d n))
  | .set => putPiece n (.set ((← entries d n).map (·.1)))
  | .sequence =>
    let items ← items d n
    items.forM (start d)
    putPiece n (.list items)
  | _ => putPiece n (.pairs (← (← items d n).mapM (pair d)))

/-- Fills the collections that wait, and those that are begun meanwhile.  The first argument bounds
the number of levels. -/
def fillAll : Nat → Build Unit
  | 0 => return ()
  | fuel + 1 => do
    let due := (← get).waiting.reverse
    if due.isEmpty then return
    modify fun b => { b with waiting := [] }
    due.forM (fill d)
    fillAll fuel

/-- Builds the value of the root, and of all that is in it. -/
def all : Build Unit := do
  start d d.root
  fillAll d (d.nodes.size + 1)

end Build

/-- The sample of a node, put together from the built values.  The first argument bounds the depth;
what is deeper than there are nodes contains itself. -/
def sample? (b : Builder) : Nat → Nat → Option Sample
  | 0, _ => none
  | fuel + 1, n =>
    match b.piece? n with
    | none => none
    | some (.scalar s) => some (.scalar s)
    | some (.list items) => do return .list (← items.mapM (sample? b fuel))
    | some (.map entries) => do
      return .map (← entries.mapM fun (key, v) => do return (key, ← sample? b fuel v))
    | some (.set members) => some (.set members)
    | some (.pairs entries) => do
      return .list (← entries.mapM fun (k, v) => do
        return .pair (← sample? b fuel k) (← sample? b fuel v))

/-- The sample that a document holds.  A value that contains itself is no sample. -/
def Document.sample (d : Document) : Except Fault Sample := do
  let ((), b) ← (Build.all d).run (.start d)
  match sample? b (d.nodes.size + 1) d.root with
  | some v => return v
  | none => .error (.malformed .selfContaining)

end MockScaffold.Yaml
