/-!
# Similar texts

Two texts share the longest block of characters that both contain, and what is shared, by the same
rule, to the left and to the right of it; of several longest blocks the one that starts first counts.
The texts are *similar* when the shared characters, counted in both, are three fifths of all
characters at least.
-/

namespace MockScaffold.Text

/-- The length of the longest common start. -/
def commonStart : List Char → List Char → Nat
  | a :: as, b :: bs => if a = b then commonStart as bs + 1 else 0
  | _, _ => 0

/-- A block of `length` characters at the offsets `left` and `right` of two texts. -/
structure SharedBlock where
  left : Nat
  right : Nat
  length : Nat
  deriving DecidableEq, Repr

/-- The longest block that two texts share; the first one of several. -/
def longestBlock (a b : List Char) : SharedBlock :=
  let starts := (List.range a.length).flatMap fun i => (List.range b.length).map (i, ·)
  starts.foldl
    (fun best (i, j) =>
      let n := commonStart (a.drop i) (b.drop j)
      if best.length < n then ⟨i, j, n⟩ else best)
    ⟨0, 0, 0⟩

/-- The number of characters that two texts share, `fuel` being at least the length of the first:
each block leaves less of it on either side. -/
def sharedWithin : Nat → List Char → List Char → Nat
  | 0, _, _ => 0
  | fuel + 1, a, b =>
    let block := longestBlock a b
    if block.length = 0 then 0
    else
      sharedWithin fuel (a.take block.left) (b.take block.right) + block.length +
        sharedWithin fuel (a.drop (block.left + block.length)) (b.drop (block.right + block.length))

/-- The number of characters that two texts share. -/
def shared (a b : List Char) : Nat := sharedWithin a.length a b

/-- How much of two texts is shared: so many characters of so many. -/
structure Likeness where
  shared : Nat
  total : Nat
  deriving DecidableEq, Repr

namespace Likeness

def of (a b : List Char) : Likeness := ⟨2 * Text.shared a b, a.length + b.length⟩

/-- Three fifths of the characters at least. -/
def isClose (l : Likeness) : Bool := 3 * l.total ≤ 5 * l.shared

/-- Whether the first quotient is the smaller one. -/
def lt (l m : Likeness) : Bool := l.shared * m.total < m.shared * l.total

end Likeness

/-- At most three of the candidates, the most similar ones, in the order of their texts. -/
def similar (word : String) (candidates : List String) : List String :=
  let scored := candidates.map fun c => (Likeness.of c.toList word.toList, c)
  let ranked := (scored.filter (·.1.isClose)).mergeSort fun x y =>
    y.1.lt x.1 || (!x.1.lt y.1 && y.2 ≤ x.2)
  ((ranked.take 3).map (·.2)).mergeSort (· ≤ ·)

end MockScaffold.Text
