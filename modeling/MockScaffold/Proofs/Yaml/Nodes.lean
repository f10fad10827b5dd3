import MockScaffold.Proofs.Outcome
import MockScaffold.Yaml.Node

/-!
# Where the texts of nodes come from

The reader of nodes takes tokens from the front and adds nodes at the end.  So whatever it has read,
what is ahead is an end of the tokens, and the text of every scalar node is that of a token, or
empty where a value was left out (`Composer.Follows`).  Every step keeps this, and therefore every
function of the grammar does, by induction on the bound of its depth (`GrammarKeeps`).

It ends with `spellsTexts_of_ofTokens?`, on the texts of a whole document, and
`fault_of_ofTokens?`: the grammar has faults of form only, so a fault of value is the one that ended
the tokens.
-/

namespace MockScaffold.Yaml

/-- A text is that of a scalar among the tokens, or nothing at all. -/
def IsSpelled (tokens : List Token) (text : String) : Prop :=
  text = "" ∨ ∃ plain, Token.scalar text plain ∈ tokens

/-- The texts of scalar nodes are spelled by the tokens. -/
def SpellsTexts (tokens : List Token) (nodes : Array Node) : Prop :=
  ∀ node ∈ nodes, ∀ text, node.content = .scalar text → IsSpelled tokens text

/-- The reader of nodes has read from the tokens. -/
structure Composer.Follows (tokens : List Token) (s : Composer) : Prop where
  ahead : s.tokens <:+ tokens
  texts : SpellsTexts tokens s.nodes

namespace Compose

/-- A step that starts after some of the tokens stops after some of them. -/
def Keeps {α : Type} (tokens : List Token) (m : Compose α) : Prop :=
  ∀ s a s', s.Follows tokens → m.run s = .ok (a, s') → s'.Follows tokens

section

variable {α β : Type} {tokens : List Token}

/-- A result alone takes no token and adds no node. -/
theorem keeps_pure (a : α) : Keeps tokens (pure a) := by
  intro s b s' hs h
  cases h
  exact hs

/-- A refusal leaves nothing to say. -/
theorem keeps_refuse (m : Malformed) : Keeps tokens (refuse m : Compose α) := by
  intro s b s' _ h
  cases h

/-- Two steps, one after the other. -/
theorem Keeps.bind {m : Compose α} {f : α → Compose β} (h : Keeps tokens m)
    (hnext : ∀ a, Keeps tokens (f a)) : Keeps tokens (m >>= f) := by
  intro s b s' hs hrun
  obtain ⟨⟨a, t⟩, hfirst, hsecond⟩ := bind_eq_ok hrun
  exact hnext a t b s' (h s a t hs hfirst) hsecond

/-- One of two steps. -/
theorem Keeps.ite {c : Prop} [Decidable c] {m m' : Compose α} (h : Keeps tokens m)
    (h' : Keeps tokens m') : Keeps tokens (if c then m else m') := by
  split
  · exact h
  · exact h'

/-- Looking ahead shows the first token that is left, and changes nothing. -/
theorem mem_tokens_of_peek {s s' : Composer} {t : Token} (h : peek.run s = .ok (t, s')) :
    s' = s ∧ t ∈ s.tokens := by
  obtain ⟨ahead, nodes, anchors, handles⟩ := s
  cases ahead with
  | nil => cases h
  | cons u rest =>
      cases h
      exact ⟨rfl, List.mem_cons_self⟩

/-- The next token is one of the tokens. -/
theorem Keeps.peek {f : Token → Compose β} (hnext : ∀ t ∈ tokens, Keeps tokens (f t)) :
    Keeps tokens (Compose.peek >>= f) := by
  intro s b s' hs hrun
  obtain ⟨⟨t, u⟩, hpeek, hrest⟩ := bind_eq_ok hrun
  obtain ⟨rfl, ht⟩ := mem_tokens_of_peek hpeek
  exact hnext t (hs.ahead.subset ht) _ b s' hs hrest

/-- Asking for what is known changes nothing. -/
theorem keeps_get : Keeps tokens (get : Compose Composer) := by
  intro s b s' hs h
  cases h
  exact hs

/-- A change of what is known, if it keeps to the tokens. -/
theorem keeps_modify {f : Composer → Composer}
    (hf : ∀ s : Composer, s.Follows tokens → (f s).Follows tokens) :
    Keeps tokens (modify f : Compose Unit) := by
  intro s b s' hs h
  cases h
  exact hf s hs

/-- Taking a token leaves the tokens after it. -/
theorem keeps_advance : Keeps tokens advance :=
  keeps_modify fun s hs => ⟨(List.tail_suffix s.tokens).trans hs.ahead, hs.texts⟩

/-- Taking a token if it is the given one. -/
theorem keeps_accept (t : Token) : Keeps tokens (accept t) :=
  .peek fun _ _ => .ite (keeps_advance.bind fun _ => keeps_pure true) (keeps_pure false)

/-- Taking an anchor. -/
theorem keeps_anchor? : Keeps tokens anchor? := by
  refine .peek fun t _ => ?_
  split
  · exact keeps_advance.bind fun _ => keeps_pure _
  · exact keeps_pure none

/-- Taking a tag. -/
theorem keeps_tag? : Keeps tokens tag? := by
  refine .peek fun t _ => ?_
  split
  · exact keeps_advance.bind fun _ => keeps_pure _
  · exact keeps_pure none

/-- Spelling out a tag takes no token. -/
theorem keeps_spellOut (tag : Option String × String) : Keeps tokens (spellOut tag) := by
  unfold spellOut
  split
  · exact keeps_pure _
  · refine keeps_get.bind fun s => ?_
    split
    · exact keeps_pure _
    · exact keeps_refuse _

/-- An anchor and a tag in either order: what comes second is taken after the first. -/
theorem keeps_properties : Keeps tokens properties := by
  have hwritten : Keeps tokens writtenProperties := by
    refine keeps_anchor?.bind fun anchor => ?_
    split
    · exact keeps_tag?.bind fun _ => keeps_pure _
    · refine keeps_tag?.bind fun tag => ?_
      split
      · exact keeps_anchor?.bind fun _ => keeps_pure _
      · exact keeps_pure _
  refine hwritten.bind fun found => ?_
  dsimp only
  split
  · exact (keeps_spellOut _).bind fun _ => keeps_pure _
  · exact keeps_pure _

/-- Giving a node its anchor changes no node. -/
theorem keeps_setAnchor (n : Nat) (anchor : Option String) : Keeps tokens (setAnchor n anchor) := by
  cases anchor with
  | none => exact keeps_pure ()
  | some name =>
      refine keeps_get.bind fun s => .ite (keeps_refuse _) ?_
      exact keeps_modify fun s hs => ⟨hs.ahead, hs.texts⟩

/-- A node is added whose text, if it is a scalar, is spelled by the tokens. -/
theorem keeps_add (anchor : Option String) (tag : Tag) {content : Content}
    (hcontent : ∀ text, content = .scalar text → IsSpelled tokens text) :
    Keeps tokens (add anchor tag content) := by
  refine keeps_get.bind fun s => Keeps.bind (keeps_modify fun s hs => ⟨hs.ahead, ?_⟩) fun _ =>
    (keeps_setAnchor _ anchor).bind fun _ => keeps_pure _
  intro node hnode text htext
  rcases Array.mem_push.mp hnode with hold | rfl
  · exact hs.texts node hold text htext
  · exact hcontent text htext

/-- A value that is left out is a scalar without text. -/
theorem keeps_addEmpty : Keeps tokens addEmpty :=
  keeps_add none .null fun _ h => .inl (Content.scalar.inj h).symm

/-- A collection is given its parts. -/
theorem keeps_complete (n : Nat) {content : Content} (hcontent : ∀ text, content ≠ .scalar text) :
    Keeps tokens (complete n content) := by
  refine Keeps.bind (keeps_modify fun s hs => ⟨hs.ahead, fun node hnode text htext => ?_⟩) fun _ =>
    keeps_pure n
  obtain ⟨i, hi, rfl⟩ := Array.mem_iff_getElem.mp hnode
  rw [Array.getElem_modify] at htext
  split at htext
  · exact absurd htext (hcontent text)
  · exact hs.texts _ (Array.getElem_mem _) text htext

/-- A collection, begun under its tag, goes on with its parts. -/
theorem keeps_collection (anchor : Option String) (tag : Tag) {begun : Content}
    {parts : Compose α} {whole : α → Content} (hbegun : ∀ text, begun ≠ .scalar text)
    (hparts : Keeps tokens parts) (hwhole : ∀ a text, whole a ≠ .scalar text) :
    Keeps tokens (do
      let n ← add anchor tag begun
      advance
      complete n (whole (← parts))) :=
  (keeps_add anchor tag fun _ heq => absurd heq (hbegun _)).bind fun n =>
    keeps_advance.bind fun _ => hparts.bind fun a => keeps_complete n (hwhole a)

/-- A node, or the empty one in its place. -/
theorem Keeps.nodeUnless {node : Compose Nat} (h : Keeps tokens node) (ends : Token → Bool) :
    Keeps tokens (nodeUnless ends node) :=
  .peek fun _ _ => .ite keeps_addEmpty h

/-- A key and its value. -/
theorem Keeps.entry {value : Compose Nat} (h : Keeps tokens value) : Keeps tokens (entry value) :=
  h.bind fun _ => (keeps_accept _).bind fun _ =>
    .ite (h.bind fun _ => keeps_pure _) (keeps_addEmpty.bind fun _ => keeps_pure _)

/-- The comma between two items. -/
theorem keeps_comma (first : Bool) : Keeps tokens (comma first) :=
  .ite (keeps_pure _) ((keeps_accept _).bind fun _ => .ite (keeps_pure _) (keeps_refuse _))

/-- An item of a flow sequence, which may be a mapping of one entry. -/
theorem keeps_flowItem {value node : Compose Nat} (hvalue : Keeps tokens value)
    (hnode : Keeps tokens node) : Keeps tokens (flowItem value node) := by
  refine (keeps_accept _).bind fun _ => .ite ?_ hnode
  exact (keeps_add _ _ (by simp)).bind fun n =>
    hvalue.entry.bind fun _ => keeps_complete n (by simp)

/-- An entry of a flow mapping. -/
theorem keeps_flowEntry {value node : Compose Nat} (hvalue : Keeps tokens value)
    (hnode : Keeps tokens node) : Keeps tokens (flowEntry value node) :=
  (keeps_accept _).bind fun _ => .ite hvalue.entry
    (hnode.bind fun _ => keeps_addEmpty.bind fun _ => keeps_pure _)

end

/-! ## The grammar -/

/-- All functions of the grammar, with a given bound, keep to the tokens. -/
structure GrammarKeeps (tokens : List Token) (fuel : Nat) : Prop where
  node : ∀ block indentless, Keeps tokens (node fuel block indentless)
  blockItems : Keeps tokens (blockItems fuel)
  indentlessItems : Keeps tokens (indentlessItems fuel)
  valueNode : ∀ inFlow, Keeps tokens (valueNode fuel inFlow)
  blockEntries : Keeps tokens (blockEntries fuel)
  flowItems : ∀ first, Keeps tokens (flowItems fuel first)
  flowEntries : ∀ first, Keeps tokens (flowEntries fuel first)

variable {tokens : List Token} {fuel : Nat}

/-- Without any depth left everything is refused. -/
theorem grammarKeeps_zero : GrammarKeeps tokens 0 where
  node _ _ := keeps_refuse _
  blockItems := keeps_refuse _
  indentlessItems := keeps_refuse _
  valueNode _ := keeps_refuse _
  blockEntries := keeps_refuse _
  flowItems _ := keeps_refuse _
  flowEntries _ := keeps_refuse _

section

variable (h : GrammarKeeps tokens fuel)

include h

/-- A node.  Its text, if it is a scalar, is that of the token it starts with. -/
theorem GrammarKeeps.node_succ (block indentless : Bool) :
    Keeps tokens (Compose.node (fuel + 1) block indentless) := by
  unfold Compose.node
  refine .peek fun t _ => ?_
  split
  · refine keeps_advance.bind fun _ => keeps_get.bind fun s => ?_
    split
    · exact keeps_pure _
    · exact keeps_refuse _
  · refine keeps_properties.bind fun found => .peek fun t ht => ?_
    split
    · next text plain =>
        refine keeps_advance.bind fun _ => keeps_add _ _ fun text' heq => .inr ⟨plain, ?_⟩
        cases heq
        exact ht
    · exact keeps_collection _ _ nofun (h.flowItems true) nofun
    · exact keeps_collection _ _ nofun (h.flowEntries true) nofun
    · exact keeps_collection _ _ nofun h.blockItems nofun
    · exact keeps_collection _ _ nofun h.blockEntries nofun
    · refine .ite ?_ (.ite ?_ (keeps_refuse _))
      · exact (keeps_add _ _ (by simp)).bind fun n =>
          h.indentlessItems.bind fun items => keeps_complete n nofun
      · exact keeps_add _ _ fun text heq => .inl (Content.scalar.inj heq).symm

/-- The entries of a block sequence. -/
theorem GrammarKeeps.blockItems_succ : Keeps tokens (Compose.blockItems (fuel + 1)) := by
  unfold Compose.blockItems
  refine (keeps_accept _).bind fun _ => .ite ?_ ?_
  · exact ((h.node true false).nodeUnless _).bind fun _ => h.blockItems.bind fun _ => keeps_pure _
  · exact (keeps_accept _).bind fun _ => .ite (keeps_pure _) (keeps_refuse _)

/-- The entries of a sequence that is not indented. -/
theorem GrammarKeeps.indentlessItems_succ : Keeps tokens (Compose.indentlessItems (fuel + 1)) := by
  unfold Compose.indentlessItems
  refine (keeps_accept _).bind fun _ => .ite ?_ (keeps_pure _)
  exact ((h.node true false).nodeUnless _).bind fun _ =>
    h.indentlessItems.bind fun _ => keeps_pure _

/-- A key or a value after its mark. -/
theorem GrammarKeeps.valueNode_succ (inFlow : Bool) :
    Keeps tokens (Compose.valueNode (fuel + 1) inFlow) :=
  (h.node _ _).nodeUnless _

/-- The entries of a block mapping. -/
theorem GrammarKeeps.blockEntries_succ : Keeps tokens (Compose.blockEntries (fuel + 1)) := by
  unfold Compose.blockEntries
  refine (keeps_accept _).bind fun _ => .ite (keeps_pure _) ((keeps_accept _).bind fun _ => ?_)
  refine .ite ?_ (keeps_refuse _)
  exact (h.valueNode false).entry.bind fun _ => h.blockEntries.bind fun _ => keeps_pure _

/-- The items of a flow sequence. -/
theorem GrammarKeeps.flowItems_succ (first : Bool) :
    Keeps tokens (Compose.flowItems (fuel + 1) first) := by
  unfold Compose.flowItems
  refine (keeps_accept _).bind fun _ => .ite (keeps_pure _) ((keeps_comma first).bind fun _ => ?_)
  refine (keeps_accept _).bind fun _ => .ite (keeps_pure _) ?_
  exact (keeps_flowItem (h.valueNode true) (h.node false false)).bind fun _ =>
    (h.flowItems false).bind fun _ => keeps_pure _

/-- The entries of a flow mapping. -/
theorem GrammarKeeps.flowEntries_succ (first : Bool) :
    Keeps tokens (Compose.flowEntries (fuel + 1) first) := by
  unfold Compose.flowEntries
  refine (keeps_accept _).bind fun _ => .ite (keeps_pure _) ((keeps_comma first).bind fun _ => ?_)
  refine (keeps_accept _).bind fun _ => .ite (keeps_pure _) ?_
  exact (keeps_flowEntry (h.valueNode true) (h.node false false)).bind fun _ =>
    (h.flowEntries false).bind fun _ => keeps_pure _

end

/-- **The whole grammar.**  The functions call each other with the next smaller bound, so one
induction is for all of them. -/
theorem grammarKeeps (tokens : List Token) (fuel : Nat) : GrammarKeeps tokens fuel := by
  induction fuel with
  | zero => exact grammarKeeps_zero
  | succ fuel ih =>
      exact {
        node := ih.node_succ
        blockItems := ih.blockItems_succ
        indentlessItems := ih.indentlessItems_succ
        valueNode := ih.valueNode_succ
        blockEntries := ih.blockEntries_succ
        flowItems := ih.flowItems_succ
        flowEntries := ih.flowEntries_succ }

/-! ## Whole documents -/

/-- The directives before a document. -/
theorem keeps_directives (fuel : Nat) (versioned : Bool) (handles : List (String × String)) :
    Keeps tokens (directives fuel versioned handles) := by
  induction fuel generalizing versioned handles with
  | zero => exact keeps_refuse _
  | succ fuel ih =>
      unfold directives
      refine .peek fun t _ => ?_
      split
      · refine keeps_advance.bind fun _ => ?_
        split
        · exact .ite (keeps_refuse _) (.ite (keeps_refuse _) (ih _ _))
        · exact .ite (keeps_refuse _) (ih _ _)
        · exact ih _ _
      · exact keeps_pure _

/-- The marks after a document. -/
theorem keeps_skipEnds (fuel : Nat) : Keeps tokens (skipEnds fuel) := by
  induction fuel with
  | zero => exact keeps_pure _
  | succ fuel ih => exact (keeps_accept _).bind fun _ => .ite ih (keeps_pure _)

/-- The root of a document that starts with a mark. -/
theorem keeps_explicitRoot (fuel : Nat) : Keeps tokens (explicitRoot fuel) := by
  refine (keeps_directives _ _ _).bind fun handles => ?_
  refine Keeps.bind (keeps_modify fun s hs => ⟨hs.ahead, hs.texts⟩) fun _ => ?_
  refine (keeps_accept _).bind fun _ => .ite ?_ (keeps_refuse _)
  exact ((grammarKeeps tokens fuel).node true false).nodeUnless _

/-- The only document of a text. -/
theorem keeps_document (fuel : Nat) : Keeps tokens (document fuel) := by
  unfold document
  refine .peek fun t _ => .ite (keeps_pure _) (Keeps.bind ?_ fun root => ?_)
  · exact .ite (keeps_explicitRoot fuel) ((grammarKeeps tokens fuel).node true false)
  · refine (keeps_skipEnds fuel).bind fun _ => .peek fun t _ => .ite (keeps_pure _) ?_
    exact (keeps_directives _ _ _).bind fun _ => keeps_refuse _

end Compose

/-- **The texts of a document.**  The text of every scalar node is spelled by the tokens. -/
theorem spellsTexts_of_ofTokens? {tokens : List Token} {fault : Option Fault} {d : Document}
    (h : Document.ofTokens? tokens fault = .ok (some d)) : SpellsTexts tokens d.nodes := by
  obtain ⟨⟨root?, s⟩, hrun, hroot⟩ := bind_eq_ok h
  have hdocument := Compose.keeps_document _ _ _ _ ⟨List.suffix_rfl, by simp [SpellsTexts]⟩
    (mapError_eq_ok hrun)
  cases root? with
  | none => cases hroot
  | some root =>
      cases hroot
      exact hdocument.texts

/-- The grammar has no faults of value: such a fault is the one that ended the tokens. -/
theorem fault_of_ofTokens? {tokens : List Token} {fault : Option Fault} {v : ValueFault}
    (h : Document.ofTokens? tokens fault = .error (.value v)) : fault = some (.value v) := by
  rcases bind_eq_error_iff.mp h with hrun | ⟨found, _, hroot⟩
  · obtain ⟨stop, _, hstop⟩ := mapError_eq_error_iff.mp hrun
    cases stop with
    | refused m => cases hstop
    | exhausted =>
        cases fault with
        | none => cases hstop
        | some f => exact congrArg some hstop
  · cases hroot

end MockScaffold.Yaml
