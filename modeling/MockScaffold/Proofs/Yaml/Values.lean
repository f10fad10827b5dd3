import Mathlib.Data.List.Perm.Subperm
import Mathlib.Logic.Relation
import MockScaffold.Proofs.Yaml.Nodes
import MockScaffold.Proofs.Yaml.Tokens
import MockScaffold.Yaml.Reader

/-!
# Why a text has no value

A text in form may still have no value, and then there is a reason in it (`NoValue`): a number
outside of scalars, which the lexer met, or a node whose value cannot be built
(`Document.NoValue`).  The latter is nearly always a scalar with a text that does not fit its tag,
and this text is spelled by the tokens.  Two further reasons come from default values, which let a
mapping stand for a scalar: a mapping has no text to take a date from, and default values can lead
from a mapping back to it.

Building changes what it knows about the nodes, but not the nodes, and a mapping gets entries by
merging only.  That is the invariant (`Builder.Within`), and every step keeps it (`Builds`), so the
reasons found on the way are reasons in the document.  A way through default values is given up when
it is longer than there are nodes, and by then it has come to one of them twice
(`exists_transGen_of_isChain`).  The main statement is `noValue_of_read`.
-/

namespace MockScaffold.Yaml

namespace Document

/-- The entries that a mapping can have: its own, and by a merge key those of the mapping that is
the value of the key, or is an item of it. -/
inductive HasEntry (d : Document) : Nat → Nat × Nat → Prop
  | own {n : Nat} {e : Nat × Nat} (he : e ∈ (d.node n).content.entries) : HasEntry d n e
  | merged {n key source m : Nat} {e : Nat × Nat} (hmerge : HasEntry d n (key, source))
      (hkey : (d.node key).tag = .merge)
      (hsource : m = source ∨ ∃ items, (d.node source).content = .sequence items ∧ m ∈ items)
      (he : HasEntry d m e) : HasEntry d n e

/-- A mapping can have a value under a key of the given tag. -/
def HasUnder (d : Document) (tag : Tag) (n m : Nat) : Prop :=
  ∃ key, d.HasEntry n (key, m) ∧ (d.node key).tag = tag

/-- The text that a node stands for under a tag for scalars: its own, or for a mapping that of its
default value. -/
inductive StandsFor (d : Document) : Nat → String → Prop
  | scalar {n : Nat} {text : String} (hcontent : (d.node n).content = .scalar text) :
      StandsFor d n text
  | default {n m : Nat} {text : String} (hdefault : d.HasUnder .default n m)
      (hvalue : StandsFor d m text) : StandsFor d n text

/-- Why a value of a document cannot be built. -/
inductive NoValue (d : Document) : ValueFault → Prop
  /-- The text that a node stands for does not fit its tag. -/
  | scalar {n : Nat} {text : String} {v : ValueFault} (htext : d.StandsFor n text)
      (hvalue : leafValue (d.node n).tag text = .error (.value v)) : NoValue d v
  /-- A mapping is to be a date. -/
  | timestampMapping {n : Nat} {entries : List (Nat × Nat)}
      (htag : (d.node n).tag = .timestamp) (hcontent : (d.node n).content = .mapping entries) :
      NoValue d .timestampMapping
  /-- Default values lead from a mapping back to it. -/
  | endlessDefault {n : Nat} (hcycle : Relation.TransGen (d.HasUnder .default) n n) :
      NoValue d .endlessDefault

/-- What has an entry is one of the nodes. -/
theorem HasEntry.lt_size {d : Document} {n : Nat} {e : Nat × Nat} (h : d.HasEntry n e) :
    n < d.nodes.size := by
  induction h with
  | @own n e he =>
      by_contra hlarge
      have hnone : d.nodes[n]? = none := Array.getElem?_eq_none (by omega)
      rw [node, Array.getD_eq_getD_getElem?, hnone] at he
      cases he
  | merged _ _ _ _ ih _ => exact ih

/-- So is what has a value under a key. -/
theorem HasUnder.lt_size {d : Document} {tag : Tag} {n m : Nat} (h : d.HasUnder tag n m) :
    n < d.nodes.size := by
  obtain ⟨key, hentry, _⟩ := h
  exact hentry.lt_size

end Document

/-- A way that is longer than there are places comes to one of them twice. -/
theorem exists_transGen_of_isChain {r : Nat → Nat → Prop} {size : Nat} {way : List Nat}
    (hway : way.IsChain r) (hplaces : ∀ n ∈ way, n < size) (hlong : size < way.length) :
    ∃ n, Relation.TransGen r n n := by
  by_contra hnone
  have hpairs : way.Pairwise (Relation.TransGen r) :=
    List.isChain_iff_pairwise.mp (hway.imp fun _ _ => .single)
  have hnodup : way.Nodup := by
    refine hpairs.imp ?_
    rintro a b hsteps rfl
    exact hnone ⟨a, hsteps⟩
  have hrange : way ⊆ List.range size := fun n hn => List.mem_range.mpr (hplaces n hn)
  have hlength : way.length ≤ size := by simpa using (hnodup.subperm hrange).length_le
  omega

variable {d : Document} {b : Builder}

/-- Every mapping has entries that it can have by the document. -/
def Builder.Within (d : Document) (b : Builder) : Prop :=
  ∀ n, ∀ e ∈ b.entriesOf n, d.HasEntry n e

namespace Builder

/-- At first the entries of every mapping are its own. -/
theorem within_start (d : Document) : (start d).Within d := by
  intro n e he
  have hentries : (start d).entriesOf n = (d.node n).content.entries := by
    simp only [entriesOf, start, Document.node, Array.getD_eq_getD_getElem?, Array.getElem?_map]
    cases d.nodes[n]? <;> rfl
  rw [hentries] at he
  exact .own he

/-- Only to the tag of text can a tag have changed. -/
theorem tag_of_tagOf {n : Nat} {tag : Tag} (h : b.tagOf d n = tag) (htext : tag ≠ .text) :
    (d.node n).tag = tag := by
  unfold tagOf at h
  split at h
  · next hdefault =>
      split at h
      · exact absurd h.symm htext
      · exact hdefault.trans h
  · exact h

/-- The default value of a mapping. -/
theorem hasUnder_of_find? (hb : b.Within d) {n : Nat} {e : Nat × Nat}
    (h : (b.entriesOf n).find? (fun e => b.tagOf d e.1 = .default) = some e) :
    d.HasUnder .default n e.2 :=
  ⟨e.1, hb n e (List.mem_of_find?_eq_some h), tag_of_tagOf (by simpa using List.find?_some h) nofun⟩

/-- The text of a node at the end of a way through default values, last one first.  The steps that
are left and those that lie behind are more than there are nodes, so if none is left, then the way
has come to one of its nodes twice. -/
theorem gives_scalarText_after (hb : b.Within d) (fuel n : Nat) {way : List Nat}
    (hway : (n :: way).IsChain fun m n => d.HasUnder .default n m)
    (hplaces : ∀ m ∈ way, m < d.nodes.size) (hfuel : d.nodes.size < way.length + fuel) :
    Gives d.NoValue (d.StandsFor n) (b.scalarText d fuel n) := by
  induction fuel generalizing n way with
  | zero =>
      obtain ⟨m, hcycle⟩ := exists_transGen_of_isChain hway.of_cons hplaces hfuel
      exact .value (.endlessDefault (Relation.transGen_swap.mp hcycle))
  | succ fuel ih =>
      unfold scalarText
      split
      · next hcontent => exact .ok (.scalar hcontent)
      · exact .malformed _
      · split
        · next e hfind =>
            have hdefault : d.HasUnder .default n e.2 := hasUnder_of_find? hb hfind
            have htext := ih e.2 (.cons_cons hdefault hway)
              (List.forall_mem_cons.mpr ⟨hdefault.lt_size, hplaces⟩)
              (by rw [List.length_cons]; omega)
            exact htext.imp fun text => .default hdefault
        · exact .malformed _

/-- The text of any node. -/
theorem gives_scalarText (hb : b.Within d) (n : Nat) :
    Gives d.NoValue (d.StandsFor n) (b.scalarText d (d.nodes.size + 1) n) :=
  gives_scalarText_after hb _ n (.singleton n) (by simp) (by simp)

/-- A node read under a tag for scalars. -/
theorem gives_leaf (hb : b.Within d) (n : Nat) :
    Gives d.NoValue (fun _ => True) (b.leaf d n) := by
  refine (gives_scalarText hb n).bind fun text _ htext => ?_
  split
  · next htag hcontent => exact .value (.timestampMapping (tag_of_tagOf htag nofun) hcontent)
  · cases hvalue : leafValue (b.tagOf d n) text with
    | ok s => exact .ok trivial
    | error f =>
        cases f with
        | malformed m => exact .malformed m
        | value v =>
            -- a key that became text has lost its tag, but text has always a value
            have htag : b.tagOf d n ≠ .text := by
              intro heq
              rw [heq] at hvalue
              cases hvalue
            exact .value (.scalar htext ((tag_of_tagOf rfl htag).symm ▸ hvalue))

end Builder

/-! ## Building -/

/-- A step in building keeps to the entries of the document and gives what has a property, or it
fails for want of a value only where the document gives a reason. -/
def Builds {α : Type} (d : Document) (p : α → Prop) (m : Build α) : Prop :=
  ∀ b, b.Within d → Gives d.NoValue (fun found => p found.1 ∧ found.2.Within d) (m.run b)

section

variable {α β : Type} {p : α → Prop} {q : β → Prop}

/-- A result alone changes nothing. -/
theorem builds_pure {a : α} (ha : p a) : Builds d p (pure a) := fun _ hb => .ok ⟨ha, hb⟩

/-- A refusal is a fault of form. -/
theorem builds_refuse (m : Malformed) : Builds d p (Build.refuse m) := fun _ _ => .malformed m

/-- Two steps, one after the other. -/
theorem Builds.bind {m : Build α} {f : α → Build β} (h : Builds d p m)
    (hnext : ∀ a, p a → Builds d q (f a)) : Builds d q (m >>= f) := fun b hb =>
  (h b hb).bind fun found _ hfound => hnext found.1 hfound.1 found.2 hfound.2

/-- One of two steps. -/
theorem Builds.ite {c : Prop} [Decidable c] {m m' : Build α} (h : Builds d p m)
    (h' : Builds d p m') : Builds d p (if c then m else m') := by
  split
  · exact h
  · exact h'

/-- Asking for what has been built changes nothing. -/
theorem builds_get : Builds d (Builder.Within d) get := fun _ hb => .ok ⟨hb, hb⟩

/-- A change of what has been built, if it keeps to the entries of the document. -/
theorem builds_modify {f : Builder → Builder}
    (hf : ∀ b : Builder, b.Within d → (f b).Within d) :
    Builds d (fun _ => True) (modify f : Build Unit) := fun b hb => .ok ⟨trivial, hf b hb⟩

/-- One step for each item of a list, with the results. -/
theorem Builds.mapM {f : α → Build β} {xs : List α} (h : ∀ x ∈ xs, Builds d q (f x)) :
    Builds d (fun ys => ∀ y ∈ ys, q y) (xs.mapM f) := by
  induction xs with
  | nil => exact builds_pure (by simp)
  | cons x xs ih =>
      obtain ⟨hx, hxs⟩ := List.forall_mem_cons.mp h
      rw [List.mapM_cons]
      exact hx.bind fun y hy => (ih hxs).bind fun ys hys =>
        builds_pure (List.forall_mem_cons.mpr ⟨hy, hys⟩)

/-- One step for each item of a list, without results. -/
theorem Builds.forM {f : α → Build Unit} {xs : List α}
    (h : ∀ x ∈ xs, Builds d (fun _ => True) (f x)) : Builds d (fun _ => True) (xs.forM f) := by
  induction xs with
  | nil => exact builds_pure trivial
  | cons x xs ih =>
      obtain ⟨hx, hxs⟩ := List.forall_mem_cons.mp h
      exact hx.bind fun _ _ => ih hxs

end

namespace Build

/-- The values that have been built have no part in the entries. -/
theorem builds_putPiece (n : Nat) (p : Piece) : Builds d (fun _ => True) (putPiece n p) :=
  builds_modify fun _ hb => hb

/-- Neither have the keys that became text. -/
theorem builds_putTexts (keys : List Nat) : Builds d (fun _ => True) (putTexts keys) :=
  builds_modify fun _ hb => hb

/-- A mapping may get any entries that it can have. -/
theorem builds_putEntries {n : Nat} {entries : List (Nat × Nat)}
    (h : ∀ e ∈ entries, d.HasEntry n e) : Builds d (fun _ => True) (putEntries n entries) := by
  refine builds_modify fun b hb m e he => ?_
  simp only [Builder.entriesOf, Array.getD_eq_getD_getElem?, Array.getElem?_setIfInBounds] at he
  split at he
  · next hsame =>
      subst hsame
      split at he
      · exact h e he
      · cases he
  · exact hb m e (by simpa [Builder.entriesOf] using he)

/-- What is taken out of a mapping is its value under a merge key. -/
theorem builds_takeMerge (n : Nat) :
    Builds d (fun source? => ∀ source ∈ source?, d.HasUnder .merge n source) (takeMerge d n) := by
  refine builds_get.bind fun b hb => ?_
  dsimp only
  split
  · exact builds_pure (by simp)
  · next key source hfind =>
      have hunder : d.HasUnder .merge n source :=
        ⟨key, hb n _ (List.mem_of_find?_eq_some hfind), by simpa using List.find?_some hfind⟩
      refine (builds_putEntries fun e he => hb n e (List.mem_of_mem_eraseP he)).bind fun _ _ => ?_
      exact builds_pure (by simpa using hunder)

/-- Merging gathers entries that the mapping can have. -/
theorem builds_merge (fuel n : Nat) {merged : List (Nat × Nat)}
    (hmerged : ∀ e ∈ merged, d.HasEntry n e) :
    Builds d (fun _ => True) (merge d fuel n merged) := by
  induction fuel generalizing n merged with
  | zero => exact builds_refuse _
  | succ fuel ih =>
      have happend {others : List (Nat × Nat)} (hothers : ∀ e ∈ others, d.HasEntry n e) :
          ∀ e ∈ merged ++ others, d.HasEntry n e := fun e he =>
        (List.mem_append.mp he).elim (hmerged e) (hothers e)
      unfold merge
      refine (builds_takeMerge n).bind fun source? hsource? => ?_
      split
      · refine builds_get.bind fun b hb => (builds_putTexts _).bind fun _ _ => ?_
        exact builds_putEntries (happend (hb n))
      · next source =>
          obtain ⟨key, hmerge, hkey⟩ := hsource? source rfl
          split
          · -- merging the source may have changed its entries, so they are asked for again
            refine (ih source (by simp)).bind fun _ _ => builds_get.bind fun b hb => ih n ?_
            exact happend fun e he => .merged hmerge hkey (.inl rfl) (hb source e he)
          · next items hitems =>
              refine Builds.bind (p := fun groups => ∀ g ∈ groups, ∀ e ∈ g, d.HasEntry n e) ?_ ?_
              · refine .mapM fun item hitem => ?_
                split
                · refine (ih item (by simp)).bind fun _ _ => builds_get.bind fun b hb => ?_
                  exact builds_pure fun e he =>
                    .merged hmerge hkey (.inr ⟨items, hitems, hitem⟩) (hb item e he)
                · exact builds_refuse _
              · intro groups hgroups
                refine ih n (happend fun e he => ?_)
                obtain ⟨g, hg, he⟩ := List.mem_flatten.mp he
                exact hgroups g (List.mem_reverse.mp hg) e he
          · exact builds_refuse _

/-- Reading a scalar changes nothing. -/
theorem builds_leaf {b : Builder} (hb : b.Within d) (n : Nat) :
    Builds d (fun _ => True) (liftM (b.leaf d n) : Build Scalar) := fun _ hc =>
  (Builder.gives_leaf hb n).bind fun _ _ _ => .ok ⟨trivial, hc⟩

/-- Reading a scalar, or beginning a collection. -/
theorem builds_start (n : Nat) : Builds d (fun _ => True) (start d n) := by
  unfold start
  refine builds_get.bind fun b hb => ?_
  split
  · exact builds_pure trivial
  · dsimp only
    split
    · exact (builds_putPiece n _).bind fun _ _ => builds_modify fun _ hb => hb
    · exact builds_refuse _
    · exact builds_refuse _
    · exact builds_refuse _
    · exact (builds_leaf hb n).bind fun _ _ => builds_putPiece n _

/-- A key of a mapping. -/
theorem builds_key (n : Nat) : Builds d (fun _ => True) (key d n) := by
  refine (builds_start n).bind fun _ _ => builds_get.bind fun b _ => ?_
  split
  · exact builds_pure trivial
  · exact builds_refuse _

/-- The entries that fill a mapping: they are merged first, and then their keys and values are
begun. -/
theorem builds_entries (n : Nat) : Builds d (fun _ => True) (entries d n) := by
  unfold entries
  split
  · refine (builds_merge _ n (by simp)).bind fun _ _ => builds_get.bind fun b _ => ?_
    refine Builds.bind (q := fun _ => True) (.mapM (q := fun _ => True) fun e _ => ?_) fun _ _ =>
      builds_pure trivial
    exact (builds_key e.1).bind fun _ _ => (builds_start e.2).bind fun _ _ => builds_pure trivial
  · exact builds_refuse _

/-- The only entry of an item in a list of pairs. -/
theorem builds_pair (n : Nat) : Builds d (fun _ => True) (pair d n) := by
  unfold pair
  refine builds_get.bind fun b _ => ?_
  split
  · exact (builds_start _).bind fun _ _ => (builds_start _).bind fun _ _ => builds_pure trivial
  · exact builds_refuse _

/-- The items of a sequence. -/
theorem builds_items (n : Nat) : Builds d (fun _ => True) (items d n) := by
  unfold items
  split
  · exact builds_pure trivial
  · exact builds_refuse _

/-- A collection of any kind is filled. -/
theorem builds_fill (n : Nat) : Builds d (fun _ => True) (fill d n) := by
  unfold fill
  split
  · exact (builds_entries n).bind fun _ _ => builds_putPiece n _
  · exact (builds_entries n).bind fun _ _ => builds_putPiece n _
  · exact (builds_items n).bind fun items _ =>
      Builds.bind (.forM fun m _ => builds_start m) fun _ _ => builds_putPiece n _
  · exact (builds_items n).bind fun items _ =>
      Builds.bind (.mapM (q := fun _ => True) fun m _ => builds_pair m) fun _ _ =>
        builds_putPiece n _

/-- All collections are filled, level by level. -/
theorem builds_fillAll (fuel : Nat) : Builds d (fun _ => True) (fillAll d fuel) := by
  induction fuel with
  | zero => exact builds_pure trivial
  | succ fuel ih =>
      unfold fillAll
      refine builds_get.bind fun b _ => ?_
      dsimp only
      refine Builds.ite (builds_pure trivial) ?_
      exact Builds.bind (builds_modify fun _ hb => hb) fun _ _ =>
        Builds.bind (.forM fun m _ => builds_fill m) fun _ _ => ih

/-- **A run of building.** -/
theorem builds_all (d : Document) : Builds d (fun _ => True) (all d) :=
  (builds_start d.root).bind fun _ _ => builds_fillAll _

end Build

/-- A document whose sample has no value holds the reason. -/
theorem Document.noValue_of_sample {v : ValueFault} (h : d.sample = .error (.value v)) :
    d.NoValue v := by
  rcases bind_eq_error_iff.mp h with hbuild | ⟨found, _, hsample⟩
  · exact (Build.builds_all d (.start d) (Builder.within_start d)).reason_of_eq hbuild
  · dsimp only at hsample
    split at hsample
    · cases hsample
    · cases hsample

/-! ## Whole texts -/

/-- **Why a text in form has no value.** -/
inductive NoValue (text : List Char) : ValueFault → Prop
  /-- A number outside of scalars has none. -/
  | number {v : ValueFault} (hnumber : LooseNumber text v) : NoValue text v
  /-- A node has none; the texts of nodes are those of tokens. -/
  | node {d : Document} {v : ValueFault} (hdocument : document? text = .ok (some d))
      (htexts : SpellsTexts (Token.ofText text).1 d.nodes) (hnode : d.NoValue v) : NoValue text v

/-- **Why reading a text fails for want of a value.**  The lexer met a number outside of scalars,
since the grammar has no faults of value, or else the document was built in vain. -/
theorem noValue_of_read {s : String} {v : ValueFault} (h : read s = .error (.value v)) :
    NoValue s.toList v := by
  unfold read at h
  split at h
  · cases h
  · rcases bind_eq_error_iff.mp h with hdocument | ⟨d?, hdocument, hvalue⟩
    · exact .number (looseNumber_of_ofText (fault_of_ofTokens? hdocument))
    · cases d? with
      | none => cases hvalue
      | some d =>
          exact .node hdocument (spellsTexts_of_ofTokens? hdocument) (Document.noValue_of_sample hvalue)

end MockScaffold.Yaml
