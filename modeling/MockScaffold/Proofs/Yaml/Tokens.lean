import MockScaffold.Proofs.Yaml.Lexemes

/-!
# Numbers outside of scalars

Between two lexemes the lexer keeps account of blocks and of possible keys, and that moves it
nowhere (`Lexer.Stays`); with each lexeme it goes on to another place of the text (`Lexer.GoesOn`).
So a step leaves it at a place of the text (`Lexer.gives_step`), and a run, which is one step after
the other, meets no fault of value but those of the lexemes: `looseNumber_of_ofText` says for whole
texts that such a fault is an escape or a number of the version that stands in the text.
-/

namespace MockScaffold.Yaml

namespace Lexer

variable {text : List Char} {x : Lexer}

/-- The lexer goes on to a place of the text. -/
abbrev GoesOn (text : List Char) (r : Except Fault Lexer) : Prop :=
  Gives (LooseNumber text) (fun x => x.cursor.Within text) r

/-- The lexer changes what it knows, and stays where it is. -/
abbrev Stays (text : List Char) (x : Lexer) (r : Except Fault Lexer) : Prop :=
  Gives (LooseNumber text) (fun y => y.cursor = x.cursor) r

/-- Going on after a step that stays is going on from the same place. -/
theorem Stays.goesOn {r : Except Fault Lexer} (h : Stays text x r) (hx : x.cursor.Within text)
    {f : Lexer → Except Fault Lexer} (hnext : ∀ y, y.cursor.Within text → GoesOn text (f y)) :
    GoesOn text (r >>= f) :=
  Gives.bind h fun y _ hy => hnext y (hy ▸ hx)

/-- Blanks, comments and line breaks end at a place of the text. -/
theorem within_skipBlanks (fuel : Nat) (hx : x.cursor.Within text) :
    (x.skipBlanks fuel).cursor.Within text := by
  induction fuel generalizing x with
  | zero => exact hx
  | succ fuel ih =>
      have hplace := (hx.skipRun (· == ' ')).skipComment
      unfold skipBlanks
      dsimp only
      split
      · next heq => exact ih (hplace.lineBreak? heq)
      · exact hplace

/-- The next token starts at a place of the text. -/
theorem within_toNextToken (hx : x.cursor.Within text) : x.toNextToken.cursor.Within text := by
  unfold toNextToken
  dsimp only
  split
  · exact within_skipBlanks _ hx.next
  · exact within_skipBlanks _ hx

/-- Dropping a candidate moves nothing. -/
theorem stays_dropCandidate (x : Lexer) : Stays text x x.dropCandidate := by
  unfold dropCandidate
  split
  · split
    · exact .malformed _
    · exact .ok rfl
  · exact .ok rfl

/-- Neither does dropping those that have expired. -/
theorem stays_expire (x : Lexer) : Stays text x x.expire := by
  unfold expire
  split
  · exact .malformed _
  · exact .ok rfl

/-- Neither does remembering one. -/
theorem stays_saveCandidate (x : Lexer) : Stays text x x.saveCandidate := by
  unfold saveCandidate
  split
  · exact (stays_dropCandidate x).bind fun y _ hy => .ok hy
  · exact .ok rfl

/-- Closing blocks adds tokens and moves nothing. -/
@[simp] theorem cursor_closeBlocks (column : Int) (x : Lexer) :
    (x.closeBlocks column).cursor = x.cursor := by
  unfold closeBlocks
  split <;> rfl

/-- Opening a block moves nothing. -/
theorem cursor_of_openBlock {column : Nat} {x y : Lexer} {opened : Bool}
    (h : x.openBlock column = (opened, y)) : y.cursor = x.cursor := by
  unfold openBlock at h
  split at h
  · cases h
    rfl
  · cases h
    rfl

/-- Putting a token in front of others moves nothing. -/
@[simp] theorem cursor_insert (n : Nat) (t : Token) (x : Lexer) :
    (x.insert n t).cursor = x.cursor := by
  unfold insert
  split <;> rfl

/-- Ending all blocks moves nothing. -/
theorem stays_endBlocks (x : Lexer) : Stays text x x.endBlocks := by
  refine (stays_dropCandidate (x.closeBlocks (-1))).bind fun y _ hy => .ok ?_
  exact hy.trans (cursor_closeBlocks (-1) x)

/-- Opening a block for a marked entry moves nothing. -/
theorem stays_openMarked (t : Token) (x : Lexer) : Stays text x (x.openMarked t) := by
  unfold openMarked
  split
  · exact .ok rfl
  · split
    · exact .malformed _
    · split
      · next heq =>
          have hopened := cursor_of_openBlock heq
          exact .ok hopened
      · next heq => exact .ok (cursor_of_openBlock heq)

/-- A directive line.  Ending the blocks before it leaves the lexer at the mark `%`. -/
theorem goesOn_directive (hx : x.cursor.Within text) (hmark : x.cursor.peek = some '%') :
    GoesOn text x.directive := by
  refine (stays_endBlocks x).bind fun y _ hy => ?_
  rw [hy]
  exact Gives.bind (Cursor.reads_directive hx hmark) fun found _ hd => .ok hd

/-- The mark between documents. -/
theorem goesOn_separator (t : Token) (hx : x.cursor.Within text) :
    GoesOn text (x.separator t) :=
  (stays_endBlocks x).goesOn hx fun _ hy => .ok (hy.skip 3)

/-- The start of a flow collection. -/
theorem goesOn_flowStart (t : Token) (hx : x.cursor.Within text) :
    GoesOn text (x.flowStart t) :=
  (stays_saveCandidate x).goesOn hx fun _ hy => .ok (hy.skip 1)

/-- The end of a flow collection. -/
theorem goesOn_flowEnd (t : Token) (hx : x.cursor.Within text) : GoesOn text (x.flowEnd t) := by
  refine (stays_dropCandidate x).goesOn hx fun y hy => ?_
  dsimp only
  split
  · exact .malformed _
  · exact .ok (hy.skip 1)

/-- A comma. -/
theorem goesOn_flowEntry (hx : x.cursor.Within text) : GoesOn text x.flowEntry :=
  (stays_dropCandidate { x with keyAllowed := true }).goesOn hx fun _ hy => .ok (hy.skip 1)

/-- The mark of an entry in a block sequence. -/
theorem goesOn_blockEntry (hx : x.cursor.Within text) : GoesOn text x.blockEntry :=
  (stays_openMarked _ x).goesOn hx fun y hy =>
    (stays_dropCandidate { y with keyAllowed := true }).goesOn hy fun _ hz => .ok (hz.skip 1)

/-- The mark of a key. -/
theorem goesOn_explicitKey (hx : x.cursor.Within text) : GoesOn text x.explicitKey :=
  (stays_openMarked _ x).goesOn hx fun y hy =>
    (stays_dropCandidate { y with keyAllowed := !y.inFlow }).goesOn hy fun _ hz => .ok (hz.skip 1)

/-- Turning a candidate into a key changes only the tokens before the present place. -/
@[simp] theorem cursor_turnToKey (k : Candidate) (x : Lexer) :
    (x.turnToKey k).cursor = x.cursor := by
  unfold turnToKey
  dsimp only
  split
  · exact cursor_insert _ _ _
  · split
    · next heq => rw [cursor_insert, cursor_of_openBlock heq, cursor_insert]
    · next heq => rw [cursor_of_openBlock heq, cursor_insert]

/-- A colon, whether a key stands before it or not. -/
theorem goesOn_value (hx : x.cursor.Within text) : GoesOn text x.value := by
  unfold value
  split
  · next k _ =>
      have hkey : (x.turnToKey k).cursor.Within text := (cursor_turnToKey k x).symm ▸ hx
      exact .ok (hkey.skip 1)
  · exact (stays_openMarked _ x).goesOn hx fun y hy =>
      (stays_dropCandidate { y with keyAllowed := !y.inFlow }).goesOn hy fun _ hz => .ok (hz.skip 1)

/-- A token that may start a key goes as far as its reading does. -/
theorem goesOn_lexeme {α : Type} {read : Cursor → Except Fault (α × Cursor)} (token : α → Token)
    (hread : ∀ c : Cursor, c.Within text → Reads text (read c)) (hx : x.cursor.Within text) :
    GoesOn text (x.lexeme read token) :=
  (stays_saveCandidate x).goesOn hx fun y hy => Gives.bind (hread y.cursor hy) fun _ _ hd => .ok hd

/-- A plain scalar. -/
theorem goesOn_plain (hx : x.cursor.Within text) : GoesOn text x.plain :=
  (stays_saveCandidate x).goesOn hx fun y hy =>
    .ok (Cursor.within_plainScalar y.inFlow (y.indent + 1) hy)

/-- A block scalar. -/
theorem goesOn_block (folded : Bool) (hx : x.cursor.Within text) : GoesOn text (x.block folded) :=
  (stays_dropCandidate x).goesOn hx fun _ hy =>
    Gives.bind (Cursor.reads_blockScalar folded _ hy) fun _ _ hd => .ok hd

/-- A token of any kind, told by its first character. -/
theorem goesOn_token {ch : Char} (hx : x.cursor.Within text) (hch : x.cursor.peek = some ch) :
    GoesOn text (x.token ch) := by
  unfold token
  dsimp only
  refine .ite (fun h => goesOn_directive hx (h.2 ▸ hch)) fun _ => ?_
  refine .ite (fun _ => goesOn_separator _ hx) fun _ => ?_
  refine .ite (fun _ => goesOn_flowStart _ hx) fun _ => ?_
  refine .ite (fun _ => goesOn_flowStart _ hx) fun _ => ?_
  refine .ite (fun _ => goesOn_flowEnd _ hx) fun _ => ?_
  refine .ite (fun _ => goesOn_flowEnd _ hx) fun _ => ?_
  refine .ite (fun _ => goesOn_flowEntry hx) fun _ => ?_
  refine .ite (fun _ => goesOn_blockEntry hx) fun _ => ?_
  refine .ite (fun _ => goesOn_explicitKey hx) fun _ => ?_
  refine .ite (fun _ => goesOn_value hx) fun _ => ?_
  refine .ite (fun _ => goesOn_lexeme _ (fun _ => Cursor.reads_anchorName) hx) fun _ => ?_
  refine .ite (fun _ => goesOn_lexeme _ (fun _ => Cursor.reads_anchorName) hx) fun _ => ?_
  refine .ite (fun _ => goesOn_lexeme _ (fun _ => Cursor.reads_tag) hx) fun _ => ?_
  refine .ite (fun _ => goesOn_block _ hx) fun _ => ?_
  refine .ite (fun _ => goesOn_lexeme _ (fun _ => Cursor.reads_quotedScalar _) hx) fun _ => ?_
  exact .ite (fun _ => goesOn_plain hx) fun _ => .malformed _

/-- **One step of the lexer.**  It goes on to a place of the text, or it ends there. -/
theorem gives_step (hx : x.cursor.Within text) :
    Gives (LooseNumber text) (fun y? => ∀ y ∈ y?, y.cursor.Within text) x.step := by
  have hplace := within_toNextToken hx
  refine (stays_expire x.toNextToken).bind fun y _ hy => ?_
  have hcursor := (cursor_closeBlocks y.cursor.column y).trans hy
  dsimp only
  split
  · exact .ok (by simp)
  · next ch hch =>
      refine (goesOn_token (hcursor ▸ hplace) hch).bind fun z _ hz => .ok ?_
      simpa using hz

/-- **A run of the lexer.**  If it ends for want of a number's value, the number is in the text. -/
theorem looseNumber_of_run (fuel : Nat) (hx : x.cursor.Within text) {v : ValueFault}
    (h : (x.run fuel).2 = some (.value v)) : LooseNumber text v := by
  induction fuel generalizing x with
  | zero => cases h
  | succ fuel ih =>
      have hstep := gives_step hx
      unfold run at h
      split at h
      · next e heq =>
          cases h
          exact hstep.reason_of_eq heq
      · next y heq => exact ih (hstep.of_eq_ok heq y rfl) h
      · have hend : GoesOn text (do (← x.toNextToken.expire).endBlocks) :=
          (stays_expire x.toNextToken).goesOn (within_toNextToken hx) fun y hy =>
            (stays_endBlocks y).imp fun _ hz => hz.symm ▸ hy
        split at h
        · next e heq =>
            cases h
            exact hend.reason_of_eq heq
        · cases h

end Lexer

/-- The numbers without a value that the lexer meets are those of escapes and of the version. -/
theorem looseNumber_of_ofText {cs : List Char} {v : ValueFault}
    (h : (Token.ofText cs).2 = some (.value v)) : LooseNumber cs v :=
  Lexer.looseNumber_of_run _ List.suffix_rfl h

end MockScaffold.Yaml
