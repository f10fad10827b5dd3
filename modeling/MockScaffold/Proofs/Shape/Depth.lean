import MockScaffold.Proofs.Json.ReadBack
import MockScaffold.Proofs.Shape.Nodes
import MockScaffold.Proofs.Shape.Unambiguity

/-!
# Depth is layout only

The depth at which a sample is laid out has no part in the structure of its shape
(`skeleton_infer_eq`), so the shape one level deeper is the same shape laid out again
(`layOut_infer`).  In the text the difference is one indent after every line feed.  For that no name
of a field may bring a line feed of its own, as a bare name does that ends in one.  The main
statement is `infer_deeper`.
-/

namespace MockScaffold

namespace Shape

/-! ## The structure at every depth -/

/-- Shapes of one sample have one structure, whatever the depth. -/
theorem skeleton_infer_eq (strategy : ArrayStrategy) (d e : Int) (v : Sample) :
    (infer strategy d v).skeleton = (infer strategy e v).skeleton := by
  induction v generalizing d e with
  | scalar s => rw [infer_scalar, infer_scalar]
  | list items ih =>
      cases items with
      | nil => rw [infer_list_nil, infer_list_nil]
      | cons v rest =>
          cases strategy with
          | firstElement =>
              rw [infer_list_first, infer_list_first, skeleton, skeleton,
                ih v List.mem_cons_self d e]
          | union =>
              have hne := List.cons_ne_nil v rest
              rw [skeleton_infer_list_union d hne, skeleton_infer_list_union e hne,
                List.map_congr_left fun x hx => ih x hx d e]
  | map entries ih =>
      by_cases hne : entries = []
      · subst hne
        rw [infer_map_nil, infer_map_nil]
      · rw [skeleton_infer_map strategy d hne, skeleton_infer_map strategy e hne]
        congr 1
        exact List.map_congr_left fun f hf => by rw [ih f hf (d + 1) (e + 1)]
  | set members => simp only [infer]
  | pair first second => simp only [infer]

/-! ## Laid out again -/

/-- The shape of a sample at one depth is its shape at another one, laid out again. -/
theorem layOut_infer (strategy : ArrayStrategy) (d e : Int) (v : Sample) :
    layOut e (infer strategy d v) = infer strategy e v :=
  calc layOut e (infer strategy d v)
      = layOut e (infer strategy d v).skeleton := (layOut_skeleton e _).symm
    _ = layOut e (infer strategy e v).skeleton := by rw [skeleton_infer_eq strategy d e v]
    _ = layOut e (infer strategy e v) := layOut_skeleton e _
    _ = infer strategy e v := (laidOut_infer strategy e v).layOut_eq

/-- Laying out at another depth makes nothing unknown. -/
@[simp] theorem isUnknown_layOut (d : Int) (s : Shape) : (layOut d s).isUnknown = s.isUnknown := by
  cases s <;> rfl

/-- And nothing an object. -/
@[simp] theorem isObject_layOut (d : Int) (s : Shape) : (layOut d s).isObject = s.isObject := by
  cases s <;> rfl

/-! ## One indent more -/

/-- One level more is two spaces more. -/
theorem toList_spaces_succ {d : Int} (hd : 0 ≤ d) :
    (spaces (d + 1)).toList = [' ', ' '] ++ (spaces d).toList := by
  have hdepth : 2 * (d + 1).toNat = 2 + 2 * d.toNat := by omega
  rw [spaces, spaces, String.toList_ofList, String.toList_ofList, hdepth,
    List.replicate_add]
  rfl

/-- A broken name ends in a line feed. -/
theorem not_isBroken_of_getLast?_ne {name : String} (h : name.toList.getLast? ≠ some '\n') :
    ¬ IsBroken name :=
  fun hbroken => h (isBroken_iff.mp hbroken).1

/-- Every field of every object in a shape is named on one line. -/
def NamedOnOneLine (s : Shape) : Prop :=
  ∀ (n : Nat) (t : Shape), t.Node n s → ∀ f ∈ t.fields, '\n' ∉ (propertyName f.1).toList

/-- The items of a type have their names on one line if the type has. -/
theorem NamedOnOneLine.item {s m : Shape} (h : s.NamedOnOneLine) (hm : m ∈ s.items) :
    m.NamedOnOneLine :=
  fun n t ht => h n t (.item hm ht)

/-- So have its fields. -/
theorem NamedOnOneLine.field {s : Shape} {f : String × Shape} (h : s.NamedOnOneLine)
    (hf : f ∈ s.fields) : f.2.NamedOnOneLine :=
  fun n t ht => h (n + 1) t (.field hf ht)

/-- The expression of a shape one level deeper is the expression with an indent more. -/
def Deepens (d : Int) (s : Shape) : Prop :=
  (layOut (d + 1) s).render.toList = Text.indented [' ', ' '] s.render.toList

/-- Parentheses do not depend on the depth. -/
theorem Deepens.memberText {d : Int} {m : Shape} (h : Deepens d m) :
    memberText (layOut (d + 1) m) = Text.indented [' ', ' '] (memberText m) := by
  rw [Shape.memberText, Shape.memberText, h]
  simp

/-- The line of a field, one level deeper: the indent moves from its end to its start. -/
theorem Deepens.fieldText {d : Int} (hd : 0 ≤ d) {f : String × Shape} (h : Deepens (d + 1) f.2)
    (hname : '\n' ∉ (propertyName f.1).toList) :
    [' ', ' '] ++ Text.indented [' ', ' '] (fieldText d f) =
      fieldText (d + 1) (f.1, layOut (d + 1 + 1) f.2) ++ [' ', ' '] := by
  rw [Shape.fieldText, Shape.fieldText, h, toList_spaces_succ hd]
  simp [Text.indented_of_not_mem hname, Text.indented_of_not_mem (newline_not_mem_spaces d)]

/-- The lines of fields one level deeper are the same lines, indented. -/
theorem Deepens.fields {d : Int} (hd : 0 ≤ d) {fields : List (String × Shape)}
    (h : ∀ f ∈ fields, Deepens (d + 1) f.2 ∧ '\n' ∉ (propertyName f.1).toList) :
    [' ', ' '] ++ Text.indented [' ', ' '] (fields.flatMap (Shape.fieldText d)) =
      (layOutFields (d + 1 + 1) fields).flatMap (Shape.fieldText (d + 1)) ++ [' ', ' '] := by
  induction fields with
  | nil => rfl
  | cons f rest ih =>
      obtain ⟨hf, hrest⟩ := List.forall_mem_cons.mp h
      calc [' ', ' '] ++ Text.indented [' ', ' '] ((f :: rest).flatMap (Shape.fieldText d))
          = ([' ', ' '] ++ Text.indented [' ', ' '] (Shape.fieldText d f)) ++
              Text.indented [' ', ' '] (rest.flatMap (Shape.fieldText d)) := by
            rw [List.flatMap_cons, Text.indented_append, List.append_assoc]
        _ = Shape.fieldText (d + 1) (f.1, layOut (d + 1 + 1) f.2) ++
              ([' ', ' '] ++ Text.indented [' ', ' '] (rest.flatMap (Shape.fieldText d))) := by
            rw [hf.1.fieldText hd hf.2, List.append_assoc]
        _ = (layOutFields (d + 1 + 1) (f :: rest)).flatMap (Shape.fieldText (d + 1)) ++
              [' ', ' '] := by
            rw [ih hrest, layOutFields, List.flatMap_cons, List.append_assoc]

/-- **One level deeper, one indent more.** -/
theorem LaidOut.deepens {d : Int} {s : Shape} (hs : LaidOut d s) (hd : 0 ≤ d)
    (hnames : s.NamedOnOneLine) : Deepens d s := by
  unfold Deepens
  induction hs with
  | word hw =>
      rw [layOut_of_word hw, toList_render_word hw]
      unfold word? at hw
      split at hw <;> cases hw <;> rfl
  | list _ hunknown hobject ih =>
      rw [layOut, toList_render_list (by simpa using hunknown) (by simpa using hobject),
        toList_render_list hunknown hobject, ih hd (hnames.item List.mem_cons_self)]
      simp
  | @choice d first second rest _ ih =>
      have hmember (m : Shape) (hm : m ∈ first :: second :: rest) : Deepens d m :=
        ih m hm hd ((hnames.item List.mem_cons_self).item hm)
      have hothers : (layOutMembers (d + 1) (second :: rest)).flatMap Shape.memberText =
          Text.indented [' ', ' '] ((second :: rest).flatMap Shape.memberText) := by
        rw [layOutMembers_eq_map, List.flatMap_map, Text.indented_flatMap]
        exact List.flatMap_congr fun m hm => (hmember m (List.mem_cons_of_mem _ hm)).memberText
      rw [layOut, layOut, layOutMembers, toList_render_choice, toList_render_choice, hothers,
        hmember first List.mem_cons_self]
      simp
  | rows _ hobject ih =>
      rw [layOut, toList_render_rows (by simpa using hobject), toList_render_rows hobject,
        ih hd (hnames.item List.mem_cons_self)]
      simp
  | @object d fields hne _ ih =>
      have hlines := Deepens.fields hd fun f hf =>
        ⟨ih f hf (by omega) (hnames.field hf), hnames 0 _ .root f hf⟩
      have hne' : layOutFields (d + 1 + 1) fields ≠ [] := by
        rw [layOutFields_eq_map]
        simpa using hne
      rw [layOut, toList_render_object _ hne', toList_render_object d hne, toList_spaces_succ hd,
        List.append_assoc, ← List.append_assoc _ [' ', ' '], ← hlines]
      simp [Text.indented_of_not_mem (newline_not_mem_spaces d)]

end Shape

/-! ## Keys without line feeds at their ends -/

/-- No key of a mapping in the sample, spelled as the name of a field, ends in a line feed. -/
inductive Sample.NoKeyEndsInFeed : Sample → Prop
  | scalar (s : Scalar) : NoKeyEndsInFeed (.scalar s)
  | list {items : List Sample} (hitems : ∀ v ∈ items, NoKeyEndsInFeed v) :
      NoKeyEndsInFeed (.list items)
  | map {entries : List (Scalar × Sample)}
      (hkeys : ∀ e ∈ entries, e.1.name.toList.getLast? ≠ some '\n')
      (hvalues : ∀ e ∈ entries, NoKeyEndsInFeed e.2) : NoKeyEndsInFeed (.map entries)
  | set (members : List Scalar) : NoKeyEndsInFeed (.set members)
  | pair (first second : Sample) : NoKeyEndsInFeed (.pair first second)

/-- What holds of the keys of a sample holds of those of its parts. -/
theorem Sample.Occurs.noKeyEndsInFeed {u v : Sample} {e d : Int} (h : u.Occurs e v d)
    (hv : v.NoKeyEndsInFeed) : u.NoKeyEndsInFeed := by
  induction h with
  | self => exact hv
  | item hx _ ih =>
      cases hv with
      | list hitems => exact ih (hitems _ hx)
  | value hf _ ih =>
      cases hv with
      | map _ hvalues => exact ih (hvalues _ hf)

namespace Shape

/-- Where no key ends in a line feed, no field is named over two lines. -/
theorem namedOnOneLine_infer {v : Sample} (hv : v.NoKeyEndsInFeed) (strategy : ArrayStrategy)
    (d : Int) : (infer strategy d v).NamedOnOneLine := by
  intro n t ht f hf
  cases t with
  | object depth fields =>
      obtain ⟨_, _, entries, hoccurs, _, hnames⟩ :=
        (nodeRules_infer strategy d v ht).object depth fields rfl
      have hname : f.1 ∈ entries.map (·.1.name) := hnames ▸ List.mem_map_of_mem hf
      obtain ⟨e, he, hname⟩ := List.mem_map.mp hname
      cases hoccurs.noKeyEndsInFeed hv with
      | map hkeys _ =>
          exact newline_not_mem_propertyName (not_isBroken_of_getLast?_ne (hname ▸ hkeys e he))
  | _ => simp [Shape.fields] at hf

/-- **Depth is layout only.**  If no key ends in a line feed, then inference one level deeper fails
just when it fails, and otherwise it gives a shape of the same structure, whose expression is the
expression with two more spaces after every line feed. -/
theorem infer_deeper {strategy : ArrayStrategy} {d : Int} (hd : 0 ≤ d) {v : Sample}
    (hv : v.NoKeyEndsInFeed) :
    (∀ fault, infer? strategy (d + 1) v = .error fault ↔ infer? strategy d v = .error fault) ∧
    ∀ s, infer? strategy d v = .ok s → ∃ t, infer? strategy (d + 1) v = .ok t ∧
      t.same s = true ∧ t.render = Text.indentLines "  " s.render := by
  unfold infer?
  split
  · exact ⟨fun _ => Iff.rfl, fun s hs => by cases hs⟩
  · refine ⟨fun fault => by simp, fun s hs => ⟨_, rfl, ?_, ?_⟩⟩
    · cases hs
      exact (same_iff _ _).mpr (skeleton_infer_eq strategy (d + 1) d v)
    · cases hs
      have hdeep := (laidOut_infer strategy d v).deepens hd (namedOnOneLine_infer hv strategy d)
      rw [Deepens, layOut_infer] at hdeep
      rw [← String.toList_inj, hdeep, Text.toList_indentLines]
      rfl

/-- A list of a row and null, where the key of the row has a line feed inside. -/
def brokenKeyRows : Sample :=
  .map [(.text "rows", .list [.map [(.text "a\nb", .scalar (.int 1))], .null])]

/-- One level deeper, the rows are written with two more spaces on every line but the first. -/
theorem infer_deeper_brokenKeyRows :
    brokenKeyRows.NoKeyEndsInFeed ∧
      infer? .union 0 brokenKeyRows =
        .ok (.object 0 [("rows", .array (.union [.object 1 [("a\nb", .number)], .null]))]) ∧
      ∃ t, infer? .union 1 brokenKeyRows = .ok t ∧
        t.same (.object 0 [("rows", .array (.union [.object 1 [("a\nb", .number)], .null]))]) = true ∧
        t.render = Text.indentLines "  "
          (object 0 [("rows", .array (.union [.object 1 [("a\nb", .number)], .null]))]).render := by
  have hrow : (Sample.map [(.text "a\nb", .scalar (.int 1))]).NoKeyEndsInFeed :=
    .map (by simp [Scalar.name]) (by simpa using Sample.NoKeyEndsInFeed.scalar _)
  have hrows : (Sample.list [.map [(.text "a\nb", .scalar (.int 1))], .null]).NoKeyEndsInFeed :=
    .list (by simpa using ⟨hrow, Sample.NoKeyEndsInFeed.scalar _⟩)
  have hv : brokenKeyRows.NoKeyEndsInFeed :=
    .map (by simp [Scalar.name]) (by simpa using hrows)
  have hs : infer? .union 0 brokenKeyRows =
      .ok (.object 0 [("rows", .array (.union [.object 1 [("a\nb", .number)], .null]))]) := rfl
  exact ⟨hv, hs, (infer_deeper (Int.le_refl 0) hv).2 _ hs⟩

end Shape

end MockScaffold
