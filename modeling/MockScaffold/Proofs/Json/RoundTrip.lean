import MockScaffold.Proofs.Json.Embedding
import MockScaffold.Proofs.Sample.Entries

/-!
# Values that are embedded faithfully

A value of JSON without floating-point numbers, and without integers that are too long to be
written, can always be embedded, and it is read back as it was (`read_embed_eq`).  The further indent
of lines changes nothing, since no line ends inside a string literal.

What is read back is the JSON form of a sample (`Json.read_embed`), so all that is left is that
these values can be printed and are their own JSON form: their keys are texts that differ, so
reading puts each of them at its place.
-/

namespace MockScaffold

namespace Sample

/-- Values of JSON without floating-point numbers, whose integers have at most `digitLimit` digits.
The keys of a mapping are texts, and no two are equal. -/
inductive IsExact : Sample → Prop
  | null : IsExact (.scalar .null)
  | bool (b : Bool) : IsExact (.scalar (.bool b))
  | int {n : Int} (hn : n.natAbs < Nat.pow 10 digitLimit) : IsExact (.scalar (.int n))
  | text (s : String) : IsExact (.scalar (.text s))
  | list {items : List Sample} (hitems : ∀ v ∈ items, IsExact v) : IsExact (.list items)
  | map {entries : List (Scalar × Sample)} (hkeys : ∀ e ∈ entries, ∃ s, e.1 = .text s)
      (hdistinct : (entries.map (·.1)).Nodup) (hvalues : ∀ e ∈ entries, IsExact e.2) :
      IsExact (.map entries)

/-- Such a value is its own JSON form. -/
theorem IsExact.jsonForm_eq {v : Sample} (hv : v.IsExact) : v.jsonForm = v := by
  induction hv with
  | @list items _ ih => rw [jsonForm, jsonItems_eq_map, List.map_congr_left ih, List.map_id']
  | @map entries hkeys hdistinct _ ih =>
      have hmembers : jsonMembers entries = entries := by
        rw [jsonMembers_eq_map]
        refine (List.map_congr_left fun e he => ?_).trans (List.map_id' entries)
        obtain ⟨s, hs⟩ := hkeys e he
        rw [ih e he, hs]
        exact Prod.ext hs.symm rfl
      rw [jsonForm, hmembers, putEntries_of_texts hkeys hdistinct, List.nil_append]
  | _ => rfl

/-- Such a value can be embedded. -/
theorem IsExact.isEmbeddable {v : Sample} (hv : v.IsExact) : v.IsEmbeddable := by
  induction hv with
  | int hn => exact .scalar (Json.isOverlong_int_eq_false_iff.mpr hn)
  | list _ ih => exact .list ih
  | map hkeys _ _ ih =>
      refine .map (fun e he => ?_) ih
      obtain ⟨s, hs⟩ := hkeys e he
      rw [hs]
      exact ⟨rfl, rfl⟩
  | _ => exact .scalar rfl

end Sample

namespace Json

/-- It can be printed, at any level. -/
theorem exists_print_eq_ok {v : Sample} (hv : v.IsExact) (level : Nat) :
    ∃ text, print level v = .ok text :=
  exists_print_iff.mpr hv.isEmbeddable

/-- **Embedding is faithful.**  A value of JSON without floating-point numbers, whose integers are
not too long, has a text that is read as the value, with the keys of every mapping in their order.
With blanks as the further indent of its lines, the text is embedded, and is still read as the
value. -/
theorem read_embed_eq {v : Sample} (hv : v.IsExact) {indent : String}
    (hindent : Blank indent.toList) :
    ∃ text, print 0 v = .ok text ∧ read text = .ok v ∧
      embed indent v = .ok (Text.indentLines indent text) ∧
      read (Text.indentLines indent text) = .ok v := by
  obtain ⟨text, htext⟩ := exists_print_eq_ok hv 0
  have hembed (further : String) : embed further v = .ok (Text.indentLines further text) := by
    rw [embed, htext]
    rfl
  have hread {further : String} (hblank : Blank further.toList) :
      read (Text.indentLines further text) = .ok v := by
    rw [read_embed hblank (hembed further), hv.jsonForm_eq]
  have hempty : Blank "".toList := by simp [Blank]
  refine ⟨text, htext, ?_, hembed indent, hread hindent⟩
  have hplain := hread hempty
  rwa [Text.indentLines_empty] at hplain

/-- Line ends, quotation marks, a backslash and a control character in texts and keys, and empty
collections. -/
def tangled : Sample :=
  .map [(.text "a\nb", .list [.text "\"\\\x07", .null, .map [], .scalar (.int (-10))]),
    (.text "", .list [])]

/-- Embedded with a tab as the further indent, `tangled` is read back. -/
theorem read_embed_eq_tangled : tangled.IsExact ∧ Blank "\t".toList ∧
    ∃ text, embed "\t" tangled = .ok text ∧ read text = .ok tangled := by
  have hshort : (-10 : Int).natAbs < Nat.pow 10 digitLimit := by decide +kernel
  have hempty : (Sample.map []).IsExact := .map (by simp) (by simp) (by simp)
  have hitems : (Sample.list [.text "\"\\\x07", .null, .map [], .scalar (.int (-10))]).IsExact := by
    apply Sample.IsExact.list
    simp [Sample.IsExact.text, Sample.IsExact.null, hempty, Sample.IsExact.int hshort,
      Sample.text, Sample.null]
  have hexact : tangled.IsExact := by
    apply Sample.IsExact.map
    · simp
    · decide
    · simp [hitems, Sample.IsExact.list]
  have hindent : Blank "\t".toList := by simp [Blank, isSpace]
  obtain ⟨text, _, _, hembed, hread⟩ := read_embed_eq hexact hindent
  exact ⟨hexact, hindent, _, hembed, hread⟩

end Json

end MockScaffold
