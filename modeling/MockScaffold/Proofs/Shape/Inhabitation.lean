import Mathlib.Data.List.Nodup
import MockScaffold.Proofs.Sample.Induction
import MockScaffold.Proofs.Shape.Union

/-!
# Values that inhabit shapes

A shape stands for a type expression, and `Sample.Inhabits` says which values the type admits.  The
main statement is `inhabits_infer_union`: inferred from all items of its lists, the shape of a
sample admits the sample, and it is tight, because every alternative for the items of a list is the
shape of one of them.

The one fact behind soundness is that `Shape.unite` drops a shape only where it keeps one of the
same structure, and that values cannot tell such shapes apart (`Inhabits.of_same`).
-/

namespace MockScaffold

/-! ## Inhabitation -/

/-- The values that a type admits.  An object admits the mappings whose keys are the names of its
fields; the order of entries is free. -/
inductive Sample.Inhabits : Sample → Shape → Prop
  | null : Inhabits (.scalar .null) .null
  | string (s : String) : Inhabits (.scalar (.text s)) .string
  | int (n : Int) : Inhabits (.scalar (.int n)) .number
  | float (x : Double) : Inhabits (.scalar (.float x)) .number
  | boolean (b : Bool) : Inhabits (.scalar (.bool b)) .boolean
  | unknown (v : Sample) : Inhabits v .unknown
  | record (entries : List (Scalar × Sample)) : Inhabits (.map entries) .record
  | array {items : List Sample} {item : Shape} (hitems : ∀ v ∈ items, Inhabits v item) :
      Inhabits (.list items) (.array item)
  | object {entries : List (Scalar × Sample)} {depth : Int} {fields : List (String × Shape)}
      (hkeys : ∀ k, k ∈ entries.map (·.1) ↔ ∃ f ∈ fields, k = .text f.1)
      (hvalues : ∀ e ∈ entries, ∀ f ∈ fields, e.1 = .text f.1 → Inhabits e.2 f.2) :
      Inhabits (.map entries) (.object depth fields)
  | union {v : Sample} {members : List Shape} {m : Shape} (hm : m ∈ members) (h : Inhabits v m) :
      Inhabits v (.union members)

namespace Shape

/-- Every field has a counterpart in a list of fields of the same structure. -/
theorem exists_field_of_skeletonFields {fs gs : List (String × Shape)}
    (h : skeletonFields fs = skeletonFields gs) {f : String × Shape} (hf : f ∈ fs) :
    ∃ g ∈ gs, g.1 = f.1 ∧ f.2.same g.2 = true := by
  rw [skeletonFields_eq_map, skeletonFields_eq_map] at h
  have hmem : (f.1, f.2.skeleton) ∈ gs.map fun g => (g.1, g.2.skeleton) :=
    h ▸ List.mem_map.mpr ⟨f, hf, rfl⟩
  obtain ⟨g, hg, heq⟩ := List.mem_map.mp hmem
  obtain ⟨hname, hskel⟩ := Prod.mk.inj heq
  exact ⟨g, hg, hname, (same_iff _ _).mpr hskel.symm⟩

/-- Every member has a counterpart in a union of the same structure. -/
theorem exists_member_of_skeletonMembers {as bs : List Shape}
    (h : skeletonMembers as = skeletonMembers bs) {a : Shape} (ha : a ∈ as) :
    ∃ b ∈ bs, a.same b = true := by
  rw [skeletonMembers_eq_map, skeletonMembers_eq_map] at h
  obtain ⟨b, hb, heq⟩ := List.mem_map.mp (h ▸ List.mem_map_of_mem ha)
  exact ⟨b, hb, (same_iff _ _).mpr heq.symm⟩

end Shape

namespace Sample

open Shape

/-- Values do not tell shapes of the same structure apart. -/
theorem Inhabits.of_same {v : Sample} {s t : Shape} (h : v.Inhabits s) (hst : s.same t = true) :
    v.Inhabits t := by
  rw [same_iff] at hst
  induction h generalizing t with
  | array _ ih =>
      cases t with
      | array item =>
          exact .array fun v hv => ih v hv (by simpa [skeleton] using hst)
      | _ => simp [skeleton] at hst
  | @object entries depth fields hkeys _ ih =>
      cases t with
      | object depth' gs =>
          have hfields : skeletonFields fields = skeletonFields gs := by
            simpa [skeleton] using hst
          refine .object (fun k => (hkeys k).trans ⟨?_, ?_⟩) ?_
          · rintro ⟨f, hf, rfl⟩
            obtain ⟨g, hg, hname, _⟩ := exists_field_of_skeletonFields hfields hf
            exact ⟨g, hg, by rw [hname]⟩
          · rintro ⟨g, hg, rfl⟩
            obtain ⟨f, hf, hname, _⟩ := exists_field_of_skeletonFields hfields.symm hg
            exact ⟨f, hf, by rw [hname]⟩
          · intro e he g hg hkey
            obtain ⟨f, hf, hname, hsame⟩ := exists_field_of_skeletonFields hfields.symm hg
            exact ih e he f hf (by rw [hkey, hname]) ((same_iff _ _).mp (same_symm hsame))
      | _ => simp [skeleton] at hst
  | union hm _ ih =>
      cases t with
      | union bs =>
          obtain ⟨b, hb, hsame⟩ :=
            exists_member_of_skeletonMembers (by simpa [skeleton] using hst) hm
          exact .union hb (ih ((same_iff _ _).mp hsame))
      | _ => simp [skeleton] at hst
  | _ =>
      cases t <;> simp [skeleton] at hst
      constructor

/-- A union admits what one of its members does. -/
theorem inhabits_union_iff {v : Sample} {members : List Shape} :
    v.Inhabits (.union members) ↔ ∃ m ∈ members, v.Inhabits m := by
  constructor
  · intro h
    cases h with
    | union hm h => exact ⟨_, hm, h⟩
  · rintro ⟨m, hm, h⟩
    exact .union hm h

/-- What several shapes unite to admits what one of them admits. -/
theorem inhabits_unite_iff {v : Sample} {shapes : List Shape} :
    v.Inhabits (unite shapes) ↔ ∃ s ∈ shapes, v.Inhabits s := by
  have hdistinct : v.Inhabits (unite shapes) ↔ ∃ m ∈ distinct shapes, v.Inhabits m := by
    unfold unite
    split
    · next s heq => simp [heq]
    · exact inhabits_union_iff
  rw [hdistinct]
  constructor
  · rintro ⟨m, hm, h⟩
    exact ⟨m, mem_of_mem_distinct hm, h⟩
  · rintro ⟨s, hs, h⟩
    obtain ⟨m, hm, hsame⟩ := exists_same_mem_distinct hs
    exact ⟨m, hm, h.of_same hsame⟩

/-! ## Samples of JSON -/

/-- The values of JSON: the keys of a mapping are texts, and no two are equal. -/
inductive IsJson : Sample → Prop
  | null : IsJson (.scalar .null)
  | bool (b : Bool) : IsJson (.scalar (.bool b))
  | int (n : Int) : IsJson (.scalar (.int n))
  | float (x : Double) : IsJson (.scalar (.float x))
  | text (s : String) : IsJson (.scalar (.text s))
  | list {items : List Sample} (hitems : ∀ v ∈ items, IsJson v) : IsJson (.list items)
  | map {entries : List (Scalar × Sample)} (hkeys : ∀ e ∈ entries, ∃ s, e.1 = .text s)
      (hdistinct : (entries.map (·.1)).Nodup) (hvalues : ∀ e ∈ entries, IsJson e.2) :
      IsJson (.map entries)

/-- In a mapping with distinct keys a key has one entry. -/
theorem entry_eq_of_key_eq {entries : List (Scalar × Sample)}
    (hdistinct : (entries.map (·.1)).Nodup) {e e' : Scalar × Sample} (he : e ∈ entries)
    (he' : e' ∈ entries) (hkey : e.1 = e'.1) : e = e' :=
  List.inj_on_of_nodup_map hdistinct he he' hkey

/-- The shape of a JSON value admits the value. -/
theorem IsJson.inhabits_infer {v : Sample} (hv : v.IsJson) (d : Int) :
    v.Inhabits (infer .union d v) := by
  induction hv generalizing d with
  | @list items _ ih =>
      by_cases hne : items = []
      · subst hne
        exact .array (by simp)
      · rw [infer_list_union d hne]
        refine .array fun v hv => inhabits_unite_iff.mpr ?_
        exact ⟨infer .union d v, List.mem_map_of_mem hv, ih v hv d⟩
  | @map entries hkeys hdistinct _ ih =>
      by_cases hne : entries = []
      · subst hne
        exact .record []
      · rw [infer_map .union d hne]
        refine .object (fun k => ?_) ?_
        · constructor
          · intro hk
            obtain ⟨e, he, rfl⟩ := List.mem_map.mp hk
            obtain ⟨s, hs⟩ := hkeys e he
            exact ⟨_, List.mem_map_of_mem he, by simp [hs, Scalar.name]⟩
          · rintro ⟨f, hf, rfl⟩
            obtain ⟨e, he, rfl⟩ := List.mem_map.mp hf
            obtain ⟨s, hs⟩ := hkeys e he
            exact List.mem_map.mpr ⟨e, he, by simp [hs, Scalar.name]⟩
        · intro e he f hf hkey
          obtain ⟨e', he', rfl⟩ := List.mem_map.mp hf
          obtain ⟨s, hs⟩ := hkeys e' he'
          have heq : e = e' := entry_eq_of_key_eq hdistinct he he' (by simp [hkey, hs, Scalar.name])
          exact heq ▸ ih e he (d + 1)
  | _ => simp only [infer_scalar, ofScalar]; constructor

/-- The keys of JSON values are texts, and those are never too long. -/
theorem IsJson.meetsOverlongKey_eq {v : Sample} (hv : v.IsJson) (strategy : ArrayStrategy) :
    meetsOverlongKey strategy v = false := by
  induction hv with
  | list _ ih => exact meetsOverlongKey_list strategy ih
  | map hkeys _ _ ih =>
      refine meetsOverlongKey_map strategy fun e he => ⟨?_, ih e he⟩
      obtain ⟨s, hs⟩ := hkeys e he
      rw [hs]
      rfl
  | _ => simp only [meetsOverlongKey]

/-! ## Lists inside a sample -/

/-- `u` stands inside `v`; mappings count as levels, of which `v` is at `d` and `u` at `e`. -/
inductive Occurs (u : Sample) (e : Int) : Sample → Int → Prop
  | self : Occurs u e u e
  | item {items : List Sample} {x : Sample} {d : Int} (hx : x ∈ items) (h : Occurs u e x d) :
      Occurs u e (.list items) d
  | value {entries : List (Scalar × Sample)} {f : Scalar × Sample} {d : Int} (hf : f ∈ entries)
      (h : Occurs u e f.2 (d + 1)) : Occurs u e (.map entries) d

end Sample

/-- `t` stands inside a shape, as the shape of items, of a field or of a member. -/
inductive Shape.Part (t : Shape) : Shape → Prop
  | self : Part t t
  | item {s : Shape} (h : Part t s) : Part t (.array s)
  | field {d : Int} {fields : List (String × Shape)} {f : String × Shape} (hf : f ∈ fields)
      (h : Part t f.2) : Part t (.object d fields)
  | member {members : List Shape} {m : Shape} (hm : m ∈ members) (h : Part t m) :
      Part t (.union members)

namespace Sample

open Shape

/-- Shapes of the same structure have parts of the same structures. -/
theorem exists_part_of_same {t s s' : Shape} (ht : t.Part s) (hs : s.same s' = true) :
    ∃ t', t'.Part s' ∧ t.same t' = true := by
  induction ht generalizing s' with
  | self => exact ⟨s', .self, hs⟩
  | item _ ih =>
      cases s' with
      | array item =>
          obtain ⟨t', ht', hsame⟩ := ih (by simpa [same] using hs)
          exact ⟨t', .item ht', hsame⟩
      | _ => simp [same] at hs
  | field hf _ ih =>
      cases s' with
      | object d' gs =>
          obtain ⟨g, hg, _, hfg⟩ :=
            exists_field_of_skeletonFields (by simpa [same_iff, skeleton] using hs) hf
          obtain ⟨t', ht', hsame⟩ := ih hfg
          exact ⟨t', .field hg ht', hsame⟩
      | _ => simp [same] at hs
  | member hm _ ih =>
      cases s' with
      | union bs =>
          obtain ⟨b, hb, hmb⟩ :=
            exists_member_of_skeletonMembers (by simpa [same_iff, skeleton] using hs) hm
          obtain ⟨t', ht', hsame⟩ := ih hmb
          exact ⟨t', .member hb ht', hsame⟩
      | _ => simp [same] at hs

/-- What stands in one of several shapes stands, up to layout, in what they unite to. -/
theorem exists_part_unite {t s : Shape} {shapes : List Shape} (ht : t.Part s) (hs : s ∈ shapes) :
    ∃ t', t'.Part (unite shapes) ∧ t.same t' = true := by
  obtain ⟨m, hm, hsame⟩ := exists_same_mem_distinct hs
  obtain ⟨t', ht', htt'⟩ := exists_part_of_same ht hsame
  refine ⟨t', ?_, htt'⟩
  unfold unite
  split
  · next m' heq =>
      rw [heq] at hm
      rwa [← List.mem_singleton.mp hm]
  · exact .member hm ht'

/-- The shape of what stands in a sample stands, up to layout, in the shape of the sample. -/
theorem Occurs.exists_part {u v : Sample} {e d : Int} (h : u.Occurs e v d) :
    ∃ t, t.Part (infer .union d v) ∧ (infer .union e u).same t = true := by
  induction h with
  | self => exact ⟨_, .self, same_refl _⟩
  | @item items x d hx _ ih =>
      obtain ⟨t, ht, hsame⟩ := ih
      obtain ⟨t', ht', htt'⟩ :=
        exists_part_unite ht (List.mem_map_of_mem hx : _ ∈ items.map (infer .union d))
      rw [infer_list_union d (List.ne_nil_of_mem hx)]
      exact ⟨t', .item ht', same_trans hsame htt'⟩
  | @value entries f d hf _ ih =>
      obtain ⟨t, ht, hsame⟩ := ih
      rw [infer_map .union d (List.ne_nil_of_mem hf)]
      exact ⟨t, .field (List.mem_map.mpr ⟨f, hf, rfl⟩) ht, hsame⟩

/-- Every alternative for the items of a list is the shape of one of them. -/
theorem exists_item_of_mem_alternatives {d : Int} {items : List Sample} {m : Shape}
    (hm : m ∈ (unite (items.map (infer .union d))).alternatives) :
    ∃ x ∈ items, infer .union d x = m := by
  rw [alternatives_unite_infer] at hm
  exact List.mem_map.mp (mem_of_mem_distinct hm)

/-- **Soundness and tightness of inference from all items.**  The shape of a JSON value exists and
admits the value.  The shape of every list inside the value stands in it, up to layout, and the
alternatives for the items of that list, one or several, are shapes of items. -/
theorem inhabits_infer_union {v : Sample} (hv : v.IsJson) (d : Int) :
    ∃ s, infer? .union d v = .ok s ∧ v.Inhabits s ∧
      ∀ items e, items ≠ [] → (Sample.list items).Occurs e v d →
        ∃ item t, infer .union e (.list items) = .array item ∧
          t.Part s ∧ (Shape.array item).same t = true ∧
          ∀ m ∈ item.alternatives, ∃ x ∈ items, infer .union e x = m := by
  refine ⟨_, infer?_eq (hv.meetsOverlongKey_eq .union) d, hv.inhabits_infer d, ?_⟩
  intro items e hne hocc
  obtain ⟨t, ht, hsame⟩ := hocc.exists_part
  have hlist := infer_list_union e hne
  exact ⟨_, t, hlist, ht, hlist ▸ hsame, fun m hm => exists_item_of_mem_alternatives hm⟩

/-- Two mappings of one structure around a null value: three items, two alternatives. -/
theorem inhabits_infer_union_mixed :
    (Sample.list [.map [(.text "a", .scalar (.int 1))], .null,
        .map [(.text "a", .scalar (.int 2))]]).IsJson ∧
      (Sample.list [.map [(.text "a", .scalar (.int 1))], .null,
        .map [(.text "a", .scalar (.int 2))]]).Inhabits
        (.array (.union [.object 0 [("a", .number)], .null])) := by
  have hentry (n : Int) : (Sample.map [(.text "a", .scalar (.int n))]).IsJson :=
    .map (by simp) (by simp) (by simpa using IsJson.int n)
  have hv : (Sample.list [.map [(.text "a", .scalar (.int 1))], .null,
      .map [(.text "a", .scalar (.int 2))]]).IsJson := by
    refine .list fun v hv => ?_
    rcases List.mem_cons.mp hv with rfl | hv
    · exact hentry 1
    · rcases List.mem_cons.mp hv with rfl | hv
      · exact .null
      · exact List.mem_singleton.mp hv ▸ hentry 2
  obtain ⟨s, hs, hinhabits, _⟩ := inhabits_infer_union hv 0
  cases hs
  exact ⟨hv, hinhabits⟩

end Sample

end MockScaffold
