import MockScaffold.Proofs.Json.Embedding
import MockScaffold.Proofs.Sample.Entries
import MockScaffold.Proofs.Shape.Inhabitation

/-!
# The mock response and its declared type

The response of a mock handler is a sample as JSON has it, and the type of the response is inferred
from the same sample.  The two disagree over keys: a type spells null and the truth values `None`,
`True` and `False`, JSON spells them `null`, `true` and `false`, and keys of different kinds may be
spelled alike, so that JSON keeps the value of one and the type asks for those of all.

`Sample.resembles` compares a value with a sample and says when a type inferred from the sample
admits the value (`inhabits_infer_iff`).  The main statement is `read_embed_inhabits_iff`: the
response inhabits its type just when it is like the sample, and it always does where keys are spelled
alike in both, each in a way of its own.
-/

namespace MockScaffold

open Shape

namespace Sample

/-! ## Values like a sample -/

/-- Whether a value is of the kind of a scalar; what JSON has no kind for is like anything. -/
def resemblesScalar (w : Sample) : Scalar → Bool
  | .null => w.isNull
  | .bool _ =>
    match w with
    | .scalar (.bool _) => true
    | _ => false
  | .int _ | .float _ =>
    match w with
    | .scalar (.int _) | .scalar (.float _) => true
    | _ => false
  | .text _ =>
    match w with
    | .scalar (.text _) => true
    | _ => false
  | .bytes _ | .date _ | .moment _ => true

mutual

/-- Whether a value is like a sample: it is of the same kind, every item of it is like some item of
the sample, and its keys are the names of the keys of the sample, with a value that is like every
value of that name. -/
def resembles (w : Sample) : Sample → Bool
  | .scalar s => w.resemblesScalar s
  | .list samples =>
    match w with
    | .list items => samples.isEmpty || items.all fun u => resemblesSome u samples
    | _ => false
  | .map entries =>
    match w with
    | .map fields =>
      entries.isEmpty ||
        (fields.all fun f => entries.any fun e => f.1 == .text e.1.name) &&
          resemblesEach fields entries
    | _ => false
  | .set _ | .pair _ _ => true

/-- Whether a value is like one of several samples. -/
def resemblesSome (w : Sample) : List Sample → Bool
  | [] => false
  | v :: rest => resembles w v || resemblesSome w rest

/-- Whether for every entry there are fields of its name, and their values are like its value. -/
def resemblesEach (fields : List (Scalar × Sample)) : List (Scalar × Sample) → Bool
  | [] => true
  | (k, v) :: rest =>
    (fields.any fun f => f.1 == .text k.name) &&
      (fields.all fun f => f.1 != .text k.name || resembles f.2 v) && resemblesEach fields rest

end

/-- A value is like one of several samples when there is one that it is like. -/
theorem resemblesSome_iff {w : Sample} {samples : List Sample} :
    w.resemblesSome samples = true ↔ ∃ v ∈ samples, w.resembles v = true := by
  induction samples with
  | nil => simp [resemblesSome]
  | cons v rest ih => simp [resemblesSome, ih]

/-- The entries of a mapping, each with the fields of its name. -/
theorem resemblesEach_iff {fields entries : List (Scalar × Sample)} :
    resemblesEach fields entries = true ↔ ∀ e ∈ entries,
      (∃ f ∈ fields, f.1 = .text e.1.name) ∧
        ∀ f ∈ fields, f.1 = .text e.1.name → f.2.resembles e.2 = true := by
  induction entries with
  | nil => simp [resemblesEach]
  | cons e rest ih =>
      rw [resemblesEach, Bool.and_eq_true, Bool.and_eq_true, ih, List.forall_mem_cons]
      refine and_congr (and_congr ?_ ?_) Iff.rfl
      · simp only [List.any_eq_true, beq_iff_eq]
      · simp only [List.all_eq_true, Bool.or_eq_true, bne_iff_ne, ne_eq, imp_iff_not_or]

/-- A list is like a list of samples when its items are each like some sample; the empty list of
samples asks for nothing. -/
theorem resembles_list {w : Sample} {samples : List Sample} :
    w.resembles (.list samples) = true ↔ ∃ items, w = .list items ∧
      (samples = [] ∨ ∀ u ∈ items, ∃ v ∈ samples, u.resembles v = true) := by
  cases w <;> simp [resembles, resemblesSome_iff]

/-- A mapping is like a mapping when its keys are the names there, and every value is like all
values of its name. -/
theorem resembles_map {w : Sample} {entries : List (Scalar × Sample)} :
    w.resembles (.map entries) = true ↔ ∃ fields, w = .map fields ∧
      (entries = [] ∨ (∀ f ∈ fields, ∃ e ∈ entries, f.1 = .text e.1.name) ∧ ∀ e ∈ entries,
        (∃ f ∈ fields, f.1 = .text e.1.name) ∧
          ∀ f ∈ fields, f.1 = .text e.1.name → f.2.resembles e.2 = true) := by
  cases w <;> simp [resembles, resemblesEach_iff]

/-! ## What a type of arrays or objects admits -/

/-- The type of any mapping admits the mappings. -/
theorem inhabits_record_iff {w : Sample} : w.Inhabits .record ↔ ∃ entries, w = .map entries := by
  constructor
  · intro h
    cases h with
    | record entries => exact ⟨entries, rfl⟩
  · rintro ⟨entries, rfl⟩
    exact .record entries

/-- An array admits the lists whose items it admits. -/
theorem inhabits_array_iff {w : Sample} {item : Shape} :
    w.Inhabits (.array item) ↔ ∃ items, w = .list items ∧ ∀ u ∈ items, u.Inhabits item := by
  constructor
  · intro h
    cases h with
    | array hitems => exact ⟨_, rfl, hitems⟩
  · rintro ⟨items, rfl, hitems⟩
    exact .array hitems

/-- An object admits the mappings whose keys are names of fields, and that have for every field a
key of its name, with values that the field admits. -/
theorem inhabits_object_iff {w : Sample} {d : Int} {fields : List (String × Shape)} :
    w.Inhabits (.object d fields) ↔ ∃ entries, w = .map entries ∧
      (∀ e ∈ entries, ∃ f ∈ fields, e.1 = .text f.1) ∧ ∀ f ∈ fields,
        (∃ e ∈ entries, e.1 = .text f.1) ∧ ∀ e ∈ entries, e.1 = .text f.1 → e.2.Inhabits f.2 := by
  constructor
  · intro h
    cases h with
    | object hkeys hvalues =>
        refine ⟨_, rfl, fun e he => (hkeys e.1).mp (List.mem_map_of_mem he), fun f hf => ⟨?_, ?_⟩⟩
        · obtain ⟨e, he, hname⟩ := List.mem_map.mp ((hkeys (.text f.1)).mpr ⟨f, hf, rfl⟩)
          exact ⟨e, he, hname⟩
        · exact fun e he hname => hvalues e he f hf hname
  · rintro ⟨entries, rfl, hnames, hfields⟩
    refine .object (fun k => ⟨fun hk => ?_, ?_⟩) fun e he f hf hname => (hfields f hf).2 e he hname
    · obtain ⟨e, he, rfl⟩ := List.mem_map.mp hk
      exact hnames e he
    · rintro ⟨f, hf, rfl⟩
      obtain ⟨e, he, hname⟩ := (hfields f hf).1
      exact List.mem_map.mpr ⟨e, he, hname⟩

/-- The type of a scalar admits the values of its kind. -/
theorem inhabits_ofScalar_iff {w : Sample} {s : Scalar} :
    w.Inhabits (ofScalar s) ↔ w.resemblesScalar s = true := by
  constructor
  · intro h
    cases s <;> cases h <;> rfl
  · intro h
    cases s <;> try exact .unknown _
    all_goals
      cases w with
      | scalar t => cases t <;> first | constructor | cases h
      | _ => cases h

/-- The items of a list are admitted by what its items unite to when each is like some item. -/
theorem inhabits_unite_infer_iff {u : Sample} {samples : List Sample} {d : Int}
    (h : ∀ v ∈ samples, u.Inhabits (infer .union d v) ↔ u.resembles v = true) :
    u.Inhabits (unite (samples.map (infer .union d))) ↔ ∃ v ∈ samples, u.resembles v = true := by
  rw [inhabits_unite_iff]
  constructor
  · rintro ⟨s, hs, hu⟩
    obtain ⟨v, hv, rfl⟩ := List.mem_map.mp hs
    exact ⟨v, hv, (h v hv).mp hu⟩
  · rintro ⟨v, hv, hu⟩
    exact ⟨_, List.mem_map_of_mem hv, (h v hv).mpr hu⟩

/-- The type inferred from a sample admits the values that are like the sample. -/
theorem inhabits_infer_iff {w v : Sample} {d : Int} :
    w.Inhabits (infer .union d v) ↔ w.resembles v = true := by
  induction v generalizing w d with
  | scalar s => rw [infer_scalar, inhabits_ofScalar_iff, resembles]
  | list samples ih =>
      rw [resembles_list]
      by_cases hne : samples = []
      · subst hne
        simp [inhabits_array_iff, Inhabits.unknown]
      · rw [infer_list_union d hne, inhabits_array_iff]
        simp only [inhabits_unite_infer_iff fun v hv => ih v hv, hne, false_or]
  | map entries ih =>
      rw [resembles_map]
      by_cases hne : entries = []
      · subst hne
        simp [inhabits_record_iff]
      · rw [infer_map .union d hne, inhabits_object_iff]
        simp only [hne, false_or, List.mem_map, exists_exists_and_eq_and, forall_exists_index,
          and_imp, forall_apply_eq_imp_iff₂]
        refine exists_congr fun fields => and_congr_right fun _ => and_congr_right fun _ => ?_
        refine forall₂_congr fun e he => and_congr_right fun _ => ?_
        exact forall₂_congr fun f _ => imp_congr_right fun _ => ih e he
  | set members => simp [infer, resembles, Inhabits.unknown]
  | pair first second _ _ => simp [infer, resembles, Inhabits.unknown]

/-! ## Spellings of keys -/

end Sample

namespace Scalar

/-- A finite number is a name and a key alike. -/
theorem write_jsonLayout_eq_iff {x : Double} :
    x.write Double.jsonLayout = x.write Double.plainLayout ↔ x.isFinite = true := by
  unfold Double.write Double.isFinite
  cases x.value with
  | nan => decide
  | infinite negative => cases negative <;> decide
  | finite negative mantissa exponent => cases mantissa <;> exact iff_of_true rfl rfl

/-- A key is spelled alike in a type and in JSON but for null, the truth values and the numbers that
are not finite. -/
theorem jsonKey_eq_name_iff {k : Scalar} :
    k.jsonKey = k.name ↔
      k ≠ .null ∧ (∀ b, k ≠ .bool b) ∧ ∀ x, k = .float x → x.isFinite = true := by
  cases k with
  | null => simp [jsonKey, name]
  | bool b => cases b <;> simp [jsonKey, name]
  | float x => simp [jsonKey, name, write_jsonLayout_eq_iff]
  | _ => simp [jsonKey]

end Scalar

namespace Sample

/-- Every mapping has its keys spelled alike in the type and in JSON, and no two keys of one
spelling. -/
inductive SpelledAlike : Sample → Prop
  | scalar (s : Scalar) : SpelledAlike (.scalar s)
  | list {items : List Sample} (hitems : ∀ v ∈ items, SpelledAlike v) : SpelledAlike (.list items)
  | map {entries : List (Scalar × Sample)} (hkeys : ∀ e ∈ entries, e.1.jsonKey = e.1.name)
      (hdistinct : (entries.map (·.1.name)).Nodup) (hvalues : ∀ e ∈ entries, SpelledAlike e.2) :
      SpelledAlike (.map entries)
  | set (members : List Scalar) : SpelledAlike (.set members)
  | pair (first second : Sample) : SpelledAlike (.pair first second)

/-- The keys that `SpelledAlike` admits: all but null, the truth values and the numbers that are not
finite, and no two of one name. -/
theorem spelledAlike_map_iff {entries : List (Scalar × Sample)} :
    (Sample.map entries).SpelledAlike ↔
      (∀ e ∈ entries, e.1 ≠ .null ∧ (∀ b, e.1 ≠ .bool b) ∧
        ∀ x, e.1 = .float x → x.isFinite = true) ∧
      (entries.map (·.1.name)).Nodup ∧ ∀ e ∈ entries, e.2.SpelledAlike := by
  simp only [← Scalar.jsonKey_eq_name_iff]
  constructor
  · intro h
    cases h with
    | map hkeys hdistinct hvalues => exact ⟨hkeys, hdistinct, hvalues⟩
  · rintro ⟨hkeys, hdistinct, hvalues⟩
    exact .map hkeys hdistinct hvalues

/-- Where keys are spelled alike, the JSON form of a sample is like the sample. -/
theorem SpelledAlike.jsonForm_resembles {v : Sample} (h : v.SpelledAlike) :
    v.jsonForm.resembles v = true := by
  induction h with
  | scalar s => cases s <;> rfl
  | @list items _ ih =>
      rw [jsonForm, jsonItems_eq_map, resembles_list]
      refine ⟨_, rfl, Or.inr fun u hu => ?_⟩
      obtain ⟨v, hv, rfl⟩ := List.mem_map.mp hu
      exact ⟨v, hv, ih v hv⟩
  | @map entries hkeys hdistinct _ ih =>
      have hmembers : jsonMembers entries =
          entries.map fun e => (.text e.1.name, e.2.jsonForm) := by
        rw [jsonMembers_eq_map]
        exact List.map_congr_left fun e he => by rw [hkeys e he]
      have hnames : ((entries.map fun e =>
          ((Scalar.text e.1.name, e.2.jsonForm) : Scalar × Sample)).map (·.1)).Nodup := by
        have hmap := hdistinct.map fun s t => Scalar.text.inj
        rwa [List.map_map] at hmap ⊢
      have hform : putEntries [] (jsonMembers entries) =
          entries.map fun e => (.text e.1.name, e.2.jsonForm) := by
        rw [hmembers]
        apply putEntries_of_texts _ hnames
        intro f hf
        obtain ⟨e, _, rfl⟩ := List.mem_map.mp hf
        exact ⟨_, rfl⟩
      rw [jsonForm, hform, resembles_map]
      refine ⟨_, rfl, Or.inr ⟨fun f hf => ?_, fun e he => ⟨?_, fun f hf hname => ?_⟩⟩⟩
      · obtain ⟨e, he, rfl⟩ := List.mem_map.mp hf
        exact ⟨e, he, rfl⟩
      · exact ⟨_, List.mem_map_of_mem he, rfl⟩
      · obtain ⟨e', he', rfl⟩ := List.mem_map.mp hf
        obtain rfl : e' = e := List.inj_on_of_nodup_map hdistinct he' he (Scalar.text.inj hname)
        exact ih e' he'
  | set members => simp [resembles]
  | pair first second => simp [resembles]

end Sample

namespace Json

/-! ## The mock response -/

/-- What can be embedded has no key that is too long. -/
theorem meetsOverlongKey_of_isEmbeddable {v : Sample} (hv : v.IsEmbeddable)
    (strategy : ArrayStrategy) : meetsOverlongKey strategy v = false := by
  induction hv with
  | list _ ih => exact meetsOverlongKey_list strategy ih
  | map hkeys _ ih => exact meetsOverlongKey_map strategy fun e he => ⟨(hkeys e he).2, ih e he⟩
  | _ => simp only [meetsOverlongKey]

/-- So it is with what has been printed. -/
theorem meetsOverlongKey_of_print {v : Sample} {level : Nat} {text : String}
    (h : print level v = .ok text) (strategy : ArrayStrategy) :
    meetsOverlongKey strategy v = false :=
  meetsOverlongKey_of_isEmbeddable (exists_print_iff.mp ⟨text, h⟩) strategy

/-- **The mock response and its type.**  With blanks as the further indent, what is embedded for a
sample is read as its JSON form, and a type is inferred for the sample.  The JSON form inhabits the
type just when it is like the sample; and so it does wherever the keys of every mapping are spelled
alike in the type and in JSON, each in a way of its own. -/
theorem read_embed_inhabits_iff {indent : String} (hindent : Blank indent.toList) {v : Sample}
    {text : String} (h : embed indent v = .ok text) (d : Int) :
    read text = .ok v.jsonForm ∧ ∃ s, infer? .union d v = .ok s ∧
      (v.jsonForm.Inhabits s ↔ v.jsonForm.resembles v = true) ∧
      (v.SpelledAlike → v.jsonForm.Inhabits s) := by
  obtain ⟨printed, hprinted, _⟩ := map_eq_ok h
  refine ⟨read_embed hindent h, _, infer?_eq (meetsOverlongKey_of_print hprinted .union) d,
    Sample.inhabits_infer_iff, fun halike => ?_⟩
  exact Sample.inhabits_infer_iff.mpr halike.jsonForm_resembles

/-- A sample with keys and values of different kinds. -/
def keyedSample : Sample :=
  .map [(.text "id", .scalar (.int 7)), (.int 1, .list [.text "a", .null]),
    (.text "on", .scalar (.date ⟨2024, 1, 2⟩))]

/-- The mock response for `keyedSample` inhabits its type. -/
theorem read_embed_inhabits_keyedSample : Blank " ".toList ∧
    ∃ text s, embed " " keyedSample = .ok text ∧ read text = .ok keyedSample.jsonForm ∧
      infer? .union 0 keyedSample = .ok s ∧ keyedSample.jsonForm.Inhabits s := by
  have hindent : Blank " ".toList := by simp [Blank, isSpace]
  have hembed : embed " " keyedSample = .ok ("\x7b\n   \"id\": 7,\n   \"1\": [\n" ++
      "     \"a\",\n     null\n   ],\n   \"on\": \"2024-01-02\"\n \x7d") := by decide +kernel
  have hitems : (Sample.list [.text "a", .null]).SpelledAlike := by
    apply Sample.SpelledAlike.list
    simp [Sample.SpelledAlike.scalar, Sample.text, Sample.null]
  have halike : keyedSample.SpelledAlike := by
    refine Sample.spelledAlike_map_iff.mpr ⟨?_, by decide, ?_⟩
    · simp
    · simp [Sample.SpelledAlike.scalar, hitems]
  obtain ⟨hread, s, hs, _, hinhabits⟩ := read_embed_inhabits_iff hindent hembed 0
  exact ⟨hindent, _, s, hembed, hread, hs, hinhabits halike⟩

/-- The mapping of null to one. -/
def nullKeyed : Sample := .map [(.null, .scalar (.int 1))]

/-- Null is spelled `null` in JSON and `None` in the type. -/
theorem not_inhabits_nullKeyed : Blank "".toList ∧
    embed "" nullKeyed = .ok "\x7b\n  \"null\": 1\n\x7d" ∧
    read "\x7b\n  \"null\": 1\n\x7d" = .ok (.map [(.text "null", .scalar (.int 1))]) ∧
    infer? .union 0 nullKeyed = .ok (.object 0 [("None", .number)]) ∧
    ¬ (Sample.map [(.text "null", .scalar (.int 1))]).Inhabits (.object 0 [("None", .number)]) := by
  have hindent : Blank "".toList := by simp [Blank]
  have hembed : embed "" nullKeyed = .ok "\x7b\n  \"null\": 1\n\x7d" := by decide +kernel
  have hinfer : infer .union 0 nullKeyed = .object 0 [("None", .number)] := rfl
  obtain ⟨printed, hprinted, _⟩ := map_eq_ok hembed
  refine ⟨hindent, hembed, read_embed hindent hembed, ?_, ?_⟩
  · rw [← hinfer]
    exact infer?_eq (meetsOverlongKey_of_print hprinted .union) 0
  · rw [← hinfer]
    exact mt Sample.inhabits_infer_iff.mp (by decide)

end Json

end MockScaffold
