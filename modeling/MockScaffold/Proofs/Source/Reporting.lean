import MockScaffold.Proofs.Files.PathText
import MockScaffold.Proofs.Json.ReadValues
import MockScaffold.Proofs.Yaml.Values
import MockScaffold.Source.Loading

/-!
# Faults that are reported

Each stage of loading reports the faults it knows of together with the source: asking for an
address, reading a file, decoding it and checking what it holds.  Three kinds of faults pass by all
of them, and only where a file is loaded (`Unforeseen`): a path with a null character, a YAML text
that is in form and has no value, and an integer of JSON that is too long.  For the last two it is
known what the text then holds: `Yaml.noValue_of_read` finds the escape, the number of the version
or the node at fault, and `Json.hasLongRun_of_read_eq_error` the digits.

The main statement is `Specification.load_outcome`: these are all the ways to fail that are not
reported, and whether loading takes one of them is told by the source and the text of the file.  An
address has none of them, since every failure to decode what it serves is reported.
-/

namespace MockScaffold

/-! ## Stage by stage -/

/-- A file is not tried where its path has a null character, and only there. -/
theorem FileTree.read_eq_nullByte_iff {t : FileTree} {p : FilePath} :
    t.read p = .error .nullByte ↔ '\x00' ∈ p.chars := by
  rw [read, bind_eq_error_iff, locatePath]
  constructor
  · intro h
    by_contra hnull
    rw [if_neg (by simpa using hnull)] at h
    rcases h with hlocate | ⟨place, _, hentry⟩
    · obtain ⟨problem, _, heq⟩ := mapError_eq_error_iff.mp hlocate
      cases heq
    · split at hentry <;> cases hentry
  · intro hnull
    exact .inl (if_pos (by simpa using hnull))

/-- Of the faults of reading a file, that of its path is not reported. -/
theorem readText_unreported_iff {t : FileTree} {p : FilePath} {f : LoadFault} :
    (readText t p = .error f ∧ f.isReported = false) ↔ '\x00' ∈ p.chars ∧ f = .nullByte := by
  rw [← FileTree.read_eq_nullByte_iff (t := t), readText, bind_eq_error_iff, mapError_eq_error_iff]
  constructor
  · rintro ⟨h, hf⟩
    rcases h with ⟨cause, hread, heq⟩ | ⟨bytes, _, htext⟩
    · subst heq
      cases cause with
      | nullByte => exact ⟨hread, rfl⟩
      | refused problem path => cases problem <;> cases hf
    · rcases bind_eq_error_iff.mp htext with hdecode | ⟨_, _, hlines⟩
      · obtain ⟨cause, _, rfl⟩ := mapError_eq_error_iff.mp hdecode
        cases hf
      · cases hlines
  · rintro ⟨hread, heq⟩
    subst heq
    exact ⟨.inl ⟨_, hread, rfl⟩, rfl⟩

/-- Of the faults of decoding YAML, those of value are not reported. -/
theorem decodeYaml_unreported_iff {source text : String} {f : LoadFault} :
    (decodeYaml source text = .error f ∧ f.isReported = false) ↔
      ∃ v, Yaml.read text = .error (.value v) ∧ f = .badScalar v := by
  rw [decodeYaml, mapError_eq_error_iff]
  constructor
  · rintro ⟨⟨cause, hread, heq⟩, hf⟩
    cases cause with
    | malformed m =>
        subst heq
        cases hf
    | value v => exact ⟨v, hread, heq.symm⟩
  · rintro ⟨v, hread, heq⟩
    subst heq
    exact ⟨⟨_, hread, rfl⟩, rfl⟩

/-- Of the faults of decoding JSON, those over digits are not reported. -/
theorem decodeJson_unreported_iff {source text : String} {f : LoadFault} :
    (decodeJson source text = .error f ∧ f.isReported = false) ↔
      ∃ o, Json.read text = .error (.digits o) ∧ f = .longInteger o := by
  rw [decodeJson, mapError_eq_error_iff]
  constructor
  · rintro ⟨⟨cause, hread, heq⟩, hf⟩
    cases cause with
    | malformed problem rest =>
        subst heq
        cases hf
    | digits o => exact ⟨o, hread, heq.symm⟩
  · rintro ⟨o, hread, heq⟩
    subst heq
    exact ⟨⟨_, hread, rfl⟩, rfl⟩

/-- All faults of an address are reported. -/
theorem isReported_of_fetched_eq_error {url : String} {reply : Reply} {f : LoadFault}
    (h : fetched url reply = .error f) : f.isReported = true := by
  rcases bind_eq_error_iff.mp h with hbody | ⟨bytes, _, hread⟩
  · obtain ⟨cause, _, rfl⟩ := mapError_eq_error_iff.mp hbody
    rfl
  · obtain ⟨cause, _, rfl⟩ := mapError_eq_error_iff.mp hread
    rfl

/-! ## Loading -/

/-- The ways to fail that no stage knows of. -/
inductive Unforeseen (t : FileTree) (source : String) : LoadFault → Prop
  /-- No file can have the path. -/
  | nullByte (hkind : SourceKind.of source ≠ .url) (hnull : '\x00' ∈ source.toList) :
      Unforeseen t source .nullByte
  /-- The file has the form of YAML but no value: in it is a number outside of scalars, or a node,
  that has none, and nothing before it is at fault. -/
  | noValue {text : String} {v : Yaml.ValueFault} (hkind : SourceKind.of source = .yaml)
      (htext : readText t (.ofText source) = .ok text) (hin : Yaml.NoValue text.toList v)
      (hread : Yaml.read text = .error (.value v)) :
      Unforeseen t source (.badScalar v)
  /-- The file has an integer of too many digits. -/
  | digits {text : String} {digits : List Char} (hkind : SourceKind.of source = .json)
      (htext : readText t (.ofText source) = .ok text) (hin : digits <:+: text.toList)
      (hdigits : ∀ c ∈ digits, c.isDigit = true) (hlong : digitLimit < digits.length)
      (hread : Json.read text = .error (.digits (.reading digits.length))) :
      Unforeseen t source (.longInteger (.reading digits.length))

variable {t : FileTree} {source : String} {f : LoadFault}

/-- Of the faults of decoding a file, the unforeseen ones are not reported. -/
theorem decodeFile_unreported_iff {text : String} (hkind : SourceKind.of source ≠ .url)
    (htext : readText t (.ofText source) = .ok text) :
    (decodeFile source text = .error f ∧ f.isReported = false) ↔
      Unforeseen t source f ∧ f ≠ .nullByte := by
  have hsame {text' : String} (h : readText t (.ofText source) = .ok text') : text' = text :=
    Except.ok.inj (h.symm.trans htext)
  rw [decodeFile]
  split
  · next hyaml =>
      rw [decodeYaml_unreported_iff]
      constructor
      · rintro ⟨v, hread, heq⟩
        subst heq
        exact ⟨.noValue hyaml htext (Yaml.noValue_of_read hread) hread, nofun⟩
      · rintro ⟨h, hf⟩
        cases h with
        | nullByte _ _ => exact absurd rfl hf
        | noValue _ htext' _ hread => exact ⟨_, hsame htext' ▸ hread, rfl⟩
        | digits hjson _ _ _ _ _ => cases hyaml.symm.trans hjson
  · next hyaml =>
      have hjson : SourceKind.of source = .json := by
        cases h : SourceKind.of source with
        | url => exact absurd h hkind
        | yaml => exact absurd h hyaml
        | json => rfl
      rw [decodeJson_unreported_iff]
      constructor
      · rintro ⟨o, hread, heq⟩
        obtain ⟨digits, hin, hdigits, hlong, rfl⟩ := Json.hasLongRun_of_read_eq_error hread
        subst heq
        exact ⟨.digits hjson htext hin hdigits hlong hread, nofun⟩
      · rintro ⟨h, hf⟩
        cases h with
        | nullByte _ _ => exact absurd rfl hf
        | noValue hyaml' _ _ _ => exact absurd hyaml' hyaml
        | digits _ htext' _ _ _ hread => exact ⟨_, hsame htext' ▸ hread, rfl⟩

/-- Of all the faults of getting a decoded value, the unforeseen ones are not reported.  An address
reports whatever fails; a file fails in its path, or else in being decoded. -/
theorem decodeSource_unreported_iff (fetch : String → Reply) :
    (decodeSource t fetch source = .error f ∧ f.isReported = false) ↔ Unforeseen t source f := by
  have hnull : '\x00' ∈ (FilePath.ofText source).chars ↔ '\x00' ∈ source.toList :=
    FilePath.mem_chars_ofText_iff (by decide) (by decide) source
  rw [decodeSource]
  split
  · next hurl =>
      constructor
      · rintro ⟨h, hf⟩
        rw [isReported_of_fetched_eq_error h] at hf
        cases hf
      · intro h
        cases h with
        | nullByte hkind _ => exact absurd hurl hkind
        | noValue hyaml _ _ _ => cases hurl.symm.trans hyaml
        | digits hjson _ _ _ _ _ => cases hurl.symm.trans hjson
  · next hkind =>
      rw [bind_eq_error_iff]
      constructor
      · rintro ⟨h, hf⟩
        rcases h with hpath | ⟨text, htext, hdecode⟩
        · obtain ⟨hmem, heq⟩ := readText_unreported_iff.mp ⟨hpath, hf⟩
          subst heq
          exact .nullByte hkind (hnull.mp hmem)
        · exact ((decodeFile_unreported_iff hkind htext).mp ⟨hdecode, hf⟩).1
      · intro h
        have hfile {text : String} (htext : readText t (.ofText source) = .ok text)
            (hf : f ≠ .nullByte) := (decodeFile_unreported_iff hkind htext).mpr ⟨h, hf⟩
        cases h with
        | nullByte _ hmem =>
            obtain ⟨hpath, hf⟩ := readText_unreported_iff.mpr ⟨hnull.mpr hmem, rfl⟩
            exact ⟨.inl hpath, hf⟩
        | noValue _ htext _ _ => exact ⟨.inr ⟨_, htext, (hfile htext nofun).1⟩, rfl⟩
        | digits _ htext _ _ _ _ => exact ⟨.inr ⟨_, htext, (hfile htext nofun).1⟩, rfl⟩

namespace Specification

/-- What is wrong with a decoded value is reported. -/
theorem load_unreported_iff (fetch : String → Reply) :
    (load t fetch source = .error f ∧ f.isReported = false) ↔ Unforeseen t source f := by
  rw [← decodeSource_unreported_iff fetch, load, bind_eq_error_iff]
  constructor
  · rintro ⟨h, hf⟩
    rcases h with h | ⟨v, _, hparse⟩
    · exact ⟨h, hf⟩
    · obtain ⟨cause, _, rfl⟩ := mapError_eq_error_iff.mp hparse
      cases hf
  · rintro ⟨h, hf⟩
    exact ⟨.inl h, hf⟩

/-- **The outcome of loading.**  A specification is loaded, or a fault is reported, just when
nothing unforeseen is in the way; and the faults that are not reported are the unforeseen ones. -/
theorem load_outcome (t : FileTree) (fetch : String → Reply) (source : String) :
    (((∃ spec, load t fetch source = .ok spec) ∨
        ∃ f, load t fetch source = .error f ∧ f.isReported = true) ↔
      ∀ f, ¬ Unforeseen t source f) ∧
    ∀ f, (load t fetch source = .error f ∧ f.isReported = false) ↔ Unforeseen t source f := by
  refine ⟨?_, fun f => load_unreported_iff fetch⟩
  constructor
  · intro h f hf
    obtain ⟨hload, hreported⟩ := (load_unreported_iff fetch).mpr hf
    rcases h with ⟨spec, hspec⟩ | ⟨f', hf', hreported'⟩
    · cases hspec.symm.trans hload
    · obtain rfl := Except.error.inj (hf'.symm.trans hload)
      cases hreported.symm.trans hreported'
  · intro h
    cases hload : load t fetch source with
    | ok spec => exact .inl ⟨spec, rfl⟩
    | error f =>
        refine .inr ⟨f, rfl, ?_⟩
        by_contra hreported
        exact h f ((load_unreported_iff fetch).mp ⟨hload, by simpa using hreported⟩)

/-- A file whose only scalar has the form of a date, in the thirteenth month. -/
def datedFile : FileTree :=
  ⟨[], [(["a.yaml".toList], .file (Text.Utf8.encode "apis: 2024-13-01\n"))]⟩

/-- Loading `datedFile` fails, and the fault is not reported. -/
theorem load_datedFile :
    load datedFile (fun _ => .refused "no network") "a.yaml" = .error (.badScalar .month) ∧
      (LoadFault.badScalar .month).isReported = false :=
  ⟨fault?_eq_some (by decide +kernel), rfl⟩

end Specification

end MockScaffold
