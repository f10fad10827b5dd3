import MockScaffold.Proofs.Shape.Unambiguity
import MockScaffold.Proofs.Text.LineStarts

/-!
# Names of fields, read back

A type expression gives every field of an object lines of its own.  On the first of them stands the
token of its name, and a reader of that line finds the name there; only a broken name ends its line
before the colon (`startsWithProperty_fieldLines_iff`).

The main statement is `propertyName_readBack`: all names but the broken ones are read back, no two
of them are names of one property, and their fields are read off the lines of an object.
-/

namespace MockScaffold.Shape

open Text

/-! ## Lines of fields -/

/-- The lines of a field of an object at a depth. -/
def fieldLines (d : Int) (f : String × Shape) : List (List Char) :=
  lines (spaces d ++ "  " ++ propertyName f.1 ++ ": " ++ f.2.render).toList

/-- A first line after which the property of the name is read. -/
def StartsWithProperty (d : Int) (name : String) (group : List (List Char)) : Prop :=
  ∃ text after others, group = ((spaces d).toList ++ ' ' :: ' ' :: text) :: others ∧
    readProperty? text = some (name, after)

/-- The lines of a record are those of its fields, and then the closing one. -/
theorem lines_flatMap_fieldText (d : Int) (fields : List (String × Shape)) (closing : List Char) :
    lines (fields.flatMap (fieldText d) ++ closing) =
      fields.flatMap (fieldLines d) ++ lines closing := by
  induction fields with
  | nil => rfl
  | cons f rest ih =>
      have htext : fieldText d f =
          (spaces d ++ "  " ++ propertyName f.1 ++ ": " ++ f.2.render).toList ++ ['\n'] := by
        simp [fieldText]
      rw [List.flatMap_cons, htext, List.append_assoc, List.append_assoc, List.singleton_append,
        lines_append, ih, List.flatMap_cons, List.append_assoc]
      rfl

/-- Between the first line of an object and its last one stand those of its fields. -/
theorem lines_render_object (d : Int) {fields : List (String × Shape)} (hne : fields ≠ []) :
    lines (Shape.object d fields).render.toList =
      ['\x7b'] :: (fields.flatMap (fieldLines d) ++ [(spaces d).toList ++ ['\x7d']]) := by
  have hfirst : '\n' ∉ ['\x7b'] := by decide
  have hclosing : '\n' ∉ (spaces d).toList ++ ['\x7d'] := by
    rw [List.mem_append, not_or]
    exact ⟨newline_not_mem_spaces d, by decide⟩
  rw [toList_render_object d hne, ← List.singleton_append, lines_append_of_not_mem hfirst,
    lines_flatMap_fieldText, lines_of_not_mem hclosing]

/-- **Fields start lines.**  The line on which a field starts is that of its property just when its
name is not broken: the line of a broken name ends before the colon. -/
theorem startsWithProperty_fieldLines_iff (d : Int) (f : String × Shape) :
    StartsWithProperty d f.1 (fieldLines d f) ↔ ¬ IsBroken f.1 := by
  have hindent : '\n' ∉ (spaces d).toList := newline_not_mem_spaces d
  constructor
  · rintro ⟨text, after, others, hlines, hread⟩ hbroken
    have hname := hbroken.propertyName_eq
    obtain ⟨stem, hstem, heq⟩ := hbroken
    have hline : '\n' ∉ (spaces d).toList ++ ' ' :: ' ' :: stem.toList := by
      simp [hindent, newline_not_mem_of_isIdentifier hstem]
    have htext : (spaces d ++ "  " ++ propertyName f.1 ++ ": " ++ f.2.render).toList =
        ((spaces d).toList ++ ' ' :: ' ' :: stem.toList) ++
          '\n' :: (": " ++ f.2.render).toList := by
      rw [hname, heq]
      simp
    rw [fieldLines, htext, lines_append_of_not_mem hline] at hlines
    have hstemText : stem.toList = text := by
      have hfirst := List.append_cancel_left (List.head_eq_of_cons_eq hlines)
      exact List.tail_eq_of_cons_eq (List.tail_eq_of_cons_eq hfirst)
    have hnone : readProperty? stem.toList = none := by
      have hend : ([] : List Char).takeWhile isIdentifierPart = [] := rfl
      have hname : readName? stem.toList = some (String.ofList stem.toList, []) := by
        have hstemEnd := readName?_of_isIdentifier hstem hend
        rw [List.append_nil] at hstemEnd
        exact hstemEnd
      rw [readProperty?, hname]
      rfl
    rw [← hstemText, hnone] at hread
    cases hread
  · intro hwhole
    have htoken := newline_not_mem_propertyName hwhole
    let start := (spaces d).toList ++ ' ' :: ' ' :: ((propertyName f.1).toList ++ [':'])
    have hstart : '\n' ∉ start := by simp [start, hindent, htoken]
    have hprefix : start <+: (spaces d ++ "  " ++ propertyName f.1 ++ ": " ++ f.2.render).toList :=
      ⟨' ' :: f.2.render.toList, by simp [start]⟩
    obtain ⟨first, others, hlines⟩ := List.exists_cons_of_ne_nil (lines_ne_nil
      (spaces d ++ "  " ++ propertyName f.1 ++ ": " ++ f.2.render).toList)
    obtain ⟨after, rfl⟩ := prefix_of_lines_eq_cons hstart hprefix hlines
    have hread := readProperty?_propertyName f.1 after
    rw [knownName_of_not_isBroken hwhole] at hread
    refine ⟨(propertyName f.1).toList ++ ':' :: after, after, others, ?_, hread⟩
    rw [fieldLines, hlines]
    simp [start]

/-- **Names of fields survive.**  The token of a name is an identifier that is the name, or else a
string literal on one line that is read as the name, just when the name is not broken; and then the
property that is read is the name, whatever comes after the colon.  Another name is read as the same
property only if one of the two is broken and made of the other.  An object has a first and a last
line, and between them the lines of its fields in their order; the property of a field with the name
is read on the line where the field starts, just when the name is not broken. -/
theorem propertyName_readBack (name : String) :
    (IsBareToken name (propertyName name) ∨ IsLiteralToken name (propertyName name) ↔
      ¬ IsBroken name) ∧
    ¬ (IsBareToken name (propertyName name) ∧ IsLiteralToken name (propertyName name)) ∧
    (∀ rest, ∃ read,
      readProperty? ((propertyName name).toList ++ ':' :: rest) = some (read, rest) ∧
      (read = name ↔ ¬ IsBroken name)) ∧
    (∀ other rest, name ≠ other →
      (readProperty? ((propertyName name).toList ++ ':' :: rest) =
          readProperty? ((propertyName other).toList ++ ':' :: rest) ↔
        isIdentifier other.toList = true ∧ name = other ++ "\n" ∨
          isIdentifier name.toList = true ∧ other = name ++ "\n")) ∧
    ∀ (d : Int) (fields : List (String × Shape)) (t : Shape), (name, t) ∈ fields →
      lines (Shape.object d fields).render.toList =
          ['\x7b'] :: (fields.flatMap (fieldLines d) ++ [(spaces d).toList ++ ['\x7d']]) ∧
        (StartsWithProperty d name (fieldLines d (name, t)) ↔ ¬ IsBroken name) := by
  refine ⟨isToken_propertyName_iff name,
    not_isBareToken_and_isLiteralToken name (propertyName name), fun rest => ?_,
    fun other rest hne => ?_, fun d fields t hfield => ?_⟩
  · refine ⟨knownName name, readProperty?_propertyName name rest, ?_, knownName_of_not_isBroken⟩
    rintro hread ⟨stem, hstem, rfl⟩
    rw [knownName_append_newline hstem] at hread
    have hfeed : '\n' ∈ stem.toList := by
      rw [hread]
      simp
    exact newline_not_mem_of_isIdentifier hstem hfeed
  · rw [readProperty?_propertyName, readProperty?_propertyName, ← knownName_eq_iff hne]
    simp
  · exact ⟨lines_render_object d (List.ne_nil_of_mem hfield),
      startsWithProperty_fieldLines_iff d (name, t)⟩

/-- Fields with a name that is no identifier, one with a line feed inside, and an identifier. -/
def namedFields : List (String × Shape) :=
  [("first-name", .string), ("line\nbreak", .array .null), ("ok_key", .number)]

/-- The fields of `namedFields` take three lines, and a name with a line feed inside is read on its
own one. -/
theorem propertyName_readBack_namedFields :
    "line\nbreak" ≠ "ok_key" ∧
      readProperty? ((propertyName "line\nbreak").toList ++ [':']) ≠
        readProperty? ((propertyName "ok_key").toList ++ [':']) ∧
      ("line\nbreak", .array .null) ∈ namedFields ∧
      (lines (Shape.object 1 namedFields).render.toList).length = 5 ∧
      StartsWithProperty 1 "line\nbreak" (fieldLines 1 ("line\nbreak", .array .null)) := by
  have hwhole : ¬ IsBroken "line\nbreak" := by decide
  have hnames : "line\nbreak" ≠ "ok_key" := by decide
  have hfield : ("line\nbreak", .array .null) ∈ namedFields := by simp [namedFields]
  obtain ⟨_, _, _, hdifferent, hobject⟩ := propertyName_readBack "line\nbreak"
  obtain ⟨hlines, hstarts⟩ := hobject 1 namedFields _ hfield
  refine ⟨hnames, ?_, hfield, ?_, hstarts.mpr hwhole⟩
  · rw [Ne, hdifferent _ [] hnames]
    decide
  · rw [hlines]
    decide

/-- An identifier with a line feed is written in neither form and read as the identifier, and its
field ends a line before the colon. -/
theorem propertyName_brokenName :
    ¬ IsBareToken "a\n" (propertyName "a\n") ∧ ¬ IsLiteralToken "a\n" (propertyName "a\n") ∧
      "a\n" ≠ "a" ∧
      readProperty? ((propertyName "a\n").toList ++ [':']) =
        readProperty? ((propertyName "a").toList ++ [':']) ∧
      (Shape.object 0 [("a\n", .number)]).render = "\x7b\n  a\n: number\n\x7d" := by
  have hbroken : IsBroken "a\n" := by decide
  have htoken := mt (isToken_propertyName_iff "a\n").mp (not_not_intro hbroken)
  obtain ⟨hbare, hliteral⟩ := not_or.mp htoken
  refine ⟨hbare, hliteral, by decide, ?_, by decide +kernel⟩
  rw [readProperty?_propertyName, readProperty?_propertyName]
  decide

end MockScaffold.Shape
