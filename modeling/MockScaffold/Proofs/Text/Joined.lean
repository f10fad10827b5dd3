/-!
# Texts joined and cut

A joined text is its first part and then every other part with the separator before it, or, with one
more separator at its end, every part with the separator after it.  A text that is cut at the first
occurrence of a character can be cut in one way only.
-/

namespace MockScaffold.Text

/-- A separator stands before every text but the first. -/
theorem toList_intercalate_cons (sep s : String) (rest : List String) :
    (sep.intercalate (s :: rest)).toList =
      s.toList ++ rest.flatMap fun t => sep.toList ++ t.toList := by
  induction rest generalizing s with
  | nil => simp
  | cons t rest ih =>
      rw [String.intercalate_cons_cons, String.toList_append, String.toList_append, ih,
        List.flatMap_cons]
      simp only [List.append_assoc]

/-- With one more separator at the end, one stands after every text. -/
theorem toList_intercalate_append (sep : String) {parts : List String} (hne : parts ≠ []) :
    (sep.intercalate parts).toList ++ sep.toList =
      parts.flatMap fun t => t.toList ++ sep.toList := by
  induction parts with
  | nil => exact absurd rfl hne
  | cons s rest ih =>
      cases rest with
      | nil => simp
      | cons t rest =>
          rw [List.flatMap_cons, ← ih (List.cons_ne_nil t rest), String.intercalate_cons_cons,
            String.toList_append, String.toList_append]
          simp only [List.append_assoc]

/-- Every part stands in the joined text. -/
theorem exists_intercalate_eq_of_mem (sep : String) {s : String} {parts : List String}
    (h : s ∈ parts) : ∃ before after, sep.intercalate parts = before ++ (s ++ after) := by
  induction parts with
  | nil => exact absurd h List.not_mem_nil
  | cons t rest ih =>
      cases rest with
      | nil =>
          obtain rfl := List.mem_singleton.mp h
          exact ⟨"", "", by simp⟩
      | cons u rest =>
          rw [String.intercalate_cons_cons]
          rcases List.mem_cons.mp h with rfl | h
          · exact ⟨"", sep ++ sep.intercalate (u :: rest), by simp [String.append_assoc]⟩
          · obtain ⟨before, after, heq⟩ := ih h
            exact ⟨t ++ sep ++ before, after, by simp only [heq, String.append_assoc]⟩

/-- A text that starts with another one is that one and a rest. -/
theorem eq_append_of_isPrefixOf? {start cs rest : List Char}
    (h : start.isPrefixOf? cs = some rest) : cs = start ++ rest := by
  induction start generalizing cs with
  | nil => exact Option.some.inj h
  | cons c start ih =>
      cases cs with
      | nil => cases h
      | cons d cs =>
          have hstep : (if c == d then start.isPrefixOf? cs else none) = some rest := h
          split at hstep
          · next heq => rw [ih hstep, eq_of_beq heq, List.cons_append]
          · cases hstep

theorem isPrefixOf?_append (start rest : List Char) :
    start.isPrefixOf? (start ++ rest) = some rest := by
  induction start with
  | nil => rfl
  | cons c start ih =>
      have hstep : (c :: start).isPrefixOf? (c :: start ++ rest) =
          if c == c then start.isPrefixOf? (start ++ rest) else none := rfl
      rw [hstep, if_pos (beq_self_eq_true c), ih]

/-- The part before the first occurrence of a character, and the part after it, are determined. -/
theorem append_cons_inj {c : Char} {a b x y : List Char} (ha : c ∉ a) (hb : c ∉ b)
    (h : a ++ c :: x = b ++ c :: y) : a = b ∧ x = y := by
  induction a generalizing b with
  | nil =>
      cases b with
      | nil => exact ⟨rfl, List.tail_eq_of_cons_eq h⟩
      | cons d b => exact absurd (List.head_eq_of_cons_eq h ▸ List.mem_cons_self) hb
  | cons d a ih =>
      cases b with
      | nil => exact absurd ((List.head_eq_of_cons_eq h).symm ▸ List.mem_cons_self) ha
      | cons e b =>
          obtain ⟨rfl, htail⟩ := List.cons.inj h
          obtain ⟨rfl, rfl⟩ := ih (fun hm => ha (List.mem_cons_of_mem _ hm))
            (fun hm => hb (List.mem_cons_of_mem _ hm)) htail
          exact ⟨rfl, rfl⟩

end MockScaffold.Text
