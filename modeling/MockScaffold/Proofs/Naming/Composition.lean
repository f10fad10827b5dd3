import Mathlib.Data.List.Basic
import MockScaffold.Proofs.Naming.Fragment

/-!
# Names compose along the path

A name is put together part by part, and braces vanish wherever they stand.  So what stands before a
separator and what stands behind it go into a name without regard to each other
(`joinParts_append_cons`), even where a placeholder spans the cut.  Only the prefix `/api/` is seen
across a cut: a slash may complete it (`CompletesApi`), and then the text before the slash is lost.

The main statement is `fragment_composes`.  It says where a path may be cut, and that the fragment of
a path is those of its segments, one after the other.
-/

namespace MockScaffold.Naming

/-- No separator is a brace. -/
theorem isBrace_eq_false_of_isSeparator {c : Char} (hc : isSeparator c = true) :
    isBrace c = false := by
  simp only [isSeparator, Bool.or_eq_true, beq_iff_eq] at hc
  rcases hc with rfl | rfl <;> rfl

/-- A separator cuts a name in two. -/
theorem joinParts_append_cons (cs ds : List Char) {c : Char} (hc : isSeparator c = true) :
    joinParts (cs ++ c :: ds) = joinParts cs ++ joinParts ds := by
  have hkeep : (c :: ds).filter (!isBrace ·) = c :: ds.filter (!isBrace ·) :=
    List.filter_cons_of_pos (by simp [isBrace_eq_false_of_isSeparator hc])
  rw [joinParts, List.filter_append, hkeep, List.splitOnP_append_cons _ _ hc, List.flatMap_append]
  rfl

/-! ## Cuts that the prefix sees -/

/-- Whether a character, with the texts on its two sides, completes the prefix that is dropped. -/
def CompletesApi (cs : List Char) (c : Char) (ds : List Char) : Prop :=
  c = '/' ∧ (cs = "/api".toList ∨ cs = [] ∧ "api/".toList <+: ds)

/-- A cut text starts with a word if the first half does, or if the word goes on behind the cut. -/
theorem prefix_append_cons_iff {word cs ds : List Char} {c : Char} :
    word <+: cs ++ c :: ds ↔
      word <+: cs ∨ ∃ rest, word = cs ++ c :: rest ∧ rest <+: ds := by
  induction cs generalizing word with
  | nil =>
      cases word with
      | nil => simp
      | cons d word => simp [List.cons_prefix_cons, and_assoc]
  | cons b cs ih =>
      cases word with
      | nil => simp
      | cons d word => simp [List.cons_prefix_cons, ih, and_or_left, and_assoc]

/-- The separators of the prefix are its first character and its last one. -/
theorem api_eq_append_cons {cs rest : List Char} {c : Char} (hc : isSeparator c = true)
    (h : "/api/".toList = cs ++ c :: rest) :
    c = '/' ∧ (cs = "/api".toList ∧ rest = [] ∨ cs = [] ∧ rest = "api/".toList) := by
  have hletters : c ≠ 'a' ∧ c ≠ 'p' ∧ c ≠ 'i' := by
    refine ⟨?_, ?_, ?_⟩ <;> rintro rfl <;> cases hc
  have hword : ['/', 'a', 'p', 'i', '/'] = cs ++ c :: rest := h
  simp only [List.cons_eq_append_iff, List.nil_eq_append_iff] at hword
  grind

/-- A cut text starts with the prefix if its first half does, or if the cut completes it. -/
theorem api_prefix_append_cons_iff {cs ds : List Char} {c : Char} (hc : isSeparator c = true) :
    "/api/".toList <+: cs ++ c :: ds ↔ "/api/".toList <+: cs ∨ CompletesApi cs c ds := by
  rw [prefix_append_cons_iff]
  refine or_congr_right ⟨?_, ?_⟩
  · rintro ⟨rest, hword, hrest⟩
    obtain ⟨rfl, ⟨rfl, _⟩ | ⟨rfl, rfl⟩⟩ := api_eq_append_cons hc hword
    · exact ⟨rfl, .inl rfl⟩
    · exact ⟨rfl, .inr ⟨rfl, hrest⟩⟩
  · rintro ⟨rfl, rfl | ⟨rfl, hrest⟩⟩
    · exact ⟨[], rfl, List.nil_prefix⟩
    · exact ⟨_, rfl, hrest⟩

/-- The fragments of two halves are that of the whole just when the cut does not complete the
prefix. -/
theorem joinParts_dropApi_append_cons_iff {cs ds : List Char} {c : Char}
    (hc : isSeparator c = true) (hds : ¬ "/api/".toList <+: ds) :
    joinParts (dropApi (cs ++ c :: ds)) = joinParts (dropApi cs) ++ joinParts (dropApi ds) ↔
      ¬ CompletesApi cs c ds := by
  rw [dropApi_eq_self hds]
  constructor
  · rintro heq ⟨rfl, hcut⟩
    have hlost (rest : List Char) : joinParts rest ≠ "Api".toList ++ joinParts rest := by
      rw [Ne, List.self_eq_append_left]
      decide
    rcases hcut with rfl | ⟨rfl, rest, rfl⟩
    · have hwhole : dropApi ("/api".toList ++ '/' :: ds) = ds := dropApi_append ds
      have hhalf : joinParts (dropApi "/api".toList) = "Api".toList := by decide
      rw [hwhole, hhalf] at heq
      exact hlost ds heq
    · have hwhole : dropApi ([] ++ '/' :: ("api/".toList ++ rest)) = rest := dropApi_append rest
      have hhalf : joinParts ("api/".toList ++ rest) = "Api".toList ++ joinParts rest :=
        joinParts_append_cons "api".toList rest (c := '/') rfl
      rw [hwhole, hhalf] at heq
      exact hlost rest heq
  · intro hcut
    by_cases hcs : "/api/".toList <+: cs
    · obtain ⟨rest, rfl⟩ := hcs
      rw [List.append_assoc, dropApi_append, dropApi_append, joinParts_append_cons _ _ hc]
    · have hwhole : ¬ "/api/".toList <+: cs ++ c :: ds := by
        rw [api_prefix_append_cons_iff hc, not_or]
        exact ⟨hcs, hcut⟩
      rw [dropApi_eq_self hwhole, dropApi_eq_self hcs, joinParts_append_cons _ _ hc]

/-- A separator between two paths is lost in the fragment, and nothing else is, unless it completes
the leading `/api/`. -/
theorem fragment_append_iff {p sep q : String} {c : Char} (hsep : sep.toList = [c])
    (hc : isSeparator c = true) (hq : ¬ "/api/".toList <+: q.toList) :
    fragment (p ++ sep ++ q) = fragment p ++ fragment q ↔ ¬ CompletesApi p.toList c q.toList := by
  have hpath : (p ++ sep ++ q).toList = p.toList ++ c :: q.toList := by simp [hsep]
  rw [← joinParts_dropApi_append_cons_iff hc hq, ← hpath, fragment, fragment, fragment,
    ← String.ofList_append, String.ofList_inj]

/-! ## Segments -/

/-- A name is put together segment by segment. -/
theorem joinParts_eq_flatMap (cs : List Char) :
    joinParts cs = (cs.splitOnP isSeparator).flatMap joinParts := by
  by_cases h : ∃ c ∈ cs, isSeparator c = true
  · obtain ⟨c, hmem, hc⟩ := h
    obtain ⟨before, after, hcut⟩ := List.append_of_mem hmem
    rw [hcut, joinParts_append_cons _ _ hc, List.splitOnP_append_cons _ _ hc, List.flatMap_append,
      ← joinParts_eq_flatMap before, ← joinParts_eq_flatMap after]
  · have hplain : ∀ c ∈ cs, isSeparator c = false := by simpa using h
    rw [List.splitOnP_eq_singleton hplain, List.flatMap_singleton]
termination_by cs.length
decreasing_by all_goals simp only [hcut, List.length_append, List.length_cons]; omega

/-- A segment has no slash, so nothing is dropped from it. -/
theorem fragment_ofList_segment {cs segment : List Char} (h : segment ∈ cs.splitOnP isSeparator) :
    fragment (String.ofList segment) = String.ofList (joinParts segment) := by
  have hplain : ∀ c ∈ segment, isSeparator c = false := by
    intro c hc
    have hmem := List.mem_flatten.mpr ⟨segment, h, hc⟩
    rw [flatten_splitOnP] at hmem
    simpa using List.of_mem_filter hmem
  have hstart : ¬ "/api/".toList <+: segment := by
    intro hapi
    exact absurd (hplain '/' (hapi.subset (by simp))) (by decide)
  rw [fragment, String.toList_ofList, dropApi_eq_self hstart]

/-- **Names compose along the path.**  Let `q` not start with `/api/`.  Then the fragment of `p/q` is
that of `p` and that of `q`, just when the slash does not complete the prefix; and that of `p_q`
always is.  So the fragment of any path is put together from those of its segments, which are the
parts of what follows one leading `/api/`: none of them depends on the others. -/
theorem fragment_composes :
    (∀ p q : String, ¬ "/api/".toList <+: q.toList →
      (fragment (p ++ "/" ++ q) = fragment p ++ fragment q ↔
        p ≠ "/api" ∧ ¬ (p = "" ∧ "api/".toList <+: q.toList)) ∧
      fragment (p ++ "_" ++ q) = fragment p ++ fragment q) ∧
    ∀ path : String,
      let rest := if "/api/".toList <+: path.toList then path.toList.drop 5 else path.toList
      fragment path = String.join ((rest.splitOnP isSeparator).map fun segment =>
        fragment (String.ofList segment)) := by
  refine ⟨fun p q hq => ⟨?_, ?_⟩, fun path => ?_⟩
  · have hslash : "/".toList = ['/'] := rfl
    have hapi : p.toList = "/api".toList ↔ p = "/api" := String.toList_inj
    rw [fragment_append_iff hslash rfl hq, CompletesApi, and_iff_right rfl, hapi,
      String.toList_eq_nil_iff, not_or]
  · have hline : "_".toList = ['_'] := rfl
    rw [fragment_append_iff hline rfl hq]
    exact fun hcut => absurd hcut.1 (by decide)
  · dsimp only
    rw [← dropApi_eq_ite, fragment, joinParts_eq_flatMap, ← String.toList_inj,
      String.toList_ofList, String.toList_join, List.flatMap_map]
    refine List.flatMap_congr fun segment hsegment => ?_
    rw [fragment_ofList_segment hsegment, String.toList_ofList]

/-- A path with a placeholder of two words, which a cut may go through, and a cut that completes the
prefix. -/
theorem fragment_composes_userPath :
    ¬ "/api/".toList <+: "id\x7d/orders".toList ∧
      fragment "/api/users/\x7buser_id\x7d/orders" =
        fragment "/api/users/\x7buser" ++ fragment "id\x7d/orders" ∧
      fragment "/api/users/\x7buser" ++ fragment "id\x7d/orders" = "UsersUserIdOrders" ∧
      fragment ("/api" ++ "/" ++ "id\x7d/orders") ≠ fragment "/api" ++ fragment "id\x7d/orders" := by
  have hrest : ¬ "/api/".toList <+: "id\x7d/orders".toList := by decide
  obtain ⟨hcuts, _⟩ := fragment_composes
  refine ⟨hrest, (hcuts "/api/users/\x7buser" _ hrest).2, by decide +kernel, ?_⟩
  intro hcut
  exact ((hcuts "/api" _ hrest).1.mp hcut).1 rfl

end MockScaffold.Naming
