import MockScaffold.Proofs.TypeTable.Names

/-!
# What a table holds

A registration changes the binding of one name, and the policy says whether it changes that of a
name that has one (`get?_register`).  So after any number of registrations a name is bound to the
first shape that was registered under it, or to the last one (`get?_registerAll_firstWins`,
`get?_registerAll_lastWins`).

For endpoints, the registered types are those of the samples that they name, one endpoint after the
other (`namedTypes_eq_ok_iff`).  The main statement is `ofEndpoints_bindings`: it tells from this
list when there is a table, its names, their bindings, and what more endpoints do to it.
-/

namespace MockScaffold

open MocksModule (insertNew foldl_insertNew_nil)

/-! ## Single registrations -/

/-- The first entry is looked at first. -/
theorem lookup_cons_eq_ite (n : String) (e : String × Shape) (rest : List (String × Shape)) :
    (e :: rest).lookup n = if n = e.1 then some e.2 else rest.lookup n := by
  obtain ⟨m, t⟩ := e
  rw [List.lookup_cons]
  by_cases h : n = m
  · simp [h]
  · rw [beq_eq_false_iff_ne.mpr h, if_neg h]

/-- Setting a shape changes the binding of its name, and no other. -/
theorem lookup_setShape (name n : String) (s : Shape) (entries : List (String × Shape)) :
    (setShape name s entries).lookup n = if n = name then some s else entries.lookup n := by
  induction entries with
  | nil => simp [setShape, lookup_cons_eq_ite]
  | cons e rest ih =>
      rw [setShape]
      by_cases hm : e.1 = name
      · rw [if_pos hm, lookup_cons_eq_ite, lookup_cons_eq_ite, hm]
        by_cases h : n = name <;> simp [h]
      · rw [if_neg hm, lookup_cons_eq_ite, lookup_cons_eq_ite, ih]
        by_cases h : n = name
        · simp [h, Ne.symm hm]
        · simp [h]

/-- A name that is not there is set at the end. -/
theorem setShape_of_not_mem {name : String} {entries : List (String × Shape)}
    (h : name ∉ entries.map (·.1)) (s : Shape) :
    setShape name s entries = entries ++ [(name, s)] := by
  induction entries with
  | nil => rfl
  | cons e rest ih =>
      rw [List.map_cons, List.mem_cons, not_or] at h
      rw [setShape, if_neg (Ne.symm h.1), ih h.2, List.cons_append]

namespace TypeTable

@[simp] theorem policy_register (t : TypeTable) (name : String) (s : Shape) :
    (t.register name s).policy = t.policy := by
  unfold register
  split <;> rfl

/-- A name is in the table when it has a type there. -/
theorem contains_eq_isSome_get? (t : TypeTable) (name : String) :
    t.contains name = (t.get? name).isSome := by
  rw [Bool.eq_iff_iff, contains, names, List.contains_iff_mem, get?, List.lookup_isSome_iff]
  simp only [List.mem_map, beq_iff_eq]
  exact exists_congr fun e => and_congr_right fun _ => eq_comm

/-- Registering a shape changes the binding of its name if the policy accepts it. -/
theorem get?_register (t : TypeTable) (name n : String) (s : Shape) :
    (t.register name s).get? n =
      if n = name ∧ t.accepts name = true then some s else t.get? n := by
  unfold register
  split
  · next h => simp [get?, lookup_setShape, h]
  · next h => simp [h]

/-- The first type of a name stays. -/
theorem get?_register_firstWins {t : TypeTable} (ht : t.policy = .firstWins) (name n : String)
    (s : Shape) :
    (t.register name s).get? n = (t.get? n).or (if n = name then some s else none) := by
  rw [get?_register, accepts, contains_eq_isSome_get?, ht]
  by_cases h : n = name
  · subst h
    cases hn : t.get? n <;> simp
  · simp [h]

/-- The last type of a name counts. -/
theorem get?_register_lastWins {t : TypeTable} (ht : t.policy = .lastWins) (name n : String)
    (s : Shape) : (t.register name s).get? n = if n = name then some s else t.get? n := by
  simp [get?_register, accepts, ht]

/-- A refusal leaves the table as it is. -/
theorem register_of_refused {t : TypeTable} {name : String} (h : t.accepts name = false)
    (s : Shape) : t.register name s = t := by
  simp [register, h]

/-- Where the first shape wins, what is accepted comes to the end. -/
theorem entries_register_of_accepted {t : TypeTable} (ht : t.policy = .firstWins) {name : String}
    (h : t.accepts name = true) (s : Shape) :
    (t.register name s).entries = t.entries ++ [(name, s)] := by
  have hnew : name ∉ t.entries.map (·.1) := by
    simpa [accepts, ht, contains, names] using h
  rw [register, if_pos h, ← setShape_of_not_mem hnew]

/-- Where the first shape wins, the entries that are there stay as they are. -/
theorem entries_prefix_register {t : TypeTable} (ht : t.policy = .firstWins) (name : String)
    (s : Shape) : t.entries <+: (t.register name s).entries := by
  cases h : t.accepts name with
  | false => simp only [register_of_refused h, List.prefix_rfl]
  | true =>
      rw [entries_register_of_accepted ht h]
      exact List.prefix_append _ _

/-- An entry is one that was there, or the new one. -/
theorem mem_setShape {name : String} {s : Shape} {entries : List (String × Shape)}
    {e : String × Shape} (h : e ∈ setShape name s entries) : e ∈ entries ∨ e = (name, s) := by
  induction entries with
  | nil => exact .inr (List.mem_singleton.mp h)
  | cons first rest ih =>
      rw [setShape] at h
      split at h
      · next heq =>
          rcases List.mem_cons.mp h with rfl | h
          · exact .inr (by rw [heq])
          · exact .inl (List.mem_cons_of_mem first h)
      · rcases List.mem_cons.mp h with rfl | h
        · exact .inl List.mem_cons_self
        · exact (ih h).imp_left (List.mem_cons_of_mem first)

/-- The same for registering. -/
theorem mem_entries_register {t : TypeTable} {name : String} {s : Shape} {e : String × Shape}
    (h : e ∈ (t.register name s).entries) : e ∈ t.entries ∨ e = (name, s) := by
  unfold register at h
  split at h
  · exact mem_setShape h
  · exact .inl h

/-! ## Many registrations -/

@[simp] theorem policy_registerAll (t : TypeTable) (types : List (String × Shape)) :
    (t.registerAll types).policy = t.policy := by
  unfold registerAll
  induction types generalizing t with
  | nil => rfl
  | cons e rest ih => rw [List.foldl_cons, ih, policy_register]

theorem registerAll_cons (t : TypeTable) (e : String × Shape) (types : List (String × Shape)) :
    t.registerAll (e :: types) = (t.register e.1 e.2).registerAll types := rfl

/-- Two lists of types, one after the other. -/
theorem registerAll_append (t : TypeTable) (types more : List (String × Shape)) :
    t.registerAll (types ++ more) = (t.registerAll types).registerAll more :=
  List.foldl_append

/-- Where the first shape wins, a name without binding gets the first shape of its name. -/
theorem get?_registerAll_firstWins {t : TypeTable} (ht : t.policy = .firstWins)
    (types : List (String × Shape)) (n : String) :
    (t.registerAll types).get? n = (t.get? n).or (types.lookup n) := by
  induction types generalizing t with
  | nil => simp [registerAll]
  | cons e rest ih =>
      rw [registerAll_cons, ih (by rw [policy_register, ht]), get?_register_firstWins ht,
        Option.or_assoc]
      congr 1
      by_cases h : n = e.1 <;> simp [lookup_cons_eq_ite, h]

/-- Where the last shape wins, a name gets the last shape of its name. -/
theorem get?_registerAll_lastWins {t : TypeTable} (ht : t.policy = .lastWins)
    (types : List (String × Shape)) (n : String) :
    (t.registerAll types).get? n = (types.reverse.lookup n).or (t.get? n) := by
  induction types generalizing t with
  | nil => simp [registerAll]
  | cons e rest ih =>
      rw [registerAll_cons, ih (by rw [policy_register, ht]), get?_register_lastWins ht,
        List.reverse_cons, List.lookup_append, Option.or_assoc]
      congr 1
      by_cases h : n = e.1 <;> simp [lookup_cons_eq_ite, h]

/-- Where the first type stays, the table only gets longer. -/
theorem entries_prefix_registerAll {t : TypeTable} (ht : t.policy = .firstWins)
    (types : List (String × Shape)) : t.entries <+: (t.registerAll types).entries := by
  induction types generalizing t with
  | nil => exact List.prefix_rfl
  | cons e rest ih =>
      exact (entries_prefix_register ht e.1 e.2).trans (ih (by rw [policy_register, ht]))

/-- What is in a table after registrations was there before or is registered. -/
theorem mem_entries_registerAll {t : TypeTable} {types : List (String × Shape)}
    {e : String × Shape} (h : e ∈ (t.registerAll types).entries) : e ∈ t.entries ∨ e ∈ types := by
  induction types generalizing t with
  | nil => exact .inl h
  | cons first rest ih =>
      rw [registerAll_cons] at h
      rcases ih h with h | h
      · exact (mem_entries_register h).imp_right fun heq => List.mem_cons.mpr (.inl heq)
      · exact .inr (List.mem_cons_of_mem first h)

/-- The names only get more, whatever the policy. -/
theorem names_prefix_registerAll (t : TypeTable) (types : List (String × Shape)) :
    t.names <+: (t.registerAll types).names := by
  rw [names_registerAll, MocksModule.foldl_insertNew]
  exact List.prefix_append _ _

end TypeTable

/-! ## Tables for endpoints -/

/-- The samples that an endpoint names: its request body, if it is one that gets a type, and its
response. -/
def Endpoint.namedSamples (e : Endpoint) : List (String × Sample) :=
  (if e.method ∈ bodyMethods ∧ e.requestBody.isNull = false then
      [(Naming.requestName e.path, e.requestBody)] else []) ++
    [(Naming.responseName e.path, e.response)]

/-- The samples that endpoints name, one endpoint after the other. -/
def namedSamples (endpoints : List Endpoint) : List (String × Sample) :=
  endpoints.flatMap Endpoint.namedSamples

/-- A sample is named after the path of its endpoint. -/
theorem exists_path_of_mem_namedSamples {endpoints : List Endpoint} {name : String} {v : Sample}
    (h : (name, v) ∈ namedSamples endpoints) : ∃ e ∈ endpoints,
      name = Naming.requestName e.path ∨ name = Naming.responseName e.path := by
  obtain ⟨e, he, hmem⟩ := List.mem_flatMap.mp h
  refine ⟨e, he, ?_⟩
  rcases List.mem_append.mp hmem with hmem | hmem
  · split at hmem
    · exact .inl (congrArg Prod.fst (List.mem_singleton.mp hmem))
    · exact absurd hmem List.not_mem_nil
  · exact .inr (congrArg Prod.fst (List.mem_singleton.mp hmem))

/-- Named samples with the shapes that are inferred for them. -/
def inferAll (strategy : ArrayStrategy) (samples : List (String × Sample)) :
    List (String × Shape) :=
  samples.map fun s => (s.1, Shape.infer strategy 0 s.2)

/-- Whether shapes can be inferred for all of the samples. -/
def Inferable (strategy : ArrayStrategy) (samples : List (String × Sample)) : Prop :=
  ∀ s ∈ samples, Shape.meetsOverlongKey strategy s.2 = false

/-- What a list of named samples gives when shapes are inferred for it. -/
theorem mapM_infer?_eq_ok_iff {strategy : ArrayStrategy} {samples : List (String × Sample)}
    {types : List (String × Shape)} :
    samples.mapM (fun s => (Shape.infer? strategy 0 s.2).map (s.1, ·)) = .ok types ↔
      Inferable strategy samples ∧ types = inferAll strategy samples := by
  have hitem (s : String × Sample) (t : String × Shape) :
      (Shape.infer? strategy 0 s.2).map (s.1, ·) = .ok t ↔
        Shape.meetsOverlongKey strategy s.2 = false ∧ (s.1, Shape.infer strategy 0 s.2) = t := by
    unfold Shape.infer?
    cases Shape.meetsOverlongKey strategy s.2 <;> simp [Except.map]
  rw [mapM_eq_ok_iff]
  simp only [hitem]
  rw [List.forall₂_and_left, ← List.forall₂_map_left_iff, List.forall₂_eq_eq_eq]
  exact and_congr_right fun _ => eq_comm

/-- The types of an endpoint are inferred from its samples, under the same names. -/
theorem Endpoint.namedTypes_eq_mapM (strategy : ArrayStrategy) (e : Endpoint) :
    e.namedTypes strategy =
      e.namedSamples.mapM fun s => (Shape.infer? strategy 0 s.2).map (s.1, ·) := by
  unfold namedTypes namedSamples
  by_cases hbody : e.hasTypedBody = true
  · rw [if_pos hbody, if_pos (e.hasTypedBody_iff.mp hbody), List.singleton_append,
      List.mapM_cons, List.mapM_cons, List.mapM_nil]
    dsimp only
    cases Shape.infer? strategy 0 e.requestBody with
    | error o => rfl
    | ok s => cases Shape.infer? strategy 0 e.response <;> rfl
  · rw [if_neg hbody, if_neg (mt e.hasTypedBody_iff.mpr hbody), List.nil_append, List.mapM_cons,
      List.mapM_nil]
    dsimp only
    cases Shape.infer? strategy 0 e.response <;> rfl

/-- Working through all parts at once is working through them part by part. -/
theorem mapM_flatMap {ε α β γ : Type} (f : α → List β) (g : β → Except ε γ) (xs : List α) :
    (xs.flatMap f).mapM g = (xs.mapM fun x => (f x).mapM g).map List.flatten := by
  induction xs with
  | nil => rfl
  | cons x xs ih =>
      rw [List.flatMap_cons, List.mapM_append, List.mapM_cons, ih]
      cases (f x).mapM g with
      | error e => rfl
      | ok ys => cases xs.mapM fun x => (f x).mapM g <;> rfl

/-- Endpoints name the types of their named samples, if they can be inferred. -/
theorem namedTypes_eq_ok_iff {strategy : ArrayStrategy} {endpoints : List Endpoint}
    {types : List (String × Shape)} :
    namedTypes strategy endpoints = .ok types ↔
      Inferable strategy (namedSamples endpoints) ∧
        types = inferAll strategy (namedSamples endpoints) := by
  rw [← mapM_infer?_eq_ok_iff, namedSamples, mapM_flatMap, namedTypes,
    funext (Endpoint.namedTypes_eq_mapM strategy)]

/-- The samples of two lists of endpoints, one after the other. -/
theorem namedSamples_append (endpoints more : List Endpoint) :
    namedSamples (endpoints ++ more) = namedSamples endpoints ++ namedSamples more :=
  List.flatMap_append

namespace TypeTable

/-- There is a table for endpoints if shapes can be inferred for all samples that they name, and it
is what registering these shapes gives. -/
theorem ofEndpoints_eq_ok_iff {policy : CollisionPolicy} {strategy : ArrayStrategy}
    {endpoints : List Endpoint} {t : TypeTable} :
    ofEndpoints policy strategy endpoints = .ok t ↔ Inferable strategy (namedSamples endpoints) ∧
      t = (empty policy).registerAll (inferAll strategy (namedSamples endpoints)) := by
  constructor
  · intro h
    obtain ⟨types, htypes, rfl⟩ := map_eq_ok h
    obtain ⟨hinferable, rfl⟩ := namedTypes_eq_ok_iff.mp htypes
    exact ⟨hinferable, rfl⟩
  · rintro ⟨hinferable, rfl⟩
    rw [ofEndpoints, namedTypes_eq_ok_iff.mpr ⟨hinferable, rfl⟩]
    rfl

/-- A table is made just when every type can be inferred. -/
theorem exists_ofEndpoints_iff {policy : CollisionPolicy} {strategy : ArrayStrategy}
    {endpoints : List Endpoint} : (∃ t, ofEndpoints policy strategy endpoints = .ok t) ↔
      Inferable strategy (namedSamples endpoints) := by
  constructor
  · rintro ⟨t, ht⟩
    exact (ofEndpoints_eq_ok_iff.mp ht).1
  · intro hinferable
    exact ⟨_, ofEndpoints_eq_ok_iff.mpr ⟨hinferable, rfl⟩⟩

/-- Every entry of a table of endpoints is the shape of a sample that they name. -/
theorem exists_of_mem_entries {policy : CollisionPolicy} {strategy : ArrayStrategy}
    {endpoints : List Endpoint} {t : TypeTable}
    (h : ofEndpoints policy strategy endpoints = .ok t) {e : String × Shape} (he : e ∈ t.entries) :
    ∃ v, (e.1, v) ∈ namedSamples endpoints ∧ e.2 = Shape.infer strategy 0 v := by
  rw [(ofEndpoints_eq_ok_iff.mp h).2] at he
  have hnew := (mem_entries_registerAll he).resolve_left List.not_mem_nil
  obtain ⟨⟨name, v⟩, hmem, rfl⟩ := List.mem_map.mp hnew
  exact ⟨v, hmem, rfl⟩

/-- More endpoints go on from the table of those before them. -/
theorem ofEndpoints_append {policy : CollisionPolicy} {strategy : ArrayStrategy}
    {endpoints more : List Endpoint} {t t' : TypeTable}
    (h : ofEndpoints policy strategy endpoints = .ok t)
    (h' : ofEndpoints policy strategy (endpoints ++ more) = .ok t') :
    t' = t.registerAll (inferAll strategy (namedSamples more)) := by
  rw [(ofEndpoints_eq_ok_iff.mp h').2, (ofEndpoints_eq_ok_iff.mp h).2, namedSamples_append,
    inferAll, List.map_append, registerAll_append]
  rfl

/-- **What the table of endpoints holds.**  There is one just when shapes can be inferred for all of
the samples that the endpoints name.  It has the names of these in the order of first occurrence,
each bound to its first shape or to its last one, as the policy says.  More endpoints leave the
names at their places, and where the first shape wins, they leave the entries. -/
theorem ofEndpoints_bindings (policy : CollisionPolicy) (strategy : ArrayStrategy)
    (endpoints : List Endpoint) :
    ((∃ t, ofEndpoints policy strategy endpoints = .ok t) ↔
        Inferable strategy (namedSamples endpoints)) ∧
      ∀ t, ofEndpoints policy strategy endpoints = .ok t →
        t.names = ((inferAll strategy (namedSamples endpoints)).map (·.1)).eraseDups ∧
        (∀ name, t.get? name =
          match policy with
          | .firstWins => (inferAll strategy (namedSamples endpoints)).lookup name
          | .lastWins => (inferAll strategy (namedSamples endpoints)).reverse.lookup name) ∧
        ∀ more t', ofEndpoints policy strategy (endpoints ++ more) = .ok t' →
          t.names <+: t'.names ∧ (policy = .firstWins → t.entries <+: t'.entries) := by
  have hnone : ∀ name, (empty policy).get? name = none := fun _ => rfl
  refine ⟨⟨?_, ?_⟩, ?_⟩
  · rintro ⟨t, ht⟩
    exact (ofEndpoints_eq_ok_iff.mp ht).1
  · intro hinferable
    exact ⟨_, ofEndpoints_eq_ok_iff.mpr ⟨hinferable, rfl⟩⟩
  · intro t ht
    have heq := (ofEndpoints_eq_ok_iff.mp ht).2
    refine ⟨?_, ?_, ?_⟩
    · rw [heq, names_registerAll, names_empty, foldl_insertNew_nil]
    · intro name
      rw [heq]
      cases policy with
      | firstWins => rw [get?_registerAll_firstWins rfl, hnone, Option.none_or]
      | lastWins => rw [get?_registerAll_lastWins rfl, hnone, Option.or_none]
    · intro more t' ht'
      rw [ofEndpoints_append ht ht']
      refine ⟨names_prefix_registerAll t _, ?_⟩
      rintro rfl
      exact entries_prefix_registerAll (by rw [heq, policy_registerAll]; rfl) _

/-- Two endpoints of one fragment, both with a typed body. -/
def sameFragment : List Endpoint :=
  [⟨"POST", "/a", .map [(.text "x", .scalar (.int 1))], .text "s", 200⟩,
    ⟨"PUT", "/api/a", .scalar (.int 2), .null, 200⟩]

/-- In the table of `sameFragment` the last shapes stand at the places of the first ones, and there
they stay when endpoints are added. -/
theorem ofEndpoints_bindings_sameFragment :
    ∃ t t', ofEndpoints .lastWins .union sameFragment = .ok t ∧
      ofEndpoints .lastWins .union (sameFragment ++ sameFragment) = .ok t' ∧
      t.names = ["ARequest", "AResponse"] ∧
      (t.get? "ARequest").any (Shape.same .number) = true ∧
      (t.get? "AResponse").any (Shape.same .null) = true ∧ t.names <+: t'.names := by
  have hinferable : Inferable .union (namedSamples (sameFragment ++ sameFragment)) := by
    unfold Inferable
    decide +kernel
  have hfirst : Inferable .union (namedSamples sameFragment) :=
    fun s hs => hinferable s (by simp [namedSamples_append, hs])
  obtain ⟨hexists, hbindings⟩ := ofEndpoints_bindings .lastWins .union sameFragment
  obtain ⟨t, ht⟩ := hexists.mpr hfirst
  obtain ⟨t', ht'⟩ := (ofEndpoints_bindings .lastWins .union _).1.mpr hinferable
  obtain ⟨hnames, hget, happend⟩ := hbindings t ht
  refine ⟨t, t', ht, ht', ?_, ?_, ?_, (happend _ t' ht').1⟩
  · rw [hnames]
    decide +kernel
  · rw [hget]
    decide +kernel
  · rw [hget]
    decide +kernel

end TypeTable

end MockScaffold
