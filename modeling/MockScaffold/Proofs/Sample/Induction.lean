import MockScaffold.Sample.Basic

/-!
# Induction on samples

A sample holds lists of samples, so its recursor speaks of four motives at once.  The principle here
speaks of one, with the induction hypothesis for every item and for the value of every entry.
-/

namespace MockScaffold

/-- Structural induction on samples. -/
@[elab_as_elim, induction_eliminator]
theorem Sample.memberInduction {motive : Sample → Prop}
    (scalar : ∀ s, motive (.scalar s))
    (list : ∀ items, (∀ v ∈ items, motive v) → motive (.list items))
    (map : ∀ entries, (∀ e ∈ entries, motive e.2) → motive (.map entries))
    (set : ∀ members, motive (.set members))
    (pair : ∀ first second, motive first → motive second → motive (.pair first second))
    (v : Sample) : motive v := by
  refine @Sample.rec motive (fun items => ∀ v ∈ items, motive v)
    (fun entries => ∀ e ∈ entries, motive e.2) (fun e => motive e.2)
    scalar list map set pair ?_ ?_ ?_ ?_ ?_ v
  · exact fun _ h => (List.not_mem_nil h).elim
  · exact fun _ _ hhead htail => List.forall_mem_cons.mpr ⟨hhead, htail⟩
  · exact fun _ h => (List.not_mem_nil h).elim
  · exact fun _ _ hhead htail => List.forall_mem_cons.mpr ⟨hhead, htail⟩
  · exact fun _ _ h => h

end MockScaffold
