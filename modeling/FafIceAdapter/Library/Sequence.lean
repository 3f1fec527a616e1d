import Mathlib.Tactic

namespace Sequence

/-- A prefix of a concatenation ends inside the first part or extends it. -/
theorem prefix_append_cases {A : Type} {part first second : List A} (within : part <+: first ++ second) :
    (part <+: first ∧ part ≠ first) ∨ ∃ tail, part = first ++ tail ∧ tail <+: second := by
  have inFirst : first <+: first ++ second := List.prefix_append first second
  by_cases short : part.length < first.length
  · left
    refine ⟨List.prefix_of_prefix_length_le within inFirst (Nat.le_of_lt short), ?_⟩
    intro same
    subst same
    exact lt_irrefl _ short
  · right
    obtain ⟨tail, rfl⟩ := List.prefix_of_prefix_length_le inFirst within (Nat.le_of_not_lt short)
    exact ⟨tail, rfl, (List.prefix_append_right_inj first).mp within⟩

/-- Each element of the second list is related to one of the first. -/
theorem forall₂_mem_right {A B : Type} {related : A → B → Prop} {first : List A} {second : List B}
    (all : List.Forall₂ related first second) {value : B} (member : value ∈ second) :
    ∃ other ∈ first, related other value := by
  induction all with
  | nil => contradiction
  | cons one _ ih =>
      rcases List.mem_cons.mp member with rfl | later
      · exact ⟨_, List.mem_cons_self, one⟩
      · obtain ⟨other, inside, relates⟩ := ih later
        exact ⟨other, List.mem_cons_of_mem _ inside, relates⟩

/-- A loop over the kept elements is a loop that skips the others. -/
theorem flatMap_filter {A B : Type} (keeps : A → Bool) (visit : A → List B) (elements : List A) :
    (elements.filter keeps).flatMap visit =
      elements.flatMap fun element => if keeps element then visit element else [] := by
  induction elements with
  | nil => rfl
  | cons element rest ih =>
      rw [List.flatMap_cons]
      by_cases kept : keeps element
      · rw [List.filter_cons_of_pos kept, List.flatMap_cons, ih, if_pos kept]
      · rw [List.filter_cons_of_neg kept, ih, if_neg kept, List.nil_append]

section Folding

variable {S T A : Type} {act : S → A → Option S} {elements : List A} {state final : S}

/-- What each pass of a loop preserves holds at its end. -/
theorem foldlM_invariant (property : S → Prop)
    (preserved : ∀ {state element next}, property state → act state element = some next → property next)
    (start : property state) (runs : elements.foldlM act state = some final) : property final := by
  induction elements generalizing state with
  | nil =>
      obtain rfl := Option.some.inj runs
      exact start
  | cons element rest ih =>
      obtain ⟨middle, passes, others⟩ := Option.bind_eq_some_iff.mp runs
      exact ih (preserved start passes) others

/-- A loop is seen as a loop when each of its passes is seen as one. -/
theorem foldlM_project {view : T → A → Option T} (sees : S → T)
    (seen : ∀ {state element next}, act state element = some next → view (sees state) element = some (sees next))
    (runs : elements.foldlM act state = some final) : elements.foldlM view (sees state) = some (sees final) := by
  induction elements generalizing state with
  | nil =>
      obtain rfl := Option.some.inj runs
      rfl
  | cons element rest ih =>
      obtain ⟨middle, passes, others⟩ := Option.bind_eq_some_iff.mp runs
      rw [List.foldlM_cons, seen passes]
      exact ih others

end Folding

end Sequence
