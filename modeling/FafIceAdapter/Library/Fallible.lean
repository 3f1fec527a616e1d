import Mathlib.Tactic

namespace Fallible

variable {E A B : Type}

/-- A sequence of two fallible steps succeeds exactly when both do. -/
theorem bind_ok {first : Except E A} {next : A → Except E B} {result : B} :
    (first >>= next) = .ok result ↔ ∃ middle, first = .ok middle ∧ next middle = .ok result := by
  cases first <;> simp [bind, Except.bind]

/-- A step that succeeds on a domain succeeds on lists over that domain. -/
theorem mapM_ok {step : A → Except E B} {domain : A → Prop} {value : A → B}
    (one : ∀ element result, step element = .ok result ↔ domain element ∧ result = value element)
    (elements : List A) (results : List B) :
    elements.mapM step = .ok results ↔
      (∀ element ∈ elements, domain element) ∧ results = elements.map value := by
  induction elements generalizing results with
  | nil => simp [pure, Except.pure, eq_comm]
  | cons head tail ih =>
      simp only [List.mapM_cons, bind_ok, one, ih, List.forall_mem_cons, List.map_cons]
      constructor
      · intro succeeds
        obtain ⟨_, ⟨inside, rfl⟩, _, ⟨others, rfl⟩, same⟩ := succeeds
        exact ⟨⟨inside, others⟩, (Except.ok.inj same).symm⟩
      · intro valid
        obtain ⟨⟨inside, others⟩, rfl⟩ := valid
        exact ⟨_, ⟨inside, rfl⟩, _, ⟨others, rfl⟩, rfl⟩

/-- A list of fallible steps succeeds with the results of its steps. -/
theorem mapM_ok_iff {step : A → Except E B} {elements : List A} {results : List B} :
    elements.mapM step = .ok results ↔ elements.map step = results.map .ok := by
  induction elements generalizing results with
  | nil => cases results <;> simp [pure, Except.pure]
  | cons head tail ih =>
      simp only [List.mapM_cons, bind_ok, ih, List.map_cons]
      constructor
      · rintro ⟨first, here, others, later, same⟩
        obtain rfl := Except.ok.inj same
        rw [here, later, List.map_cons]
      · intro mapped
        cases results with
        | nil => contradiction
        | cons first others =>
            obtain ⟨here, later⟩ := List.cons.inj mapped
            exact ⟨first, here, others, later, rfl⟩

/-- A step that succeeds on every element gives a list of results. -/
theorem mapM_total {step : A → Except E B} {elements : List A}
    (succeeds : ∀ element ∈ elements, ∃ result, step element = .ok result) :
    ∃ results : List B, elements.map step = results.map .ok := by
  induction elements with
  | nil => exact ⟨[], rfl⟩
  | cons head tail ih =>
      obtain ⟨⟨first, here⟩, others⟩ := List.forall_mem_cons.mp succeeds
      obtain ⟨results, later⟩ := ih others
      exact ⟨first :: results, List.cons_eq_cons.mpr ⟨here, later⟩⟩

end Fallible
