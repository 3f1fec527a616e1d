import Mathlib.Tactic

namespace WorkQueue

variable {T S : Type}

/-- The loop takes tasks from the head until one of them cannot be executed yet. -/
def drain (execute : T → S → Option S) : List T → S → List T × S
  | [], state => ([], state)
  | task :: rest, state =>
      match execute task state with
      | none => (task :: rest, state)
      | some next => drain execute rest next

variable {execute : T → S → Option S}

/-- What every executed task preserves holds of the remaining queue and the final state. -/
theorem drain_invariant {property : List T → S → Prop}
    (preserved : ∀ {task rest state next}, property (task :: rest) state → execute task state = some next →
      property rest next) {queue : List T} {state : S} (start : property queue state) :
    property (drain execute queue state).1 (drain execute queue state).2 := by
  induction queue generalizing state with
  | nil => exact start
  | cons task rest ih =>
      rw [drain]
      split
      · exact start
      · rename_i next executed
        exact ih (preserved start executed)

/-- The loop stops at the end of the queue or at a task that it cannot execute. -/
theorem drain_blocked (queue : List T) (state : S) :
    (drain execute queue state).1 = [] ∨
      ∃ task rest, (drain execute queue state).1 = task :: rest ∧
        execute task (drain execute queue state).2 = none := by
  induction queue generalizing state with
  | nil => exact .inl rfl
  | cons task rest ih =>
      rw [drain]
      split
      · rename_i blocked
        exact .inr ⟨task, rest, rfl, blocked⟩
      · exact ih _

end WorkQueue
