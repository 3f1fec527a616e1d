import Mathlib.Tactic

namespace Transition

variable {S E : Type}

/-- A machine starts in one state and may refuse an event. -/
structure Machine (S E : Type) where
  initial : S
  step : S → E → Option S

namespace Machine

/-- The states after a run in which every event is allowed where it happens. -/
inductive Reaches (machine : Machine S E) (allowed : S → E → Prop) : List E → S → Prop
  | initial : Reaches machine allowed [] machine.initial
  | step {events : List E} {state next : S} {event : E} (run : Reaches machine allowed events state)
      (permits : allowed state event) (steps : machine.step state event = some next) :
      Reaches machine allowed (events ++ [event]) next

/-- The evaluation of a run that checks every event. -/
def runWhere (machine : Machine S E) (allowed : S → E → Prop) [∀ state event, Decidable (allowed state event)]
    (events : List E) : Option S :=
  events.foldlM (fun state event => if allowed state event then machine.step state event else none)
    machine.initial

def run (machine : Machine S E) (events : List E) : Option S := machine.runWhere (fun _ _ => True) events

variable {machine : Machine S E} {allowed : S → E → Prop}

/-- What holds at the start and survives each allowed step holds in every state of a run. -/
theorem Reaches.invariant (property : S → Prop) (start : property machine.initial)
    (preserved : ∀ {state event next}, property state → allowed state event →
      machine.step state event = some next → property next) {events : List E} {state : S}
    (run : machine.Reaches allowed events state) : property state := by
  induction run with
  | initial => exact start
  | step _ permits steps ih => exact preserved ih permits steps

/-- A run whose events have a property is one in which only such events are allowed. -/
theorem Reaches.restrict {property : E → Prop} {events : List E} {state : S}
    (run : machine.Reaches allowed events state) (each : ∀ event ∈ events, property event) :
    machine.Reaches (fun state event => allowed state event ∧ property event) events state := by
  induction run with
  | initial => exact .initial
  | step _ permits steps ih =>
      obtain ⟨earlier, last⟩ := List.forall_mem_append.mp each
      exact .step (ih earlier) ⟨permits, last _ (List.mem_singleton_self _)⟩ steps

section Evaluation

variable [∀ state event, Decidable (allowed state event)]

theorem runWhere_concat (events : List E) (event : E) :
    machine.runWhere allowed (events ++ [event]) = (machine.runWhere allowed events).bind fun state =>
      if allowed state event then machine.step state event else none := by
  simp only [runWhere, List.foldlM_append, List.foldlM_cons, List.foldlM_nil, bind_pure]
  rfl

/-- A run is an evaluation that succeeds. -/
theorem reaches_iff_runWhere {events : List E} {state : S} :
    machine.Reaches allowed events state ↔ machine.runWhere allowed events = some state := by
  constructor
  · intro run
    induction run with
    | initial => rfl
    | step _ permits steps ih => rw [runWhere_concat, ih, Option.bind_some, if_pos permits, steps]
  · intro evaluated
    induction events using List.reverseRecOn generalizing state with
    | nil =>
        obtain rfl := Option.some.inj evaluated
        exact .initial
    | append_singleton events event ih =>
        rw [runWhere_concat] at evaluated
        obtain ⟨middle, before, steps⟩ := Option.bind_eq_some_iff.mp evaluated
        split at steps
        · rename_i permits
          exact .step (ih before) permits steps
        · contradiction

end Evaluation

theorem reaches_iff_run {events : List E} {state : S} :
    machine.Reaches (fun _ _ => True) events state ↔ machine.run events = some state :=
  reaches_iff_runWhere

end Machine
end Transition
