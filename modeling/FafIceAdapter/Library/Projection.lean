import FafIceAdapter.Library.Transition

namespace Transition.Machine

variable {S T E F : Type}

/-- A simulation of a machine by a part of it, which sees some of the events. -/
structure Projects (machine : Machine S E) (part : Machine T F) (allowed : S → E → Prop) (sees : E → Option F)
    (related : S → T → Prop) : Prop where
  start : related machine.initial part.initial
  seen : ∀ {state view event own next}, related state view → sees event = some own → allowed state event →
    machine.step state event = some next → ∃ view', part.step view own = some view' ∧ related next view'
  unseen : ∀ {state view event next}, related state view → sees event = none → allowed state event →
    machine.step state event = some next → related next view

/-- A run of the machine is a run of the part on the events that it sees. -/
theorem Projects.reaches {machine : Machine S E} {part : Machine T F} {allowed : S → E → Prop}
    {sees : E → Option F} {related : S → T → Prop} (projects : Projects machine part allowed sees related)
    {events : List E} {state : S} (run : machine.Reaches allowed events state) :
    ∃ view, part.Reaches (fun _ _ => True) (events.filterMap sees) view ∧ related state view := by
  induction run with
  | initial => exact ⟨part.initial, .initial, projects.start⟩
  | @step events state next event _ permits steps ih =>
      obtain ⟨view, before, holds⟩ := ih
      rw [List.filterMap_append]
      cases seen : sees event with
      | none =>
          rw [List.filterMap_cons_none seen, List.filterMap_nil, List.append_nil]
          exact ⟨view, before, projects.unseen holds seen permits steps⟩
      | some own =>
          obtain ⟨view', moves, holds'⟩ := projects.seen holds seen permits steps
          rw [List.filterMap_cons_some seen, List.filterMap_nil]
          exact ⟨view', .step before trivial moves, holds'⟩

end Transition.Machine
