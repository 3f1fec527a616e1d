import FafIceAdapter.Json.Sample
import FafIceAdapter.Relay.Steps

namespace Faf
open Json Transition

namespace Relay

/-- The check of the connectivity is pending. -/
def CheckerRuns (relay : Relay) : Prop := ∃ checker, relay.connectionChecker = some checker ∧ checker.Running

/-- The invariant of the runs. An offerer has a checker or a pending reinit, and an answerer has neither. -/
structure Recoverable (isOfferer : Bool) (relay : Relay) : Prop where
  role : relay.isOfferer = isOfferer
  closing : relay.closing = false
  timer : relay.reinitTimer.Stopped ∨ relay.reinitTimer.Armed
  connection : isOfferer → relay.peerConnection.isSome
  dataChannel : isOfferer → relay.dataChannel.isSome
  recovery : isOfferer → relay.connectionChecker.isSome ∨ relay.reinitTimer.Armed
  checking : relay.Checking
  checker : isOfferer = false → relay.connectionChecker = none
  stopped : isOfferer = false → relay.reinitTimer.Stopped
  scheduled : ∀ pending, .scheduled pending ∈ relay.effects → pending ≤ 1

section Steps

variable {isOfferer : Bool} {relay next : Relay}

theorem Recoverable.clear (recoverable : Recoverable isOfferer relay) :
    Recoverable isOfferer { relay with effects := [] } :=
  { recoverable with scheduled := fun _ member => absurd member List.not_mem_nil }

theorem Recoverable.reported (recoverable : Recoverable isOfferer relay) (reported : Reported relay next) :
    Recoverable isOfferer next := by
  have resting := reported.timer.resting recoverable.timer
  constructor
  · exact reported.isOfferer.trans recoverable.role
  · exact reported.closing.trans recoverable.closing
  · exact resting
  · intro offerer
    have present := recoverable.connection offerer
    rw [← Option.isSome_map, ← reported.connection, Option.isSome_map] at present
    exact present
  · intro offerer
    rw [reported.dataChannel]
    exact recoverable.dataChannel offerer
  · intro offerer
    rcases reported.checker with same | ⟨_, _, started⟩
    · rw [same]
      apply Or.imp_right reported.timer.armed
      exact recoverable.recovery offerer
    · right
      rcases resting with stopped | armed
      · rw [stopped.started] at started
        contradiction
      · exact armed
  · intro checker present
    rcases reported.checker with same | ⟨_, lost, _⟩
    · exact recoverable.checking checker (same ▸ present)
    · rw [lost] at present
      contradiction
  · intro answerer
    rw [reported.checker_answerer (recoverable.role.trans answerer)]
    exact recoverable.checker answerer
  · intro answerer
    have timer := reported.timer
    rw [recoverable.role, answerer] at timer
    rw [timer.answerer]
    exact recoverable.stopped answerer
  · intro pending member
    obtain ⟨reports, same, quiet⟩ := reported.effects
    rw [same] at member
    rcases List.mem_append.mp member with before | report
    · exact recoverable.scheduled pending before
    · exact Effect.isReport_scheduled (quiet _ report)

theorem Recoverable.kept (recoverable : Recoverable isOfferer relay) (kept : Kept relay next) :
    Recoverable isOfferer next := by
  constructor
  · exact kept.isOfferer.trans recoverable.role
  · exact kept.closing.trans recoverable.closing
  · rw [kept.reinitTimer]
    exact recoverable.timer
  · intro offerer
    have present := recoverable.connection offerer
    rw [← Option.isSome_map, ← kept.number, Option.isSome_map] at present
    exact present
  · intro offerer
    exact kept.dataChannel (recoverable.dataChannel offerer)
  · intro offerer
    rw [kept.checker, kept.reinitTimer]
    exact recoverable.recovery offerer
  · exact kept.checking recoverable.checking
  · intro answerer
    rw [← Option.not_isSome_iff_eq_none, kept.checker, recoverable.checker answerer]
    exact Bool.false_ne_true
  · intro answerer
    rw [kept.reinitTimer]
    exact recoverable.stopped answerer
  · intro pending member
    exact recoverable.scheduled pending (kept.scheduled pending member)

/-- A re-created peer connection restores everything but the timer. -/
theorem Recoverable.recreated (recreated : Recreated relay next) (role : relay.isOfferer = isOfferer)
    (timer : next.reinitTimer.Stopped ∨ next.reinitTimer.Armed)
    (stopped : isOfferer = false → next.reinitTimer.Stopped)
    (scheduled : ∀ pending, .scheduled pending ∈ relay.effects → pending ≤ 1) : Recoverable isOfferer next := by
  constructor
  · exact recreated.isOfferer.trans role
  · exact recreated.closing
  · exact timer
  · intro _
    rw [← Option.isSome_map, recreated.connection]
    rfl
  · intro offerer
    rw [recreated.dataChannel, role, if_pos offerer]
    rfl
  · intro offerer
    left
    rw [recreated.checker, role]
    exact offerer
  · exact recreated.checking
  · intro answerer
    rw [← Option.not_isSome_iff_eq_none, recreated.checker, role, answerer]
    exact Bool.false_ne_true
  · exact stopped
  · intro pending member
    obtain ⟨others, same, quiet⟩ := recreated.effects
    rw [same] at member
    rcases List.mem_append.mp member with before | other
    · exact scheduled pending before
    · rcases quiet _ other with report | created
      · exact Effect.isReport_scheduled report
      · contradiction

/-- The reinit timer is stopped again after its callback. -/
theorem Recoverable.reinit {timer : Timer Unit} {creation : Creation} (recoverable : Recoverable isOfferer relay)
    (delivered : relay.reinitTimer.deliver = some timer)
    (steps : { relay with reinitTimer := timer }.reinitFunction creation = some next) :
    Recoverable isOfferer { next with reinitTimer := next.reinitTimer.finish } := by
  have recreated := recreated_reinitFunction steps
  rcases recoverable.timer with stopped | armed
  · rw [stopped.deliver] at delivered
    contradiction
  · obtain ⟨started, finished⟩ := armed.deliver delivered
    have same : next.reinitTimer = timer := recreated.timer.started started
    rw [← same] at finished
    have restored : Recreated { relay with reinitTimer := next.reinitTimer.finish }
        { next with reinitTimer := next.reinitTimer.finish } := { recreated with timer := .inl rfl }
    apply Recoverable.recreated restored recoverable.role
    · exact .inl finished
    · intro _
      exact finished
    · exact recoverable.scheduled

/-- An answerer has no timer that could be kept. -/
theorem Recoverable.replaced {creation : Creation} (recoverable : Recoverable isOfferer relay)
    (answerer : relay.isOfferer = false) (steps : relay.reinitPeerconnection creation = some next) :
    Recoverable isOfferer next := by
  unfold reinitPeerconnection at steps
  rw [recoverable.closing] at steps
  have recreated := recreated_reinitFunction steps
  have timer := recreated.timer
  rw [answerer] at timer
  have stopped : next.reinitTimer.Stopped := by
    rw [timer.answerer]
    exact recoverable.stopped (recoverable.role.symm.trans answerer)
  apply Recoverable.recreated recreated recoverable.role
  · exact .inl stopped
  · intro _
    exact stopped
  · exact recoverable.scheduled

theorem Recoverable.handle {jsonCpp : JsonCpp} {webRtc : WebRtc} {event : Event}
    (recoverable : Recoverable isOfferer relay) (steps : relay.handle jsonCpp webRtc event = some next) :
    Recoverable isOfferer next := by
  cases @stepped_handle jsonCpp webRtc relay next event steps with
  | kept kept => exact recoverable.kept kept
  | reported _ reports => exact recoverable.reported (reported_setIceState reports)
  | lost present kept =>
      have offerer : relay.isOfferer := by
        by_contra answerer
        rw [Bool.not_eq_true, recoverable.role] at answerer
        rw [recoverable.checker answerer] at present
        contradiction
      exact (recoverable.reported (reported_delayReinit offerer 1)).kept kept
  | idle delivered stopped =>
      rcases recoverable.timer with rest | armed
      · rw [rest.deliver] at delivered
        contradiction
      · rw [(armed.deliver delivered).1] at stopped
        contradiction
  | reinit delivered _ reinits => exact recoverable.reinit delivered reinits
  | replaced _ answerer reinits kept => exact (recoverable.replaced answerer reinits).kept kept

theorem recoverable_create {creation : Creation} {start : Relay}
    (created : create isOfferer creation = some start) : Recoverable isOfferer start := by
  have empty : ∀ pending, .scheduled pending ∈ (initial isOfferer).effects → pending ≤ 1 := by
    intro pending member
    exact absurd member List.not_mem_nil
  cases isOfferer with
  | true =>
      have recreated := recreated_reinitFunction created
      apply Recoverable.recreated recreated rfl
      · exact recreated.timer.resting (.inl ⟨rfl, rfl⟩)
      · intro answerer
        contradiction
      · exact empty
  | false =>
      obtain rfl := Option.some.inj created
      constructor
      · rfl
      · rfl
      · exact .inl ⟨rfl, rfl⟩
      · intro offerer
        contradiction
      · intro offerer
        contradiction
      · intro offerer
        contradiction
      · intro checker present
        contradiction
      · intro _
        rfl
      · intro _
        exact ⟨rfl, rfl⟩
      · exact empty

end Steps

/-- The invariant holds in every state of a run. -/
theorem recoverable_reaches {jsonCpp : JsonCpp} {webRtc : WebRtc} {isOfferer : Bool} {creation : Creation}
    {allowed : Relay → Event → Prop} {start relay : Relay} {events : List Event}
    (created : create isOfferer creation = some start)
    (run : (machine jsonCpp webRtc start).Reaches allowed events relay) : Recoverable isOfferer relay := by
  apply run.invariant (Recoverable isOfferer)
  · exact recoverable_create created
  · intro state event next recoverable _ steps
    exact recoverable.clear.handle steps

/-- An offerer always has a checker that runs or a pending reinit, and an answerer never has one. -/
theorem recovers {jsonCpp : JsonCpp} {webRtc : WebRtc} {isOfferer : Bool} {creation : Creation}
    {start relay : Relay} {events : List Event} (created : create isOfferer creation = some start)
    (run : (machine jsonCpp webRtc start).Reaches (fun _ _ => True) events relay) :
    (isOfferer → relay.peerConnection.isSome ∧ relay.dataChannel.isSome ∧
        (relay.CheckerRuns ∨ relay.reinitTimer.started ∧ relay.reinitTimer.pending ≠ [])) ∧
      (isOfferer = false → relay.connectionChecker = none ∧ relay.reinitTimer.pending = []) ∧
      relay.reinitTimer.pending.length ≤ 1 ∧ ∀ pending, .scheduled pending ∈ relay.effects → pending ≤ 1 := by
  have recoverable := recoverable_reaches created run
  refine ⟨?_, ?_, ?_, recoverable.scheduled⟩
  · intro offerer
    refine ⟨recoverable.connection offerer, recoverable.dataChannel offerer, ?_⟩
    rcases recoverable.recovery offerer with present | armed
    · obtain ⟨checker, held⟩ := Option.isSome_iff_exists.mp present
      exact .inl ⟨checker, held, recoverable.checking checker held⟩
    · obtain ⟨delay, pending⟩ := armed.pending
      right
      rw [pending]
      exact ⟨armed.started, List.cons_ne_nil _ _⟩
  · intro answerer
    exact ⟨recoverable.checker answerer, (recoverable.stopped answerer).pending⟩
  · rcases recoverable.timer with stopped | armed
    · rw [stopped.pending]
      exact Nat.zero_le 1
    · obtain ⟨delay, pending⟩ := armed.pending
      rw [pending]
      exact Nat.le_refl 1

/-- An offerer after its constructor. -/
def offering : Relay := (create true .silent).getD (initial true)

def plainJsonCpp : JsonCpp := Sample.jsonCpp fun _ => (false, .nullValue)

def plainMachine (start : Relay) : Machine Relay Event := machine plainJsonCpp .accepting start

/-- The checker of a failed connection is gone, and the reinit is pending. -/
theorem recovers_failed :
    ∃ relay, create true .silent = some offering ∧
      (plainMachine offering).run [.local (.iceState .failed)] = some relay ∧ relay.connectionChecker = none ∧
      (true → relay.peerConnection.isSome ∧ relay.dataChannel.isSome ∧
        (relay.CheckerRuns ∨ relay.reinitTimer.started ∧ relay.reinitTimer.pending ≠ [])) ∧
      (true = false → relay.connectionChecker = none ∧ relay.reinitTimer.pending = []) ∧
      relay.reinitTimer.pending.length ≤ 1 ∧ ∀ pending, .scheduled pending ∈ relay.effects → pending ≤ 1 :=
  ⟨_, rfl, rfl, rfl, recovers (show create true .silent = some offering from rfl)
    (Machine.reaches_iff_run.mpr
      (show (plainMachine offering).run [.local (.iceState .failed)] = some _ from rfl))⟩

end Relay
end Faf
