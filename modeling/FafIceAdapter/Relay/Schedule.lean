import FafIceAdapter.Library.Transition
import FafIceAdapter.Relay.Timer

namespace Faf.Timer
open Transition

variable {Callback : Type}

/-- The calls that arm or disarm a timer. -/
inductive Call (Callback : Type) where
  | start (intervalMs : Nat) (callback : Callback)
  | singleShot (delay : Nat) (callback : Callback)
  | stop

def Call.isStop : Call Callback → Bool
  | stop => true
  | _ => false

/-- Whether the armed timer calls back only once. -/
def Call.once? : Call Callback → Option Bool
  | start _ _ => some false
  | singleShot _ _ => some true
  | stop => none

def call (timer : Timer Callback) : Call Callback → Timer Callback
  | .start intervalMs callback => timer.start intervalMs callback
  | .singleShot delay callback => timer.singleShot delay callback
  | .stop => timer.stop

/-- The callback may make calls on its own timer before `OnMessage` goes on. -/
def onMessage (calls : List (Call Callback)) (timer : Timer Callback) : Timer Callback :=
  if timer.started then (calls.foldl call timer).finish else timer

/-- A call from outside, or the delivery of a message with the calls that its callback makes. -/
inductive Event (Callback : Type) where
  | call (call : Call Callback)
  | message (calls : List (Call Callback))

/-- A timer, the last call that was made on it, and whether its callback was run since. -/
structure Usage (Callback : Type) where
  timer : Timer Callback
  last : Option (Call Callback)
  fired : Bool

namespace Usage

def step (usage : Usage Callback) : Event Callback → Option (Usage Callback)
  | .call call => some ⟨usage.timer.call call, some call, false⟩
  | .message calls => do
      let timer ← usage.timer.deliver
      if timer.started then
        match calls.getLast? with
        | some call => return ⟨timer.onMessage calls, some call, false⟩
        | none => return ⟨timer.onMessage calls, usage.last, true⟩
      else return { usage with timer := timer.onMessage calls }

def machine : Machine (Usage Callback) (Event Callback) where
  initial := ⟨.initial, none, false⟩
  step := step

/-- The callback of the timer that the calls ask for. -/
def wanted (usage : Usage Callback) : Option Callback :=
  match usage.last with
  | some (.start _ callback) => some callback
  | some (.singleShot _ callback) => if usage.fired then none else some callback
  | some .stop | none => none

/-- A wanted callback is stored with one pending message. Otherwise no pending message can run a callback. -/
def Scheduled (usage : Usage Callback) : Prop :=
  match usage.wanted with
  | some callback => usage.timer.pending.length = 1 ∧ usage.timer.callback = some callback
  | none => ∀ timer, usage.timer.deliver = some timer → timer.started = false

/-- A callback that makes calls on its own timer stops it with the last one. -/
def Allowed (usage : Usage Callback) : Event Callback → Prop
  | .call _ => True
  | .message calls => usage.timer.started → ∀ call ∈ calls.getLast?, call.isStop

/-- The timer stores exactly the wanted callback, and its flag is that of the last call. -/
structure Armed (usage : Usage Callback) : Prop where
  stored : usage.timer.callback = usage.wanted
  pending : usage.timer.started → usage.timer.pending.length = 1
  once : ∀ call once, usage.last = some call → call.once? = some once → usage.timer.isSingleShot = once

theorem Armed.scheduled {usage : Usage Callback} (armed : Armed usage) : Scheduled usage := by
  have stored := armed.stored
  unfold Scheduled
  split
  · rename_i callback same
    rw [same] at stored
    refine ⟨armed.pending ?_, stored⟩
    rw [started, stored]
    rfl
  · rename_i same
    intro timer delivered
    rw [same] at stored
    unfold deliver at delivered
    split at delivered
    · contradiction
    · obtain rfl := Option.some.inj delivered
      rw [started, stored]
      rfl

theorem armed_call (timer : Timer Callback) (call : Call Callback) : Armed ⟨timer.call call, some call, false⟩ where
  stored := by
    cases call <;> rfl
  pending started := by
    cases call with
    | start => rfl
    | singleShot => rfl
    | stop => contradiction
  once other once last same := by
    obtain rfl := Option.some.inj last
    cases call with
    | start => exact Option.some.inj same
    | singleShot => exact Option.some.inj same
    | stop => contradiction

/-- The delivery of a message only takes it from the thread. -/
theorem deliver_some {timer delivered : Timer Callback} (taken : timer.deliver = some delivered) :
    delivered = { timer with pending := timer.pending.tail } := by
  unfold deliver at taken
  split at taken
  · contradiction
  · rename_i first rest same
    obtain rfl := Option.some.inj taken
    rw [same]
    rfl

/-- A callback whose last call stops its timer leaves no callback behind. -/
theorem onMessage_stopped {timer : Timer Callback} {calls : List (Call Callback)} {last : Call Callback}
    (started : timer.started) (ends : calls.getLast? = some last) (stops : last.isStop) :
    (timer.onMessage calls).callback = none := by
  obtain ⟨earlier, rfl⟩ := List.getLast?_eq_some_iff.mp ends
  rw [onMessage, if_pos started, List.foldl_append, List.foldl_cons, List.foldl_nil]
  cases last with
  | start => contradiction
  | singleShot => contradiction
  | stop =>
      unfold finish
      split <;> rfl

/-- A periodic timer posts its message again. -/
theorem finish_periodic {timer : Timer Callback} (periodic : timer.isSingleShot = false) :
    timer.finish = { timer with pending := timer.pending ++ [timer.interval] } := by
  rw [finish, periodic]
  rfl

theorem finish_once {timer : Timer Callback} (once : timer.isSingleShot) :
    timer.finish = { timer with callback := none } := if_pos once

/-- A callback that stops its own timer last leaves nothing armed. -/
theorem armed_stopped {timer : Timer Callback} {calls : List (Call Callback)} (started : timer.started)
    (ends : calls.getLast? = some .stop) : Armed ⟨timer.onMessage calls, some .stop, false⟩ := by
  have empty : (timer.onMessage calls).callback = none := onMessage_stopped started ends rfl
  constructor
  · exact empty
  · intro again
    rw [Timer.started, empty] at again
    contradiction
  · intro call once last mode
    obtain rfl := Option.some.inj last
    contradiction

/-- A callback without calls on its own timer leaves the timer to `OnMessage`. -/
theorem Armed.finished {usage : Usage Callback} {timer : Timer Callback} (armed : Armed usage)
    (delivered : usage.timer.deliver = some timer) (started : timer.started) :
    Armed ⟨timer.finish, usage.last, true⟩ := by
  have same := deliver_some delivered
  have stored : timer.callback = usage.wanted := same ▸ armed.stored
  have once (call : Call Callback) (once : Bool) (last : usage.last = some call)
      (mode : call.once? = some once) : timer.isSingleShot = once := same ▸ armed.once call once last mode
  have pending : timer.pending = [] := by
    have one := armed.pending (show usage.timer.started by rwa [same] at started)
    rw [same, ← List.length_eq_zero_iff, List.length_tail]
    omega
  have unarmed (none : usage.wanted = none) : False := by
    rw [Timer.started, stored, none] at started
    contradiction
  cases last : usage.last with
  | none => exact (unarmed (by rw [wanted, last])).elim
  | some call =>
      cases call with
      | start intervalMs callback =>
          rw [wanted, last] at stored
          rw [finish_periodic (once _ false last rfl), pending]
          exact ⟨stored, fun _ => rfl, fun other mode held => once other mode (last.trans held)⟩
      | singleShot delay callback =>
          rw [finish_once (once _ true last rfl)]
          refine ⟨rfl, fun again => ?_, fun other mode held => once other mode (last.trans held)⟩
          contradiction
      | stop => exact (unarmed (by rw [wanted, last])).elim

theorem Armed.message {usage next : Usage Callback} {calls : List (Call Callback)} (armed : Armed usage)
    (permits : Allowed usage (.message calls)) (steps : usage.step (.message calls) = some next) : Armed next := by
  obtain ⟨timer, delivered, steps⟩ := Option.bind_eq_some_iff.mp steps
  have same := deliver_some delivered
  split at steps
  · rename_i started
    split at steps
    · rename_i last ends
      obtain rfl := Option.some.inj steps
      have stops := permits (show usage.timer.started by rwa [same] at started) last ends
      cases last with
      | start => contradiction
      | singleShot => contradiction
      | stop => exact armed_stopped started ends
    · rename_i none
      obtain rfl := List.getLast?_eq_none_iff.mp none
      obtain rfl := Option.some.inj steps
      rw [onMessage, if_pos started, List.foldl_nil]
      exact armed.finished delivered started
  · rename_i stopped
    obtain rfl := Option.some.inj steps
    rw [onMessage, if_neg stopped, same]
    constructor
    · exact armed.stored
    · intro started
      rw [same] at stopped
      exact absurd started stopped
    · exact armed.once

/-- A callback that leaves its own timer armed breaks the schedule. -/
theorem unscheduled_message {usage next : Usage Callback} {calls : List (Call Callback)} {last : Call Callback}
    (started : usage.timer.started) (ends : calls.getLast? = some last) (arms : last.isStop = false)
    (steps : usage.step (.message calls) = some next) : ¬ Scheduled next := by
  obtain ⟨timer, delivered, steps⟩ := Option.bind_eq_some_iff.mp steps
  have again : timer.started := by
    rwa [deliver_some delivered]
  rw [if_pos again, ends] at steps
  obtain rfl := Option.some.inj steps
  obtain ⟨earlier, rfl⟩ := List.getLast?_eq_some_iff.mp ends
  rw [onMessage, if_pos again, List.foldl_append, List.foldl_cons, List.foldl_nil]
  intro scheduled
  cases last with
  | start => exact absurd scheduled.1 (by simp [call, Timer.start, finish])
  | singleShot => exact absurd scheduled.2 (by simp [call, Timer.singleShot, finish])
  | stop => contradiction

theorem Armed.step {usage next : Usage Callback} {event : Event Callback} (armed : Armed usage)
    (permits : Allowed usage event) (steps : usage.step event = some next) : Armed next := by
  cases event with
  | call call =>
      obtain rfl := Option.some.inj steps
      exact armed_call usage.timer call
  | message calls => exact armed.message permits steps

/-- In every run in which no callback leaves its own timer armed, the timer keeps exactly the schedule of the
last call. -/
theorem schedule_kept (events : List (Event Callback)) (usage : Usage Callback)
    (run : machine.Reaches Allowed events usage) : Scheduled usage := by
  apply Armed.scheduled
  apply run.invariant Armed
  · refine ⟨rfl, fun started => ?_, fun call once last => ?_⟩
    · contradiction
    · contradiction
  · intro usage event next armed permits steps
    exact armed.step permits steps

instance (usage : Usage Callback) (event : Event Callback) : Decidable (Allowed usage event) :=
  match event with
  | .call _ => instDecidableTrue
  | .message calls =>
      inferInstanceAs (Decidable (usage.timer.started → ∀ call ∈ calls.getLast?, call.isStop))

/-- A periodic timer stops itself, and a single shot follows. -/
def stopsItself : List (Event Nat) :=
  [.call (.start 500 0), .message [], .message [.start 5 1, .stop], .call (.singleShot 100 2), .message []]

theorem schedule_kept_stopsItself :
    ∃ usage, machine.runWhere Allowed stopsItself = some usage ∧ Scheduled usage :=
  ⟨_, rfl, schedule_kept stopsItself _
    (Machine.reaches_iff_runWhere.mpr (show machine.runWhere Allowed stopsItself = some _ from rfl))⟩

/-- A callback that starts its own timer again leaves two messages of it pending. -/
theorem schedule_doubled : ¬ ∀ (events : List (Event Nat)) (usage : Usage Nat),
    machine.Reaches (fun _ _ => True) events usage → Scheduled usage := by
  intro claim
  have run : machine.run [.call (.start 500 0), .message [.start 500 1]] =
      some (⟨⟨500, some 1, false, [500, 500]⟩, some (.start 500 1), false⟩ : Usage Nat) := rfl
  obtain ⟨one, _⟩ := claim _ _ (Machine.reaches_iff_run.mpr run)
  contradiction

end Usage
end Faf.Timer
