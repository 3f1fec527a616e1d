import FafIceAdapter.Relay.Steps

namespace Faf.PeerConnectivityChecker
open Transition

/-- The message of one of the timers. The flag tells whether the lost callback is invoked. -/
def onTimer (task : CheckerTask) (now : Int) (checker : PeerConnectivityChecker) :
    Option (Bool × PeerConnectivityChecker) := do
  let timer ← (checker.timer task).deliver
  let checker := checker.setTimer task timer
  if !timer.started then return (false, checker)
  else
    let (lost, checker) :=
      match task with
      | .startPing => (false, checker.startPing)
      | .sendPing => (false, checker.sendPing now)
      | .checkConnectivity => (checker.checkConnectivity now, checker)
    return (lost, checker.setTimer task (checker.timer task).finish)

/-- A relay runs its checker in this way. -/
theorem onCheckerTimer_eq_onTimer (task : CheckerTask) (now : Int) (relay : Relay) :
    (relay.onCheckerTimer task now).map Relay.connectionChecker =
      (relay.connectionChecker.bind fun checker => checker.onTimer task now).map fun called => some called.2 := by
  unfold Relay.onCheckerTimer onTimer
  cases present : relay.connectionChecker with
  | none => rfl
  | some checker =>
      simp only [Option.bind_eq_bind, Option.bind_some]
      cases (checker.timer task).deliver with
      | none => rfl
      | some timer =>
          simp only [Option.bind_some]
          cases timer.started with
          | false => simp [Relay.updateChecker, present]
          | true =>
              cases task with
              | startPing => simp [Relay.updateChecker, present]
              | sendPing => simp [Relay.updateChecker, Relay.emit, present]
              | checkConnectivity =>
                  cases checker.checkConnectivity now with
                  | false => simp [Relay.updateChecker, present]
                  | true => simp [Relay.updateChecker, Relay.delayReinit_connectionChecker, present]

/-- The peer sends a message, or a timer calls back, at a time of the steady clock. -/
inductive Event where
  | message (data : Bytes) (now : Int)
  | timer (task : CheckerTask) (now : Int)

def Event.now : Event → Int
  | message _ now | timer _ now => now

/-- A checker, the last reading of its clock, and the times of its lost callbacks. -/
structure Watch where
  checker : PeerConnectivityChecker
  clock : Int
  lost : List Int

/-- The clock never goes back. -/
def Watch.step (watch : Watch) (event : Event) : Option Watch :=
  if event.now < watch.clock then none
  else
    match event with
    | .message data now =>
        some { watch with checker := (watch.checker.handleMessageFromPeer data now).2, clock := now }
    | .timer task now =>
        (watch.checker.onTimer task now).map fun called =>
          ⟨called.2, now, if called.1 then watch.lost ++ [now] else watch.lost⟩

/-- The runs of a checker that is constructed at a time. -/
def machine (dataChannel : Nat) (start : Int) : Machine Watch Event where
  initial := ⟨create dataChannel start, start, []⟩
  step := Watch.step

/-- The time at which an event brings a pong, or any other message. -/
def Event.received? (pong : Bool) : Event → Option Int
  | message data now => if decide (data = PongMessage) = pong then some now else none
  | timer _ _ => none

/-- The time of the last pong, or of the last other message. -/
def lastReceived (pong : Bool) (events : List Event) : Option Int :=
  (events.filterMap (Event.received? pong)).getLast?

theorem lastReceived_concat (pong : Bool) (events : List Event) (event : Event) :
    lastReceived pong (events ++ [event]) = (event.received? pong).or (lastReceived pong events) := by
  rw [lastReceived, List.filterMap_append, List.getLast?_append]
  cases time : event.received? pong with
  | none => simp [time, lastReceived]
  | some now => simp [time]

/-- The times that the connectivity check reads. -/
def times (checker : PeerConnectivityChecker) : Int × Option Int × Option Int :=
  (checker.timerStartTime, checker.lastReceivedPongTime, checker.lastReceivedDataTime)

theorem times_setTimer (task : CheckerTask) (timer : Timer CheckerTask) (checker : PeerConnectivityChecker) :
    (checker.setTimer task timer).times = checker.times := by
  cases task <;> rfl

theorem checkConnectivity_setTimer (task : CheckerTask) (timer : Timer CheckerTask) (now : Int)
    (checker : PeerConnectivityChecker) :
    (checker.setTimer task timer).checkConnectivity now = checker.checkConnectivity now := by
  cases task <;> rfl

section Timers

variable {task : CheckerTask} {now : Int} {checker next : PeerConnectivityChecker} {lost : Bool}

/-- A timer changes no time that the check reads, and the check goes on. -/
theorem onTimer_keeps (called : checker.onTimer task now = some (lost, next)) :
    next.times = checker.times ∧ (checker.Running → next.Running) := by
  obtain ⟨timer, delivered, afterTimer⟩ := Option.bind_eq_some_iff.mp called
  simp only at afterTimer
  split at afterTimer
  · rename_i stopped
    obtain ⟨_, rfl⟩ := Prod.mk.inj (Option.some.inj afterTimer)
    constructor
    · exact times_setTimer task timer checker
    · intro running
      cases task with
      | startPing => exact running
      | sendPing => exact running
      | checkConnectivity =>
          rw [started_deliver running delivered] at stopped
          contradiction
  · obtain ⟨_, rfl⟩ := Prod.mk.inj (Option.some.inj afterTimer)
    cases task with
    | startPing => exact ⟨rfl, id⟩
    | sendPing => exact ⟨rfl, id⟩
    | checkConnectivity => exact ⟨rfl, fun running => finish_deliver running delivered⟩

/-- The connectivity check of a running checker decides whether the callback is invoked. -/
theorem onTimer_check (running : checker.Running)
    (called : checker.onTimer .checkConnectivity now = some (lost, next)) :
    lost = checker.checkConnectivity now := by
  obtain ⟨timer, delivered, afterTimer⟩ := Option.bind_eq_some_iff.mp called
  have started := started_deliver running delivered
  simp only [started, Bool.not_true, Bool.false_eq_true, if_false] at afterTimer
  obtain ⟨rfl, _⟩ := Prod.mk.inj (Option.some.inj afterTimer)
  exact checkConnectivity_setTimer .checkConnectivity timer now checker

end Timers

/-- The checker knows when it was constructed and when each kind of message came last. -/
structure Tracks (start : Int) (events : List Event) (watch : Watch) : Prop where
  times : watch.checker.times = (start, lastReceived true events, lastReceived false events)
  later : ∀ pong time, lastReceived pong events = some time → start ≤ time
  clock : start ≤ watch.clock
  running : watch.checker.Running

theorem tracks_step {start : Int} {events : List Event} {watch next : Watch} {event : Event}
    (tracks : Tracks start events watch) (steps : watch.step event = some next) :
    Tracks start (events ++ [event]) next := by
  obtain ⟨onward, steps⟩ := Option.ite_none_left_eq_some.mp steps
  have reading : start ≤ event.now := by
    have clock := tracks.clock
    omega
  have later (pong : Bool) (time : Int) (last : lastReceived pong (events ++ [event]) = some time) :
      start ≤ time := by
    rw [lastReceived_concat] at last
    rcases Option.or_eq_some_iff.mp last with here | ⟨_, before⟩
    · cases event with
      | timer => contradiction
      | message data now =>
          obtain ⟨_, same⟩ := Option.ite_none_right_eq_some.mp here
          obtain rfl := Option.some.inj same
          exact reading
    · exact tracks.later pong time before
  cases event with
  | message data now =>
      obtain rfl := Option.some.inj steps
      refine ⟨?_, later, reading, running_handleMessageFromPeer data now tracks.running⟩
      have before := tracks.times
      simp only [PeerConnectivityChecker.times, Prod.mk.injEq] at before
      obtain ⟨started, pong, other⟩ := before
      rw [lastReceived_concat, lastReceived_concat]
      by_cases isPong : data = PongMessage
      · simp [handleMessageFromPeer, PeerConnectivityChecker.times, Event.received?, isPong, started, other]
      · simp [handleMessageFromPeer, PeerConnectivityChecker.times, Event.received?, isPong, started, pong]
  | timer task now =>
      obtain ⟨⟨lost, checker⟩, called, rfl⟩ := Option.map_eq_some_iff.mp steps
      obtain ⟨same, runs⟩ := onTimer_keeps called
      refine ⟨?_, later, reading, runs tracks.running⟩
      rw [lastReceived_concat, lastReceived_concat]
      exact same.trans tracks.times

theorem tracks_run {dataChannel : Nat} {start : Int} {events : List Event} {watch : Watch}
    (run : (machine dataChannel start).Reaches (fun _ _ => True) events watch) : Tracks start events watch := by
  induction run with
  | initial =>
      refine ⟨rfl, ?_, le_rfl, rfl⟩
      intro pong time last
      contradiction
  | step _ _ steps ih => exact tracks_step ih steps

/-- Nothing was heard for the time that a connection is assumed to be alive. -/
def Silent (start now : Int) (events : List Event) : Prop :=
  start ≤ now - milliseconds connectionTimeoutMs ∧
    ∀ pong time, lastReceived pong events = some time → time ≤ now - milliseconds connectionTimeoutMs

/-- The three conditions of the check amount to the latest activity. -/
theorem checkConnectivity_iff {start now : Int} {events : List Event} {watch : Watch}
    (tracks : Tracks start events watch) :
    watch.checker.checkConnectivity now = true ↔ Silent start now events := by
  have known := tracks.times
  simp only [times, Prod.mk.injEq] at known
  obtain ⟨started, pong, other⟩ := known
  rw [checkConnectivity, started, pong, other, Silent, Bool.forall_bool]
  have pongLater := tracks.later true
  have otherLater := tracks.later false
  generalize lastReceived true events = lastPong at pongLater ⊢
  generalize lastReceived false events = lastOther at otherLater ⊢
  generalize now - milliseconds connectionTimeoutMs = limit
  cases lastPong with
  | none =>
      cases lastOther with
      | none => simp
      | some other =>
          have afterOther := otherLater other rfl
          simp
          omega
  | some pong =>
      have afterPong := pongLater pong rfl
      cases lastOther with
      | none =>
          simp
          omega
      | some other =>
          have afterOther := otherLater other rfl
          simp
          omega

/-- In every run, a check invokes the lost callback exactly when the construction, the last pong and the last
other message all lie at least ten seconds back. -/
theorem lost_iff (dataChannel : Nat) (start : Int) (events : List Event) (watch : Watch)
    (run : (machine dataChannel start).Reaches (fun _ _ => True) events watch) (now : Int) (next : Watch)
    (steps : watch.step (.timer .checkConnectivity now) = some next) :
    (next.lost = watch.lost ++ [now] ↔ Silent start now events) ∧
      (next.lost = watch.lost ↔ ¬ Silent start now events) := by
  have tracks := tracks_run run
  obtain ⟨_, steps⟩ := Option.ite_none_left_eq_some.mp steps
  obtain ⟨⟨lost, checker⟩, called, rfl⟩ := Option.map_eq_some_iff.mp steps
  rw [onTimer_check tracks.running called, ← checkConnectivity_iff tracks]
  cases watch.checker.checkConnectivity now <;> simp

/-- The peer is heard for the last time after one second. -/
def fallsSilent : List Event :=
  [.message PongMessage 500000000, .message [7] 1000000000, .timer .startPing 5000000000,
    .timer .checkConnectivity 10999999999]

theorem lost_iff_fallsSilent :
    ∃ watch next, (machine 1 0).run fallsSilent = some watch ∧
      watch.step (.timer .checkConnectivity 11000000000) = some next ∧
      (next.lost = watch.lost ++ [11000000000] ↔ Silent 0 11000000000 fallsSilent) ∧
      (next.lost = watch.lost ↔ ¬ Silent 0 11000000000 fallsSilent) :=
  ⟨_, _, rfl, rfl, lost_iff 1 0 fallsSilent _
    (Machine.reaches_iff_run.mpr (show (machine 1 0).run fallsSilent = some _ from rfl)) 11000000000 _ rfl⟩

end Faf.PeerConnectivityChecker
