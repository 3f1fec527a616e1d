import Mathlib.Tactic

namespace Faf

/-- A timer is the handler of the delayed messages that it posts to its thread. A pending message is listed
by its delay. -/
structure Timer (Callback : Type) where
  interval : Nat
  callback : Option Callback
  isSingleShot : Bool
  pending : List Nat

namespace Timer

variable {Callback : Type}

def initial : Timer Callback := ⟨0, none, false, []⟩

/-- The pending messages are removed from the thread. -/
def stop (timer : Timer Callback) : Timer Callback := { timer with callback := none, pending := [] }

def start (intervalMs : Nat) (callback : Callback) (timer : Timer Callback) : Timer Callback :=
  { timer.stop with
    interval := intervalMs, callback := some callback, isSingleShot := false, pending := [intervalMs] }

/-- The timer calls back once after the delay. -/
def singleShot (delay : Nat) (callback : Callback) (timer : Timer Callback) : Timer Callback :=
  { timer.stop with callback := some callback, isSingleShot := true, pending := [delay] }

def started (timer : Timer Callback) : Bool := timer.callback.isSome

/-- One of the pending messages is delivered. -/
def deliver (timer : Timer Callback) : Option (Timer Callback) :=
  match timer.pending with
  | [] => none
  | _ :: rest => some { timer with pending := rest }

/-- What `OnMessage` does after its callback. -/
def finish (timer : Timer Callback) : Timer Callback :=
  if timer.isSingleShot then { timer with callback := none }
  else { timer with pending := timer.pending ++ [timer.interval] }

end Timer
end Faf
