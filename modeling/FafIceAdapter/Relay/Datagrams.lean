import FafIceAdapter.Relay.Emission

namespace Faf
open Json

/-- An effect that carries nothing of a game. -/
def Effect.IsControl (effect : Effect) : Prop :=
  effect.forwarded? = none ∧ ∀ payload, effect.sent? = some payload → payload.producer = .adapter

theorem Effect.IsInner.isControl {effect : Effect} (inner : effect.IsInner) : effect.IsControl := by
  refine ⟨inner.unseen.1, fun payload sends => ?_⟩
  rw [inner.unseen.2.2] at sends
  contradiction

theorem Effect.isControl_report {effect : Effect} (report : effect.isReport) : effect.IsControl :=
  (Effect.isInner_report report).isControl

/-- The event is a datagram of the game. -/
def Relay.LocalEvent.isGameData : Relay.LocalEvent → Bool
  | .gameData _ => true
  | _ => false

namespace Relay

variable {relay next : Relay}

theorem control_onSuccess (observer : Observer) (sdp : Bytes) :
    Adds Effect.IsControl relay ((relay.settle observer).onSuccess observer sdp) := by
  cases observer with
  | createOffer => exact .silent rfl
  | createAnswer => exact .silent rfl
  | setLocalDescription =>
      have described : Adds Effect.IsControl relay ((relay.settle .setLocalDescription).updateConnection
          fun connection => { connection with described := true }) := .silent rfl
      exact described.trans (adds_emit _ ⟨rfl, fun _ sends => by contradiction⟩)
  | setRemoteDescription =>
      unfold onSuccess
      dsimp only
      split
      · exact .silent rfl
      · exact .silent rfl

theorem control_onCheckerTimer {task : CheckerTask} {now : Int} (steps : relay.onCheckerTimer task now = some next) :
    Adds Effect.IsControl relay next := by
  have silent (acted : Relay) (f : PeerConnectivityChecker → PeerConnectivityChecker) :
      Adds Effect.IsControl acted (acted.updateChecker f) := .silent rfl
  obtain ⟨checker, timer, _, _, last⟩ := onCheckerTimer_cases steps
  rcases last with ⟨_, rfl⟩ | ⟨acted, callback, rfl | rfl | rfl, _, rfl⟩
  · exact silent relay _
  · exact silent acted _
  · refine Adds.trans (adds_emit relay ⟨rfl, fun payload sends => ?_⟩) (silent _ _)
    obtain rfl := Option.some.inj sends
    rfl
  · refine Adds.trans ?_ (silent _ _)
    exact (quiet_delayReinit relay 1 fun _ => ⟨rfl, fun _ sends => by contradiction⟩).effects

/-- Only a datagram of the game makes the relay send something of the game. -/
theorem control_stepLocal {event : LocalEvent} (other : event.isGameData = false)
    (steps : relay.stepLocal event = some next) : Adds Effect.IsControl relay next := by
  cases event with
  | iceState state =>
      obtain ⟨_, reported⟩ := Option.ite_none_right_eq_some.mp steps
      exact (reported_setIceState reported).effects.mono fun _ => Effect.isControl_report
  | success observer sdp =>
      obtain rfl := stepLocal_success steps
      exact control_onSuccess observer sdp
  | failure observer =>
      obtain rfl := stepLocal_failure steps
      exact .silent rfl
  | candidate candidate sdpMid sdpMLineIndex =>
      obtain ⟨_, _, _, rfl⟩ := stepLocal_candidate steps
      exact adds_emit relay ⟨rfl, fun _ sends => by contradiction⟩
  | dataChannel =>
      obtain ⟨_, rfl⟩ := stepLocal_dataChannel steps
      exact .silent rfl
  | reinitTimer creation =>
      obtain ⟨timer, _, ⟨_, rfl⟩ | ⟨_, final, again, rfl⟩⟩ := onReinitTimer_cases steps
      · exact .silent rfl
      · exact (recreated_reinitFunction again).inner.mono fun _ => Effect.IsInner.isControl
  | checkerTimer task now => exact control_onCheckerTimer steps
  | gameData data => contradiction

theorem control_addIceMessage {jsonCpp : JsonCpp} {webRtc : WebRtc} {iceMsg : Value} {creation : Creation}
    (steps : relay.addIceMessage jsonCpp webRtc iceMsg creation = some next) : Adds Effect.IsControl relay next :=
  (inner_addIceMessage steps).mono fun _ => Effect.IsInner.isControl

theorem control_create {isOfferer : Bool} {creation : Creation} (creates : create isOfferer creation = some next) :
    Adds Effect.IsControl (initial isOfferer) next := by
  cases isOfferer with
  | false =>
      obtain rfl := Option.some.inj creates
      exact .silent rfl
  | true => exact (recreated_reinitFunction creates).inner.mono fun _ => Effect.IsInner.isControl

theorem onPeerdataFromGame_effects (relay : Relay) (data : Bytes) :
    (relay.onPeerdataFromGame data).effects = relay.effects ∨
      (relay.onPeerdataFromGame data).effects = relay.effects ++ [.sent ⟨.game, data.take 65507⟩] := by
  unfold onPeerdataFromGame
  split
  · exact .inr rfl
  · exact .inl rfl

end Relay
end Faf
