import FafIceAdapter.Relay.Emission
import FafIceAdapter.Relay.Pair

namespace Faf
open Json Transition PeerConnectivityChecker

namespace Pair

/-- The message that the adapter of the other side sends to this side. -/
def control : Side → Bytes
  | .offerer => PongMessage
  | .answerer => PingMessage

/-- The data that the data channel brought from the other game. -/
def games (payloads : List Payload) : List Bytes :=
  (payloads.filter fun payload => payload.producer = .game).map Payload.data

/-- An offerer that gets a control message has a checker, and no game sends a control message that its
receiver consumes. -/
def Separable (side : Side) (relay : Relay) (payload : Payload) : Prop :=
  match payload.producer, side with
  | .adapter, .offerer => relay.connectionChecker.isSome
  | .adapter, .answerer => True
  | .game, .offerer => relay.connectionChecker.isSome → payload.data ≠ PongMessage
  | .game, .answerer => payload.data ≠ PingMessage

instance (side : Side) (relay : Relay) (payload : Payload) : Decidable (Separable side relay payload) :=
  match payload, side with
  | ⟨.adapter, _⟩, .offerer => inferInstanceAs (Decidable (relay.connectionChecker.isSome = true))
  | ⟨.adapter, _⟩, .answerer => inferInstanceAs (Decidable True)
  | ⟨.game, data⟩, .offerer =>
      inferInstanceAs (Decidable (relay.connectionChecker.isSome = true → data ≠ PongMessage))
  | ⟨.game, data⟩, .answerer => inferInstanceAs (Decidable (data ≠ PingMessage))

/-- The payload that the data channel delivers can be told apart. -/
def Separate (pair : Pair) : Event → Prop
  | .payload side index _ =>
      match (pair.party side).payloads[index]? with
      | some payload => Separable side (pair.party side).relay payload.content
      | none => True
  | _ => True

instance (pair : Pair) : ∀ event, Decidable (Separate pair event)
  | .payload side index now =>
      match found : (pair.party side).payloads[index]? with
      | some payload =>
          decidable_of_iff (Separable side (pair.party side).relay payload.content) (by simp only [Separate, found])
      | none => isTrue (by simp only [Separate, found])
  | .local _ _ | .iceMessage _ _ | .drop _ _ => inferInstanceAs (Decidable True)

/-- The game got what the other game sent, and only the control message of a side is on its way to it. -/
structure Controlled (side : Side) (party : Party) : Prop where
  recoverable : Relay.Recoverable side.isOfferer party.relay
  control : ∀ payload ∈ party.payloads, payload.content.producer = .adapter →
    payload.content.data = control side
  forwarded : party.forwarded = games party.delivered

section Delivery

variable {side : Side} {relay : Relay} {payload : Payload}

/-- What a relay does with a payload that can be told apart. -/
theorem effects_payload (recoverable : Relay.Recoverable side.isOfferer relay) (channel : relay.dataChannel.isSome)
    (controls : payload.producer = .adapter → payload.data = control side)
    (separable : Separable side relay payload) (now : Int) :
    (relay.onRemoteMessage payload.data now).effects = relay.effects ++
      match payload.producer, side with
      | .game, _ => [.forwarded payload.data]
      | .adapter, .offerer => []
      | .adapter, .answerer => [.sent ⟨.adapter, PongMessage⟩] := by
  rw [Relay.onRemoteMessage_effects, recoverable.role]
  congr 1
  obtain ⟨producer, data⟩ := payload
  cases side with
  | offerer =>
      cases producer with
      | adapter => exact if_pos ⟨separable, controls rfl⟩
      | game =>
          rw [if_neg fun both => separable both.1 both.2]
          exact if_neg fun both => Bool.false_ne_true both.1.symm
  | answerer =>
      rw [recoverable.checker rfl, if_neg fun both => Bool.false_ne_true both.1]
      cases producer with
      | adapter => exact if_pos ⟨rfl, controls rfl, channel⟩
      | game => exact if_neg fun both => separable both.2.1

theorem games_append (payloads : List Payload) (payload : Payload) :
    games (payloads ++ [payload]) = games payloads ++ games [payload] := by
  unfold games
  rw [List.filter_append, List.map_append]

end Delivery

section Steps

variable {jsonCpp : JsonCpp} {webRtc : WebRtc} {pair : Pair} {side : Side} {next : Relay}

/-- The two sides after the effects of a step. -/
theorem controlled_dispatch (recoverable : Relay.Recoverable side.isOfferer next)
    (own : ∀ payload ∈ (pair.party side).payloads, payload.content.producer = .adapter →
      payload.content.data = control side)
    (forwarded : (pair.party side).forwarded ++ next.effects.filterMap Effect.forwarded? =
      games (pair.party side).delivered)
    (other : Controlled side.other (pair.party side.other))
    (sent : ∀ payload ∈ next.effects.filterMap Effect.sent?, payload.producer = .adapter →
      payload.data = control side.other) :
    ∀ either, Controlled either ((pair.dispatch side next).party either) := by
  have here : Controlled side ((pair.dispatch side next).party side) := by
    rw [party_dispatch]
    exact ⟨recoverable, own, forwarded⟩
  have there : Controlled side.other ((pair.dispatch side next).party side.other) := by
    obtain ⟨generation, same⟩ := party_dispatch_other side next pair
    rw [same]
    refine ⟨other.recoverable, ?_, other.forwarded⟩
    intro payload member produced
    rcases List.mem_append.mp member with before | added
    · exact other.control payload before produced
    · obtain ⟨content, emitted, rfl⟩ := List.mem_map.mp added
      exact sent content emitted produced
  exact side.both here there

theorem controlled_local {event : Relay.LocalEvent} {after : Pair}
    (controlled : ∀ either, Controlled either (pair.party either))
    (steps : pair.step jsonCpp webRtc (.local side event) = some after) :
    ∀ either, Controlled either (after.party either) := by
  obtain ⟨next, moves, last⟩ := Option.bind_eq_some_iff.mp steps
  obtain rfl := Option.some.inj last
  have recoverable := (controlled side).recoverable.clear
  have emitted := Relay.emitted_stepLocal moves
  apply controlled_dispatch
  · exact recoverable.handle moves
  · exact (controlled side).control
  · rw [emitted.forwarded rfl, List.append_nil]
    exact (controlled side).forwarded
  · exact controlled side.other
  · intro payload member produced
    obtain ⟨checked, ping⟩ := emitted.sent rfl payload member produced
    cases side with
    | offerer => exact ping
    | answerer =>
        rw [recoverable.checker rfl] at checked
        contradiction

theorem controlled_iceMessage {creation : Creation} {after : Pair}
    (controlled : ∀ either, Controlled either (pair.party either))
    (steps : pair.step jsonCpp webRtc (.iceMessage side creation) = some after) :
    ∀ either, Controlled either (after.party either) := by
  unfold step at steps
  simp only at steps
  split at steps
  · contradiction
  · rename_i message rest _
    obtain ⟨next, moves, last⟩ := Option.bind_eq_some_iff.mp steps
    obtain rfl := Option.some.inj last
    have inner := Relay.inner_addIceMessage moves
    obtain ⟨payloads, delivered, forwarded, other⟩ := receive_keeps side message rest next pair
    apply controlled_dispatch
    · exact (controlled side).recoverable.clear.handle moves
    · rw [payloads]
      exact (controlled side).control
    · rw [inner.filterMap rfl fun _ inner => inner.unseen.1, List.append_nil, delivered, forwarded]
      exact (controlled side).forwarded
    · rw [other]
      exact controlled side.other
    · rw [inner.filterMap rfl fun _ inner => inner.unseen.2.2]
      exact List.forall_mem_nil _

theorem controlled_payload {index : Nat} {now : Int} {after : Pair}
    (controlled : ∀ either, Controlled either (pair.party either))
    (permits : Separate pair (.payload side index now))
    (steps : pair.step jsonCpp webRtc (.payload side index now) = some after) :
    ∀ either, Controlled either (after.party either) := by
  obtain ⟨payload, found, afterPayload⟩ := Option.bind_eq_some_iff.mp steps
  obtain ⟨_, afterCurrent⟩ := Option.ite_none_right_eq_some.mp afterPayload
  obtain ⟨next, moves, last⟩ := Option.bind_eq_some_iff.mp afterCurrent
  obtain rfl := Option.some.inj last
  have recoverable := (controlled side).recoverable.clear
  obtain ⟨channel, received⟩ := Option.ite_none_right_eq_some.mp moves
  obtain rfl := Option.some.inj received
  have controls := (controlled side).control payload (List.mem_of_getElem? found)
  simp only [Separate, found] at permits
  have effects := effects_payload recoverable channel controls permits now
  rw [List.nil_append] at effects
  apply controlled_dispatch
  · exact recoverable.handle moves
  · rw [party_setParty]
    intro other member
    exact (controlled side).control other (List.mem_of_mem_eraseIdx member)
  · rw [party_setParty, games_append, ← (controlled side).forwarded, effects]
    obtain ⟨_, producer, data⟩ := payload
    cases producer with
    | adapter =>
        cases side with
        | offerer => rfl
        | answerer => rfl
    | game => rfl
  · rw [party_setParty_other]
    exact controlled side.other
  · rw [effects]
    intro reply member _
    obtain ⟨_, producer, data⟩ := payload
    cases producer with
    | adapter =>
        cases side with
        | offerer => contradiction
        | answerer =>
            obtain rfl := List.mem_singleton.mp member
            rfl
    | game => contradiction

theorem controlled_drop {index : Nat} {after : Pair}
    (controlled : ∀ either, Controlled either (pair.party either))
    (steps : pair.step jsonCpp webRtc (.drop side index) = some after) :
    ∀ either, Controlled either (after.party either) := by
  obtain rfl := Option.some.inj steps
  have here : Controlled side { pair.party side with payloads := (pair.party side).payloads.eraseIdx index } := by
    refine ⟨(controlled side).recoverable, ?_, (controlled side).forwarded⟩
    intro payload member
    exact (controlled side).control payload (List.mem_of_mem_eraseIdx member)
  refine side.both ?_ ?_
  · rw [party_setParty]
    exact here
  · rw [party_setParty_other]
    exact controlled side.other

end Steps

/-- In every run whose deliveries can be told apart, each game gets what the other one sent and nothing else. -/
theorem forwarded_games {jsonCpp : JsonCpp} {webRtc : WebRtc} {first second : Creation} {offerer answerer : Relay}
    {events : List Event} {pair : Pair} (offering : Relay.create true first = some offerer)
    (answering : Relay.create false second = some answerer)
    (run : (machine jsonCpp webRtc offerer answerer).Reaches Separate events pair) (side : Side) :
    (pair.party side).forwarded = games (pair.party side).delivered := by
  have controlled : ∀ either, Controlled either (pair.party either) := by
    apply run.invariant fun pair => ∀ either, Controlled either (pair.party either)
    · refine Side.offerer.both ?_ ?_
      · exact ⟨Relay.recoverable_create offering, List.forall_mem_nil _, rfl⟩
      · exact ⟨Relay.recoverable_create answering, List.forall_mem_nil _, rfl⟩
    · intro state event next controlled permits steps
      cases event with
      | «local» side event => exact controlled_local controlled steps
      | iceMessage side creation => exact controlled_iceMessage controlled steps
      | payload side index now => exact controlled_payload controlled permits steps
      | drop side index => exact @controlled_drop jsonCpp webRtc state side index next controlled steps
  exact (controlled side).forwarded

/-- The relays connect, the offerer sends a ping, and the answerer answers it. -/
def connecting : List Event :=
  [.local .offerer (.success .createOffer []), .local .offerer (.success .setLocalDescription []),
    .iceMessage .answerer .silent, .local .answerer (.success .setRemoteDescription []),
    .local .answerer (.success .createAnswer []), .local .answerer (.success .setLocalDescription []),
    .iceMessage .offerer .silent, .local .offerer (.iceState .connected), .local .answerer (.iceState .connected),
    .local .answerer .dataChannel, .local .offerer (.checkerTimer .startPing 0),
    .local .offerer (.checkerTimer .sendPing 0), .payload .answerer 0 0]

/-- The offerer gets the pong and a message of the other game. -/
def playing : List Event :=
  connecting ++ [.local .answerer (.gameData [1, 2]), .payload .offerer 1 0, .payload .offerer 0 0]

theorem forwarded_games_playing :
    ∃ pair, plainMachine.runWhere Separate playing = some pair ∧
      pair.offerer.delivered = [⟨.game, [1, 2]⟩, ⟨.adapter, PongMessage⟩] ∧
      (pair.party .offerer).forwarded = games (pair.party .offerer).delivered :=
  ⟨_, rfl, rfl, forwarded_games (show Relay.create true .silent = some Relay.offering from rfl)
    (show Relay.create false .silent = some (Relay.initial false) from rfl)
    (Machine.reaches_iff_runWhere.mpr
      (show plainMachine.runWhere Separate playing = some _ from rfl)) .offerer⟩

/-- The ICE state takes the checker of the offerer while the pong is on its way. -/
theorem forwarded_pong : ¬ ∀ (jsonCpp : JsonCpp) (webRtc : WebRtc) (first second : Creation)
    (offerer answerer : Relay) (events : List Event) (pair : Pair), Relay.create true first = some offerer →
    Relay.create false second = some answerer →
    (machine jsonCpp webRtc offerer answerer).Reaches (fun _ _ => True) events pair →
    ∀ side, (pair.party side).forwarded = games (pair.party side).delivered := by
  intro claim
  have run : plainMachine.run
      (connecting ++ [.local .offerer (.iceState .disconnected), .payload .offerer 0 0]) = some _ := rfl
  have same := claim _ _ .silent .silent _ _ _ _ rfl rfl (Machine.reaches_iff_run.mpr run) .offerer
  exact absurd same (by decide)

end Pair
end Faf
