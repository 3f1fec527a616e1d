import FafIceAdapter.Relay.Recovery

namespace Faf
open Json

/-- A new peer connection is not connected before the relay holds it. -/
def Creation.Quiet (creation : Creation) : Prop := ∀ state ∈ creation.early, state.isConnected = false

instance (creation : Creation) : Decidable creation.Quiet :=
  inferInstanceAs (Decidable (∀ state ∈ creation.early, state.isConnected = false))

namespace Relay

section Reports

variable {relay : Relay}

/-- Statistics are asked for when the state is connected, and then there must be a peer connection. -/
theorem setIceState_total {state : IceState} (safe : state.isConnected = false ∨ relay.peerConnection.isSome) :
    ∃ next, relay.setIceState state = some next := by
  have held : (relay.report state).peerConnection.isSome = relay.peerConnection.isSome := Option.isSome_map
  have changes : ∃ middle, (relay.report state).setConnected state.isConnected = some middle := by
    unfold setConnected
    rw [if_neg, ← apply_ite some]
    · exact ⟨_, rfl⟩
    · rw [Bool.and_eq_true, not_and, Option.isNone_iff_eq_none, ← Option.not_isSome_iff_eq_none, not_not, held]
      intro connected
      rcases safe with other | present
      · rw [other] at connected
        contradiction
      · exact present
  obtain ⟨middle, changed⟩ := changes
  unfold setIceState
  simp only [changed, Option.bind_eq_bind, Option.bind_some, Option.pure_def]
  rw [← apply_ite some, ← apply_ite some]
  exact ⟨_, rfl⟩

theorem setIceStates_total {states : List IceState}
    (safe : (∀ state ∈ states, state.isConnected = false) ∨ relay.peerConnection.isSome) :
    ∃ next, relay.setIceStates states = some next := by
  induction states generalizing relay with
  | nil => exact ⟨relay, rfl⟩
  | cons state rest ih =>
      obtain ⟨middle, first⟩ := @setIceState_total relay state (safe.imp_left fun all => all state List.mem_cons_self)
      have kept : middle.peerConnection.isSome = relay.peerConnection.isSome := by
        rw [← Option.isSome_map, (reported_setIceState first).connection, Option.isSome_map]
      have later : (∀ state ∈ rest, state.isConnected = false) ∨ middle.peerConnection.isSome := by
        rw [kept]
        exact safe.imp_left fun all other member => all other (List.mem_cons_of_mem state member)
      obtain ⟨next, others⟩ := ih later
      refine ⟨next, ?_⟩
      rw [setIceStates, List.foldlM_cons, first]
      exact others

end Reports

section Creations

variable {creation : Creation} (quiet : creation.Quiet)
include quiet

/-- The closure always ends with a new peer connection. -/
theorem reinitFunction_total (relay : Relay) : ∃ next, relay.reinitFunction creation = some next := by
  obtain ⟨iceState, shut⟩ := close_eq creation.closing relay
  obtain ⟨middle, early⟩ := @setIceStates_total { relay with
    iceState := iceState, peerConnection := none, dataChannel := none, connectionChecker := none,
    closing := false } creation.early (.inl quiet)
  unfold reinitFunction
  simp only [shut, early, Option.bind_eq_bind, Option.bind_some, Option.pure_def]
  split
  · obtain ⟨final, later⟩ := @setIceStates_total middle.createPeerConnection.createOffer creation.later (.inr rfl)
    rw [later, Option.bind_some]
    exact ⟨_, rfl⟩
  · exact @setIceStates_total middle.createPeerConnection creation.later (.inr rfl)

theorem create_total (isOfferer : Bool) : ∃ start, create isOfferer creation = some start := by
  unfold create
  split
  · exact reinitFunction_total quiet (initial isOfferer)
  · exact ⟨initial isOfferer, rfl⟩

/-- An ICE message finds the peer connection that it needs. -/
theorem addIceMessage_total {relay : Relay} {isOfferer : Bool} (recoverable : Recoverable isOfferer relay)
    (jsonCpp : JsonCpp) (webRtc : WebRtc) (iceMsg : Value) :
    ∃ next, relay.addIceMessage jsonCpp webRtc iceMsg creation = some next := by
  have describes (parses : Bool) {relay : Relay} (present : relay.peerConnection.isSome) :
      ∃ next, (if parses then relay.setRemoteDescription else some relay) = some next := by
    obtain ⟨connection, same⟩ := Option.isSome_iff_exists.mp present
    cases parses with
    | true =>
        refine ⟨(relay.request .setRemoteDescription).emit (.setRemoteDescription connection.number), ?_⟩
        rw [if_pos rfl, setRemoteDescription, same]
        rfl
    | false => exact ⟨relay, rfl⟩
  unfold addIceMessage
  split
  · rename_i parses _
    rw [recoverable.role]
    cases isOfferer with
    | true => exact describes parses (recoverable.connection rfl)
    | false =>
        obtain ⟨middle, again⟩ := reinitFunction_total quiet relay
        have present : middle.peerConnection.isSome := by
          rw [← Option.isSome_map, (recreated_reinitFunction again).connection]
          rfl
        have replaces : relay.reinitPeerconnection creation = some middle := by
          rw [reinitPeerconnection, recoverable.closing]
          exact again
        rw [if_pos (by rfl), replaces]
        exact describes parses present
  · split
    · exact ⟨_, rfl⟩
    · exact ⟨_, rfl⟩
  · exact ⟨_, rfl⟩
  · exact ⟨_, rfl⟩

end Creations

end Relay
end Faf
