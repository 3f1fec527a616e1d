import FafIceAdapter.Relay.Recovery

namespace Faf
open Json Transition

namespace Relay

/-- The state that the current peer connection reported last. -/
def latestState (relay : Relay) : Option IceState := relay.peerConnection.bind PeerConnection.reported

/-- The flag is what `connectedCallback` was told. -/
def Told (relay : Relay) : Prop := relay.isConnected = relay.connectedCallback.getD false

/-- The flag is what was told, and it is only set for a connected peer connection. -/
structure Truthful (relay : Relay) : Prop where
  told : relay.Told
  latest : relay.isConnected → relay.latestState.any IceState.isConnected

section Reports

variable {relay next : Relay}

/-- What a change of the flag leaves. -/
theorem setConnected_spec {connected : Bool} (steps : relay.setConnected connected = some next)
    (told : relay.Told) :
    next.Told ∧ next.isConnected = connected ∧ next.peerConnection = relay.peerConnection ∧
      (connected → relay.peerConnection.isSome) := by
  unfold setConnected at steps
  split at steps
  · contradiction
  · rename_i present
    have held : connected → relay.peerConnection.isSome := by
      intro sets
      rw [sets, Bool.true_and, ← Option.not_isSome, Bool.not_eq_true', Bool.not_eq_false] at present
      exact present
    split at steps
    · obtain rfl := Option.some.inj steps
      exact ⟨rfl, rfl, rfl, held⟩
    · rename_i same
      obtain rfl := Option.some.inj steps
      exact ⟨told, (not_not.mp same).symm, rfl, held⟩

theorem delayReinit_flag (delayMs : Nat) (relay : Relay) :
    (relay.delayReinit delayMs).isConnected = relay.isConnected ∧
      (relay.delayReinit delayMs).connectedCallback = relay.connectedCallback ∧
      (relay.delayReinit delayMs).peerConnection = relay.peerConnection := by
  unfold delayReinit
  split
  · exact ⟨rfl, rfl, rfl⟩
  · exact ⟨rfl, rfl, rfl⟩

/-- A relay with the same flag and the same reports is as truthful. -/
theorem Truthful.congr (truthful : Truthful relay) (flag : next.isConnected = relay.isConnected)
    (callback : next.connectedCallback = relay.connectedCallback)
    (latest : next.latestState = relay.latestState) : Truthful next := by
  constructor
  · unfold Told
    rw [flag, callback]
    exact truthful.told
  · rw [flag, latest]
    exact truthful.latest

/-- A reported state makes the relay truthful again. -/
theorem truthful_setIceState {state : IceState} (steps : relay.setIceState state = some next)
    (told : relay.Told) (idle : relay.closing = false) : Truthful next := by
  rcases setIceState_cases steps with ⟨closing, _⟩ | ⟨_, middle, connected, last⟩
  · rw [idle] at closing
    contradiction
  · obtain ⟨told', flag, same, held⟩ := setConnected_spec connected told
    have truthful : Truthful middle := by
      refine ⟨told', ?_⟩
      intro sets
      rw [flag] at sets
      obtain ⟨connection, present⟩ := Option.isSome_iff_exists.mp (held sets)
      have reported : connection.reported = some state := by
        obtain ⟨before, _, rfl⟩ := Option.map_eq_some_iff.mp present
        rfl
      rw [latestState, same, present, Option.bind_some, reported]
      exact sets
    rcases last with rfl | ⟨_, rfl⟩
    · exact truthful.congr rfl rfl rfl
    · obtain ⟨flag', callback', connection'⟩ := delayReinit_flag 100
        { middle.emit (.state state) with connectionChecker := none }
      apply truthful.congr flag' callback'
      rw [latestState, connection']
      rfl

/-- States that are reported leave what was told, and a last one makes the relay truthful. -/
theorem truthful_setIceStates {states : List IceState} (steps : relay.setIceStates states = some next)
    (told : relay.Told) (idle : relay.closing = false) :
    next.Told ∧ (states = [] ∧ next = relay ∨ Truthful next) := by
  induction states generalizing relay with
  | nil =>
      obtain rfl := Option.some.inj steps
      exact ⟨told, .inl ⟨rfl, rfl⟩⟩
  | cons state rest ih =>
      obtain ⟨middle, first, later⟩ := Option.bind_eq_some_iff.mp steps
      have truthful := truthful_setIceState first told idle
      obtain ⟨told', last⟩ := ih later truthful.told ((reported_setIceState first).closing.trans idle)
      refine ⟨told', .inr ?_⟩
      rcases last with ⟨_, rfl⟩ | truthful'
      · exact truthful
      · exact truthful'

end Reports

/-- A peer connection is replaced while the relay is not connected, or the creation reports a state. -/
def Replaceable (relay : Relay) (creation : Creation) : Prop :=
  relay.isConnected = false ∨ creation.early ≠ [] ∨ creation.later ≠ []

instance (relay : Relay) (creation : Creation) : Decidable (relay.Replaceable creation) :=
  inferInstanceAs (Decidable (_ ∨ _))

/-- No peer connection that is connected is replaced. -/
def ReplacesIdle (jsonCpp : JsonCpp) (webRtc : WebRtc) (relay : Relay) : Event → Prop
  | .local (.reinitTimer creation) => relay.reinitTimer.started → relay.Replaceable creation
  | .iceMessage iceMsg creation =>
      relay.isOfferer = false → describes jsonCpp webRtc iceMsg → relay.Replaceable creation
  | _ => True

instance (jsonCpp : JsonCpp) (webRtc : WebRtc) (relay : Relay) :
    ∀ event, Decidable (ReplacesIdle jsonCpp webRtc relay event)
  | .local event =>
      match event with
      | .reinitTimer creation => inferInstanceAs (Decidable (relay.reinitTimer.started → relay.Replaceable creation))
      | .iceState _ | .success _ _ | .failure _ | .candidate _ _ _ | .dataChannel | .checkerTimer _ _
      | .gameData _ => inferInstanceAs (Decidable True)
  | .iceMessage iceMsg creation =>
      inferInstanceAs (Decidable
        (relay.isOfferer = false → describes jsonCpp webRtc iceMsg → relay.Replaceable creation))
  | .remoteMessage _ _ => inferInstanceAs (Decidable True)

section Runs

variable {jsonCpp : JsonCpp} {webRtc : WebRtc} {relay next : Relay}

theorem truthful_reinitFunction {creation : Creation} (truthful : Truthful relay)
    (replaceable : relay.Replaceable creation) (steps : relay.reinitFunction creation = some next) :
    Truthful next := by
  obtain ⟨iceState, middle, final, early, last⟩ := reinitFunction_cases steps
  obtain ⟨told, first⟩ := truthful_setIceStates early truthful.told rfl
  have idle : middle.closing = false := (reported_setIceStates early).closing
  have without : middle.peerConnection = none := by
    have same := (reported_setIceStates early).connection
    exact Option.map_eq_none_iff.mp same
  have flag : middle.isConnected = false ∨ creation.later ≠ [] := by
    rcases first with ⟨none, rfl⟩ | truthful'
    · rcases replaceable with off | reports | reports
      · exact .inl off
      · exact absurd none reports
      · exact .inr reports
    · left
      by_contra sets
      have latest := truthful'.latest (Bool.not_eq_false _ ▸ sets)
      rw [latestState, without] at latest
      contradiction
  have finish {held : Relay} (toldHeld : held.Told) (idleHeld : held.closing = false)
      (same : held.isConnected = middle.isConnected)
      (later : held.setIceStates creation.later = some final) : Truthful final := by
    obtain ⟨told', second⟩ := truthful_setIceStates later toldHeld idleHeld
    rcases second with ⟨none, rfl⟩ | truthful'
    · refine ⟨told', ?_⟩
      intro sets
      rcases flag with off | reports
      · rw [same, off] at sets
        contradiction
      · exact absurd none reports
    · exact truthful'
  rcases last with ⟨_, later, rfl⟩ | ⟨_, later, rfl⟩
  · exact (@finish middle.createPeerConnection.createOffer told idle rfl later).congr rfl rfl rfl
  · exact @finish middle.createPeerConnection told idle rfl later

theorem Truthful.kept (truthful : Truthful relay) (kept : Kept relay next) : Truthful next := by
  apply truthful.congr kept.isConnected kept.connectedCallback
  have same := congrArg (Option.bind · id) kept.reported
  simp only [Option.bind_map] at same
  exact same

/-- The effects of the last event do not matter. -/
theorem Truthful.clear (truthful : Truthful relay) : Truthful { relay with effects := [] } :=
  truthful.congr rfl rfl rfl

theorem Truthful.handle {event : Event} (truthful : Truthful relay) (idle : relay.closing = false)
    (permits : ReplacesIdle jsonCpp webRtc relay event)
    (steps : relay.handle jsonCpp webRtc event = some next) : Truthful next := by
  cases @stepped_handle jsonCpp webRtc relay next event steps with
  | kept kept => exact truthful.kept kept
  | reported _ reports => exact truthful_setIceState reports truthful.told idle
  | lost _ kept =>
      obtain ⟨flag, callback, connection⟩ := delayReinit_flag 1 relay
      have delayed : Truthful (relay.delayReinit 1) := by
        apply truthful.congr flag callback
        rw [latestState, connection]
        rfl
      exact delayed.kept kept
  | idle _ _ => exact truthful.congr rfl rfl rfl
  | @reinit creation timer next delivered started reinits =>
      have replaceable : relay.Replaceable creation := permits ((Timer.started_deliver delivered).symm.trans started)
      have delivering : Truthful { relay with reinitTimer := timer } := truthful.congr rfl rfl rfl
      exact (truthful_reinitFunction delivering replaceable reinits).congr rfl rfl rfl
  | replaced describing answerer reinits kept =>
      unfold reinitPeerconnection at reinits
      rw [idle] at reinits
      exact (truthful_reinitFunction truthful (permits answerer describing) reinits).kept kept

theorem ReplacesIdle.clear {event : Event} (permits : ReplacesIdle jsonCpp webRtc relay event) :
    ReplacesIdle jsonCpp webRtc { relay with effects := [] } event := by
  cases event with
  | «local» event =>
      cases event with
      | reinitTimer creation => exact permits
      | _ => trivial
  | iceMessage iceMsg creation => exact permits
  | remoteMessage data now => trivial

end Runs

theorem truthful_create {isOfferer : Bool} {creation : Creation} {start : Relay}
    (created : create isOfferer creation = some start) : Truthful start := by
  have truthful : Truthful (initial isOfferer) := by
    refine ⟨rfl, ?_⟩
    intro sets
    contradiction
  cases isOfferer with
  | true => exact truthful_reinitFunction truthful (.inl rfl) created
  | false =>
      obtain rfl := Option.some.inj created
      exact truthful

/-- In every run that only replaces connections that are not connected, the flag is truthful. -/
theorem connected_truthful {jsonCpp : JsonCpp} {webRtc : WebRtc} {isOfferer : Bool} {creation : Creation}
    {start relay : Relay} {events : List Event} (created : create isOfferer creation = some start)
    (run : (machine jsonCpp webRtc start).Reaches (ReplacesIdle jsonCpp webRtc) events relay) :
    relay.isConnected = relay.connectedCallback.getD false ∧
      (relay.isConnected → relay.latestState.any IceState.isConnected) := by
  have invariant : Recoverable isOfferer relay ∧ Truthful relay := by
    apply run.invariant fun relay => Recoverable isOfferer relay ∧ Truthful relay
    · exact ⟨recoverable_create created, truthful_create created⟩
    · intro state event next holds permits steps
      have clear := holds.1.clear
      exact ⟨clear.handle steps, holds.2.clear.handle clear.closing permits.clear steps⟩
  exact ⟨invariant.2.told, invariant.2.latest⟩

/-- An answerer receives an offer, and its peer connection connects. -/
def answering : List Event :=
  [.iceMessage (descriptionMessage true []) .silent, .local (.iceState .connected)]

/-- The flag is set for a connected peer connection. -/
theorem connected_truthful_answering :
    ∃ relay, create false .silent = some (initial false) ∧
      (plainMachine (initial false)).runWhere (ReplacesIdle plainJsonCpp .accepting) answering = some relay ∧
      relay.isConnected ∧ relay.isConnected = relay.connectedCallback.getD false ∧
      (relay.isConnected → relay.latestState.any IceState.isConnected) :=
  ⟨_, rfl, rfl, rfl, connected_truthful (show create false .silent = some (initial false) from rfl)
    (Machine.reaches_iff_runWhere.mpr
      (show (plainMachine (initial false)).runWhere (ReplacesIdle plainJsonCpp .accepting) answering = some _
        from rfl))⟩

/-- The next offer replaces the connected peer connection, and the flag stays. -/
theorem connected_replaced : ¬ ∀ (jsonCpp : JsonCpp) (webRtc : WebRtc) (isOfferer : Bool) (creation : Creation)
    (start relay : Relay) (events : List Event), create isOfferer creation = some start →
    (machine jsonCpp webRtc start).Reaches (fun _ _ => True) events relay →
    relay.isConnected = relay.connectedCallback.getD false ∧
      (relay.isConnected → relay.latestState.any IceState.isConnected) := by
  intro claim
  have run : (plainMachine (initial false)).run
      (answering ++ [.iceMessage (descriptionMessage true []) .silent]) = some _ := rfl
  have truthful := claim _ _ false .silent _ _ _ rfl (Machine.reaches_iff_run.mpr run)
  exact absurd (truthful.2 rfl) (by decide)

end Relay
end Faf
