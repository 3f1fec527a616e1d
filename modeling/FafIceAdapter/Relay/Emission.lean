import FafIceAdapter.Relay.Steps

namespace Faf
open Json

/-- An effect of the relay on its own account. Only a checker makes the adapter send, and it sends pings. -/
def Effect.IsOwn (checked : Bool) : Effect → Prop
  | .created _ | .connected _ | .state _ | .scheduled _ => True
  | .sent payload => payload.producer = .adapter → checked ∧ payload.data = PeerConnectivityChecker.PingMessage
  | .iceMessage _ | .setRemoteDescription _ | .addIceCandidate _ | .forwarded _ => False

/-- An effect that reaches neither the game nor the other relay. -/
def Effect.IsInner : Effect → Prop
  | .created _ | .connected _ | .state _ | .scheduled _ | .setRemoteDescription _ | .addIceCandidate _ => True
  | .iceMessage _ | .sent _ | .forwarded _ => False

theorem Effect.isOwn_report {effect : Effect} (report : effect.isReport) (checked : Bool) : effect.IsOwn checked := by
  cases effect with
  | connected _ => trivial
  | state _ => trivial
  | scheduled _ => trivial
  | _ => contradiction

theorem Effect.isInner_report {effect : Effect} (report : effect.isReport) : effect.IsInner := by
  cases effect with
  | connected _ => trivial
  | state _ => trivial
  | scheduled _ => trivial
  | _ => contradiction

theorem Effect.IsOwn.unseen {checked : Bool} {effect : Effect} (own : effect.IsOwn checked) :
    effect.forwarded? = none ∧ effect.iceMessage? = none ∧ effect.applied? = none := by
  cases effect with
  | iceMessage _ => contradiction
  | setRemoteDescription _ => contradiction
  | addIceCandidate _ => contradiction
  | forwarded _ => contradiction
  | _ => exact ⟨rfl, rfl, rfl⟩

theorem Effect.IsInner.unseen {effect : Effect} (inner : effect.IsInner) :
    effect.forwarded? = none ∧ effect.iceMessage? = none ∧ effect.sent? = none := by
  cases effect with
  | iceMessage _ => contradiction
  | sent _ => contradiction
  | forwarded _ => contradiction
  | _ => exact ⟨rfl, rfl, rfl⟩

namespace Relay

/-- The local description of the current peer connection is set. -/
def described (relay : Relay) : Bool := relay.peerConnection.any PeerConnection.described

/-- The step keeps the peer connection as it is known to the other relay, and only adds such effects. -/
structure Quiet (property : Effect → Prop) (relay next : Relay) : Prop where
  created : next.created = relay.created
  described : next.described = relay.described
  effects : Adds property relay next

/-- An event without such effects leaves nothing to see. -/
theorem Adds.filterMap {property : Effect → Prop} {Content : Type} {relay next : Relay}
    {select : Effect → Option Content} (adds : Adds property relay next) (empty : relay.effects = [])
    (unseen : ∀ effect, property effect → select effect = none) : next.effects.filterMap select = [] := by
  obtain ⟨others, same, kind⟩ := adds
  rw [same, empty, List.nil_append, List.filterMap_eq_nil_iff]
  intro effect member
  exact unseen effect (kind effect member)

section Quiet

variable {property : Effect → Prop} {relay middle next : Relay}

theorem Quiet.silent (created : next.created = relay.created) (described : next.described = relay.described)
    (effects : next.effects = relay.effects) : Quiet property relay next :=
  ⟨created, described, .silent effects⟩

theorem Quiet.refl (relay : Relay) : Quiet property relay relay := .silent rfl rfl rfl

theorem Quiet.trans (first : Quiet property relay middle) (second : Quiet property middle next) :
    Quiet property relay next where
  created := second.created.trans first.created
  described := second.described.trans first.described
  effects := first.effects.trans second.effects

theorem quiet_emit {effect : Effect} (relay : Relay) (quiet : property effect) :
    Quiet property relay (relay.emit effect) := ⟨rfl, rfl, adds_emit relay quiet⟩

theorem quiet_updateConnection {f : PeerConnection → PeerConnection} (relay : Relay)
    (described : ∀ connection, (f connection).described = connection.described) :
    Quiet property relay (relay.updateConnection f) := by
  have same : (relay.updateConnection f).described = relay.described := by
    unfold Relay.described updateConnection
    rw [Option.any_map]
    congr 1
    funext connection
    exact described connection
  exact .silent rfl same rfl

theorem quiet_request (relay : Relay) (observer : Observer) : Quiet property relay (relay.request observer) :=
  quiet_updateConnection relay fun _ => rfl

theorem quiet_settle (relay : Relay) (observer : Observer) : Quiet property relay (relay.settle observer) :=
  quiet_updateConnection relay fun _ => rfl

theorem quiet_updateChecker (relay : Relay) (f : PeerConnectivityChecker → PeerConnectivityChecker) :
    Quiet property relay (relay.updateChecker f) := .silent rfl rfl rfl

theorem quiet_delayReinit (relay : Relay) (delayMs : Nat) (scheduled : ∀ pending, property (.scheduled pending)) :
    Quiet property relay (relay.delayReinit delayMs) := by
  unfold delayReinit
  split
  · exact Quiet.refl relay
  · have stored : Quiet property relay
        { relay with reinitTimer := relay.reinitTimer.singleShot delayMs () } := .silent rfl rfl rfl
    exact stored.trans (quiet_emit _ (scheduled _))

theorem Reported.quiet (reported : Reported relay next)
    (report : ∀ effect : Effect, effect.isReport → property effect) : Quiet property relay next := by
  refine ⟨reported.created, ?_, reported.effects.mono report⟩
  have unreported (relay : Relay) : relay.described =
      (relay.peerConnection.map PeerConnection.unreported).any PeerConnection.described := by
    rw [Option.any_map]
    rfl
  rw [unreported next, unreported relay, reported.connection]

end Quiet

/-- What the relay does for an event of its own. An ICE message belongs to the current peer connection, and
a re-created one has no local description. -/
inductive Emitted (relay next : Relay) : Prop
  | quiet (quiet : Quiet (Effect.IsOwn relay.connectionChecker.isSome) relay next) : Emitted relay next
  | description (sdp : Bytes) (created : next.created = relay.created)
      (effects : next.effects = relay.effects ++ [.iceMessage (descriptionMessage relay.isOfferer sdp)]) :
      Emitted relay next
  | candidate (candidate sdpMid : Bytes) (sdpMLineIndex : Int) (created : next.created = relay.created)
      (described : relay.described)
      (effects : next.effects = relay.effects ++ [.iceMessage (candidateMessage candidate sdpMid sdpMLineIndex)]) :
      Emitted relay next
  | renewed (created : next.created = relay.created + 1) (described : next.described = false)
      (effects : Adds Effect.IsInner relay next) : Emitted relay next

section Events

variable {relay next : Relay}

theorem Recreated.described (recreated : Recreated relay next) : next.described = false := by
  have unreported : next.described =
      (next.peerConnection.map PeerConnection.unreported).any PeerConnection.described := by
    rw [Option.any_map]
    rfl
  rw [unreported, recreated.connection]
  rfl

theorem Recreated.inner (recreated : Recreated relay next) : Adds Effect.IsInner relay next := by
  apply recreated.effects.mono
  intro effect kind
  rcases kind with report | rfl
  · exact Effect.isInner_report report
  · trivial

theorem emitted_onSuccess {observer : Observer} {sdp : Bytes} :
    Emitted relay ((relay.settle observer).onSuccess observer sdp) := by
  have settled : Quiet (Effect.IsOwn relay.connectionChecker.isSome) relay (relay.settle observer) :=
    quiet_settle relay observer
  have stored : Quiet (Effect.IsOwn relay.connectionChecker.isSome) (relay.settle observer)
      { relay.settle observer with localSdp := sdp } := .silent rfl rfl rfl
  cases observer with
  | createOffer => exact .quiet ((settled.trans stored).trans (quiet_request _ .setLocalDescription))
  | createAnswer => exact .quiet ((settled.trans stored).trans (quiet_request _ .setLocalDescription))
  | setLocalDescription => exact .description relay.localSdp rfl rfl
  | setRemoteDescription =>
      apply Emitted.quiet
      apply settled.trans
      change Quiet _ _ (if !(relay.settle .setRemoteDescription).isOfferer then
        (relay.settle .setRemoteDescription).request .createAnswer else relay.settle .setRemoteDescription)
      split
      · exact quiet_request _ .createAnswer
      · exact Quiet.refl _

theorem emitted_onCheckerTimer {task : CheckerTask} {now : Int}
    (steps : relay.onCheckerTimer task now = some next) : Emitted relay next := by
  obtain ⟨checker, timer, present, _, last⟩ := onCheckerTimer_cases steps
  apply Emitted.quiet
  rcases last with ⟨_, rfl⟩ | ⟨acted, callback, rfl | rfl | rfl, _, rfl⟩
  · exact quiet_updateChecker relay _
  · exact quiet_updateChecker acted _
  · apply Quiet.trans (quiet_emit relay _) (quiet_updateChecker _ _)
    rw [present]
    intro _
    exact ⟨rfl, rfl⟩
  · exact (quiet_delayReinit relay 1 fun _ => trivial).trans (quiet_updateChecker _ _)

theorem emitted_onReinitTimer {creation : Creation} (steps : relay.onReinitTimer creation = some next) :
    Emitted relay next := by
  obtain ⟨timer, _, ⟨_, rfl⟩ | ⟨_, final, again, rfl⟩⟩ := onReinitTimer_cases steps
  · exact .quiet (.silent rfl rfl rfl)
  · have recreated := recreated_reinitFunction again
    exact .renewed recreated.created recreated.described recreated.inner

theorem emitted_onPeerdataFromGame (data : Bytes) : Emitted relay (relay.onPeerdataFromGame data) := by
  unfold onPeerdataFromGame
  apply Emitted.quiet
  split
  · apply quiet_emit
    intro produced
    contradiction
  · exact Quiet.refl relay

theorem emitted_stepLocal {event : LocalEvent} (steps : relay.stepLocal event = some next) :
    Emitted relay next := by
  cases event with
  | iceState state =>
      obtain ⟨_, reported⟩ := Option.ite_none_right_eq_some.mp steps
      exact .quiet ((reported_setIceState reported).quiet fun _ report => Effect.isOwn_report report _)
  | success observer sdp =>
      obtain rfl := stepLocal_success steps
      exact emitted_onSuccess
  | failure observer =>
      obtain rfl := stepLocal_failure steps
      exact .quiet (quiet_settle relay observer)
  | candidate candidate sdpMid sdpMLineIndex =>
      obtain ⟨connection, present, described, rfl⟩ := stepLocal_candidate steps
      have held : relay.described := by
        rw [Relay.described, present]
        exact described
      exact .candidate candidate sdpMid sdpMLineIndex rfl held rfl
  | dataChannel =>
      obtain ⟨number, rfl⟩ := stepLocal_dataChannel steps
      exact .quiet (.silent rfl rfl rfl)
  | reinitTimer creation => exact emitted_onReinitTimer steps
  | checkerTimer task now => exact emitted_onCheckerTimer steps
  | gameData data =>
      obtain rfl := Option.some.inj steps
      exact emitted_onPeerdataFromGame data

/-- What an ICE message gives to the current peer connection. -/
def IsAppliedTo (relay : Relay) (effect : Effect) : Prop :=
  ∃ connection, relay.peerConnection = some connection ∧
    (effect = .setRemoteDescription connection.number ∨ effect = .addIceCandidate connection.number)

theorem IsAppliedTo.inner {effect : Effect} (applied : relay.IsAppliedTo effect) : effect.IsInner := by
  obtain ⟨connection, _, rfl | rfl⟩ := applied
  · trivial
  · trivial

theorem quiet_setsDescription (sets : SetsDescription relay next) : Quiet relay.IsAppliedTo relay next := by
  rcases sets with rfl | sets
  · exact Quiet.refl next
  · obtain ⟨connection, present, last⟩ := Option.bind_eq_some_iff.mp sets
    obtain rfl := Option.some.inj last
    exact (quiet_request relay .setRemoteDescription).trans (quiet_emit _ ⟨connection, present, .inl rfl⟩)

/-- Unless it is a description for an answerer, an ICE message is given to the current peer connection. -/
theorem quiet_addIceMessage {jsonCpp : JsonCpp} {webRtc : WebRtc} {iceMsg : Value} {creation : Creation}
    (keeps : describes jsonCpp webRtc iceMsg = false ∨ relay.isOfferer)
    (steps : relay.addIceMessage jsonCpp webRtc iceMsg creation = some next) :
    Quiet relay.IsAppliedTo relay next := by
  rcases addIceMessage_cases steps with ⟨describing, answerer, _⟩ | ⟨_, sets | ⟨connection, present, rfl⟩⟩
  · rcases keeps with other | offerer
    · rw [describing] at other
      contradiction
    · rw [answerer] at offerer
      contradiction
  · exact quiet_setsDescription sets
  · exact quiet_emit relay ⟨connection, present, .inr rfl⟩

/-- A description makes an answerer replace its peer connection. -/
theorem created_addIceMessage {jsonCpp : JsonCpp} {webRtc : WebRtc} {iceMsg : Value} {creation : Creation}
    (idle : relay.closing = false) (describing : describes jsonCpp webRtc iceMsg)
    (answerer : relay.isOfferer = false)
    (steps : relay.addIceMessage jsonCpp webRtc iceMsg creation = some next) :
    next.created = relay.created + 1 := by
  rcases addIceMessage_cases steps with ⟨_, _, middle, reinits, sets⟩ | ⟨other | offerer, _⟩
  · unfold reinitPeerconnection at reinits
    rw [idle] at reinits
    rw [(quiet_setsDescription sets).created]
    exact (recreated_reinitFunction reinits).created
  · rw [describing] at other
    contradiction
  · rw [answerer] at offerer
    contradiction

theorem inner_addIceMessage {jsonCpp : JsonCpp} {webRtc : WebRtc} {iceMsg : Value} {creation : Creation}
    (steps : relay.addIceMessage jsonCpp webRtc iceMsg creation = some next) :
    Adds Effect.IsInner relay next := by
  rcases addIceMessage_cases steps with ⟨_, _, middle, reinits, sets⟩ | ⟨keeps, _⟩
  · have before : Adds Effect.IsInner relay middle := by
      unfold reinitPeerconnection at reinits
      split at reinits
      · exact .silent (congrArg effects (Option.some.inj reinits).symm)
      · exact (recreated_reinitFunction reinits).inner
    exact before.trans ((quiet_setsDescription sets).effects.mono fun _ => IsAppliedTo.inner)
  · exact (quiet_addIceMessage keeps steps).effects.mono fun _ => IsAppliedTo.inner

theorem answerPing_effects (relay : Relay) (data : Bytes) :
    (relay.answerPing data).effects = relay.effects ++
      if relay.isOfferer = false ∧ data = PeerConnectivityChecker.PingMessage ∧ relay.dataChannel.isSome then
        [.sent ⟨.adapter, PeerConnectivityChecker.PongMessage⟩]
      else [.forwarded data] := by
  unfold answerPing
  split
  · rename_i answers
    rw [if_pos (by simpa [and_assoc] using answers)]
    rfl
  · rename_i forwards
    rw [if_neg (by simpa [and_assoc] using forwards)]
    rfl

/-- A message from the other relay is consumed, answered or forwarded. -/
theorem onRemoteMessage_effects (relay : Relay) (data : Bytes) (now : Int) :
    (relay.onRemoteMessage data now).effects = relay.effects ++
      if relay.connectionChecker.isSome ∧ data = PeerConnectivityChecker.PongMessage then []
      else if relay.isOfferer = false ∧ data = PeerConnectivityChecker.PingMessage ∧ relay.dataChannel.isSome then
        [.sent ⟨.adapter, PeerConnectivityChecker.PongMessage⟩]
      else [.forwarded data] := by
  unfold onRemoteMessage
  split
  · rename_i absent
    rw [absent, if_neg (by simp)]
    exact answerPing_effects relay data
  · rename_i checker present
    rw [present]
    by_cases pong : data = PeerConnectivityChecker.PongMessage
    · have consumed : checker.handleMessageFromPeer data now = (true, _) := if_pos pong
      rw [consumed, if_pos ⟨rfl, pong⟩, List.append_nil]
      rfl
    · have other : checker.handleMessageFromPeer data now = (false, _) := if_neg pong
      rw [other, if_neg fun both => pong both.2]
      exact answerPing_effects { relay with connectionChecker := some _ } data

theorem quiet_answerPing (relay : Relay) (data : Bytes) :
    Quiet (fun effect => effect.iceMessage? = none) relay (relay.answerPing data) := by
  unfold answerPing
  split
  · exact quiet_emit relay rfl
  · exact quiet_emit relay rfl

/-- A message from the other relay never makes an ICE message. -/
theorem quiet_onRemoteMessage (relay : Relay) (data : Bytes) (now : Int) :
    Quiet (fun effect => effect.iceMessage? = none) relay (relay.onRemoteMessage data now) := by
  unfold onRemoteMessage
  split
  · exact quiet_answerPing relay data
  · rename_i checker _
    have received : Quiet (fun effect => effect.iceMessage? = none) relay
        { relay with connectionChecker := some (checker.handleMessageFromPeer data now).2 } := .silent rfl rfl rfl
    simp only
    split
    · exact received
    · exact received.trans (quiet_answerPing _ data)

/-- No event of the relay itself reaches the game. -/
theorem Emitted.forwarded (emitted : Emitted relay next) (empty : relay.effects = []) :
    next.effects.filterMap Effect.forwarded? = [] := by
  cases emitted with
  | quiet quiet => exact quiet.effects.filterMap empty fun _ own => own.unseen.1
  | description sdp _ effects =>
      rw [effects, empty]
      rfl
  | candidate _ _ _ _ _ effects =>
      rw [effects, empty]
      rfl
  | renewed _ _ effects => exact effects.filterMap empty fun _ inner => inner.unseen.1

/-- The adapter sends pings for a checker. -/
theorem Emitted.sent (emitted : Emitted relay next) (empty : relay.effects = []) :
    ∀ payload ∈ next.effects.filterMap Effect.sent?, payload.producer = .adapter →
      relay.connectionChecker.isSome ∧ payload.data = PeerConnectivityChecker.PingMessage := by
  cases emitted with
  | quiet quiet =>
      obtain ⟨others, same, own⟩ := quiet.effects
      intro payload member
      obtain ⟨effect, emitted, content⟩ := List.mem_filterMap.mp member
      rw [same, empty, List.nil_append] at emitted
      have kind := own effect emitted
      cases effect with
      | sent other =>
          obtain rfl := Option.some.inj content
          exact kind
      | _ => contradiction
  | description sdp _ effects =>
      rw [effects, empty]
      exact List.forall_mem_nil _
  | candidate _ _ _ _ _ effects =>
      rw [effects, empty]
      exact List.forall_mem_nil _
  | renewed _ _ effects =>
      rw [effects.filterMap empty fun _ inner => inner.unseen.2.2]
      exact List.forall_mem_nil _

end Events

end Relay
end Faf
