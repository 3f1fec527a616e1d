import FafIceAdapter.Relay.Reports

namespace Faf
open Json

namespace Relay

/-- The step keeps the peer connection, its timer and whether there is a checker. -/
structure Kept (relay next : Relay) : Prop where
  isOfferer : next.isOfferer = relay.isOfferer
  closing : next.closing = relay.closing
  created : next.created = relay.created
  reinitTimer : next.reinitTimer = relay.reinitTimer
  number : next.peerConnection.map PeerConnection.number = relay.peerConnection.map PeerConnection.number
  reported : next.peerConnection.map PeerConnection.reported = relay.peerConnection.map PeerConnection.reported
  isConnected : next.isConnected = relay.isConnected
  connectedCallback : next.connectedCallback = relay.connectedCallback
  dataChannel : relay.dataChannel.isSome → next.dataChannel.isSome
  checker : next.connectionChecker.isSome = relay.connectionChecker.isSome
  checking : relay.Checking → next.Checking
  scheduled : ∀ pending, .scheduled pending ∈ next.effects → .scheduled pending ∈ relay.effects

theorem Kept.refl (relay : Relay) : Kept relay relay :=
  ⟨rfl, rfl, rfl, rfl, rfl, rfl, rfl, rfl, id, rfl, id, fun _ => id⟩

theorem Kept.trans {relay middle next : Relay} (first : Kept relay middle) (second : Kept middle next) :
    Kept relay next where
  isOfferer := second.isOfferer.trans first.isOfferer
  closing := second.closing.trans first.closing
  created := second.created.trans first.created
  reinitTimer := second.reinitTimer.trans first.reinitTimer
  number := second.number.trans first.number
  reported := second.reported.trans first.reported
  isConnected := second.isConnected.trans first.isConnected
  connectedCallback := second.connectedCallback.trans first.connectedCallback
  dataChannel present := second.dataChannel (first.dataChannel present)
  checker := second.checker.trans first.checker
  checking before := second.checking (first.checking before)
  scheduled pending member := first.scheduled pending (second.scheduled pending member)

theorem kept_emit (relay : Relay) {effect : Effect} (other : ∀ pending, effect ≠ .scheduled pending) :
    Kept relay (relay.emit effect) := by
  have scheduled (pending : Nat) (member : .scheduled pending ∈ (relay.emit effect).effects) :
      .scheduled pending ∈ relay.effects := by
    rcases List.mem_append.mp member with before | last
    · exact before
    · exact absurd (List.mem_singleton.mp last).symm (other pending)
  exact { Kept.refl relay with scheduled := scheduled }

/-- A change of the peer connection that keeps its number and its reports. -/
theorem kept_updateConnection (relay : Relay) {f : PeerConnection → PeerConnection}
    (number : ∀ connection, (f connection).number = connection.number)
    (reported : ∀ connection, (f connection).reported = connection.reported) :
    Kept relay (relay.updateConnection f) := by
  have numbers : (relay.updateConnection f).peerConnection.map PeerConnection.number =
      relay.peerConnection.map PeerConnection.number := by
    rw [updateConnection, Option.map_map]
    exact Option.map_congr fun connection _ => number connection
  have reports : (relay.updateConnection f).peerConnection.map PeerConnection.reported =
      relay.peerConnection.map PeerConnection.reported := by
    rw [updateConnection, Option.map_map]
    exact Option.map_congr fun connection _ => reported connection
  exact { Kept.refl relay with number := numbers, reported := reports }

theorem kept_request (relay : Relay) (observer : Observer) : Kept relay (relay.request observer) :=
  kept_updateConnection relay (fun _ => rfl) fun _ => rfl

theorem kept_settle (relay : Relay) (observer : Observer) : Kept relay (relay.settle observer) :=
  kept_updateConnection relay (fun _ => rfl) fun _ => rfl

theorem kept_updateChecker {relay : Relay} {f : PeerConnectivityChecker → PeerConnectivityChecker}
    (running : ∀ checker, relay.connectionChecker = some checker → checker.Running → (f checker).Running) :
    Kept relay (relay.updateChecker f) := by
  have checking (before : relay.Checking) : (relay.updateChecker f).Checking := by
    intro checker present
    obtain ⟨old, held, rfl⟩ := Option.map_eq_some_iff.mp present
    exact running old held (before old held)
  exact { Kept.refl relay with checker := Option.isSome_map, checking := checking }

theorem kept_onSuccess (relay : Relay) (observer : Observer) (sdp : Bytes) :
    Kept relay (relay.onSuccess observer sdp) := by
  have stored : Kept relay { relay with localSdp := sdp } := { Kept.refl relay with }
  cases observer with
  | createOffer => exact stored.trans (kept_request _ .setLocalDescription)
  | createAnswer => exact stored.trans (kept_request _ .setLocalDescription)
  | setLocalDescription =>
      have described := @kept_updateConnection relay
        (fun connection => { connection with described := true }) (fun _ => rfl) fun _ => rfl
      exact described.trans (kept_emit _ (by simp))
  | setRemoteDescription =>
      change Kept relay (if !relay.isOfferer then relay.request .createAnswer else relay)
      split
      · exact kept_request relay .createAnswer
      · exact Kept.refl relay

theorem kept_answerPing (relay : Relay) (data : Bytes) : Kept relay (relay.answerPing data) := by
  unfold answerPing
  split
  · exact kept_emit relay (by simp)
  · exact kept_emit relay (by simp)

theorem kept_onRemoteMessage (relay : Relay) (data : Bytes) (now : Int) :
    Kept relay (relay.onRemoteMessage data now) := by
  unfold onRemoteMessage
  split
  · exact kept_answerPing relay data
  · rename_i checker present
    have received : Kept relay
        { relay with connectionChecker := some (checker.handleMessageFromPeer data now).2 } := by
      have checking (before : relay.Checking) :
          Checking { relay with connectionChecker := some (checker.handleMessageFromPeer data now).2 } := by
        intro other held
        obtain rfl := Option.some.inj held
        exact PeerConnectivityChecker.running_handleMessageFromPeer data now (before checker present)
      have checked : relay.connectionChecker.isSome := by
        rw [present]
        exact Option.isSome_some
      exact { Kept.refl relay with checker := checked.symm, checking := checking }
    simp only
    split
    · exact received
    · exact received.trans (kept_answerPing _ data)

theorem kept_onPeerdataFromGame (relay : Relay) (data : Bytes) :
    Kept relay (relay.onPeerdataFromGame data) := by
  unfold onPeerdataFromGame
  split
  · exact kept_emit relay (by simp)
  · exact Kept.refl relay

theorem kept_setRemoteDescription {relay next : Relay} (steps : relay.setRemoteDescription = some next) :
    Kept relay next := by
  obtain ⟨connection, _, last⟩ := Option.bind_eq_some_iff.mp steps
  obtain rfl := Option.some.inj last
  exact (kept_request relay .setRemoteDescription).trans (kept_emit _ (by simp))

theorem updateChecker_updateChecker (relay : Relay) (f g : PeerConnectivityChecker → PeerConnectivityChecker) :
    (relay.updateChecker f).updateChecker g = relay.updateChecker (g ∘ f) := by
  unfold updateChecker
  rw [Option.map_map]

theorem emit_updateChecker (relay : Relay) (effect : Effect)
    (f : PeerConnectivityChecker → PeerConnectivityChecker) :
    (relay.emit effect).updateChecker f = (relay.updateChecker f).emit effect := rfl

theorem delayReinit_connectionChecker (relay : Relay) (delayMs : Nat) :
    (relay.delayReinit delayMs).connectionChecker = relay.connectionChecker := by
  unfold delayReinit
  split
  · rfl
  · rfl

theorem delayReinit_updateChecker (relay : Relay) (delayMs : Nat)
    (f : PeerConnectivityChecker → PeerConnectivityChecker) :
    (relay.updateChecker f).delayReinit delayMs = (relay.delayReinit delayMs).updateChecker f := by
  unfold delayReinit
  change (if relay.closing || relay.reinitTimer.started then _ else _) = _
  split
  · rfl
  · rfl

/-- What an event does to the peer connection, its timer and its checker. -/
inductive Stepped (jsonCpp : JsonCpp) (webRtc : WebRtc) (relay : Relay) : Event → Relay → Prop
  | kept {event : Event} {next : Relay} (kept : Kept relay next) : Stepped jsonCpp webRtc relay event next
  | reported {state : IceState} {next : Relay} (present : relay.peerConnection.isSome)
      (steps : relay.setIceState state = some next) : Stepped jsonCpp webRtc relay (.local (.iceState state)) next
  | lost {task : CheckerTask} {now : Int} {next : Relay} (present : relay.connectionChecker.isSome)
      (kept : Kept (relay.delayReinit 1) next) : Stepped jsonCpp webRtc relay (.local (.checkerTimer task now)) next
  | idle {creation : Creation} {timer : Timer Unit} (delivered : relay.reinitTimer.deliver = some timer)
      (stopped : timer.started = false) :
      Stepped jsonCpp webRtc relay (.local (.reinitTimer creation)) { relay with reinitTimer := timer }
  | reinit {creation : Creation} {timer : Timer Unit} {next : Relay}
      (delivered : relay.reinitTimer.deliver = some timer) (started : timer.started)
      (steps : { relay with reinitTimer := timer }.reinitFunction creation = some next) :
      Stepped jsonCpp webRtc relay (.local (.reinitTimer creation))
        { next with reinitTimer := next.reinitTimer.finish }
  | replaced {iceMsg : Value} {creation : Creation} {middle next : Relay}
      (describing : describes jsonCpp webRtc iceMsg) (answerer : relay.isOfferer = false)
      (steps : relay.reinitPeerconnection creation = some middle) (kept : Kept middle next) :
      Stepped jsonCpp webRtc relay (.iceMessage iceMsg creation) next

section Events

variable {jsonCpp : JsonCpp} {webRtc : WebRtc} {relay next : Relay}

/-- A checker whose timer calls back without a started timer does not run. -/
theorem kept_checkerTimer_stopped {task : CheckerTask} {checker : PeerConnectivityChecker}
    {timer : Timer CheckerTask} (present : relay.connectionChecker = some checker)
    (delivered : (checker.timer task).deliver = some timer) (stopped : timer.started = false) :
    Kept relay (relay.updateChecker (·.setTimer task timer)) := by
  apply kept_updateChecker
  intro other held running
  obtain rfl := Option.some.inj (present.symm.trans held)
  cases task with
  | startPing => exact running
  | sendPing => exact running
  | checkConnectivity =>
      have same := PeerConnectivityChecker.started_deliver running delivered
      rw [stopped] at same
      contradiction

/-- A checker runs on after one of its callbacks. -/
theorem kept_checkerTimer_finish {task : CheckerTask} {checker : PeerConnectivityChecker}
    {timer : Timer CheckerTask} (present : relay.connectionChecker = some checker)
    (delivered : (checker.timer task).deliver = some timer)
    (callback : PeerConnectivityChecker → PeerConnectivityChecker)
    (kept : ∀ checker, (callback checker).connectivityCheckTimer = checker.connectivityCheckTimer) :
    Kept relay (relay.updateChecker fun checker =>
      (callback (checker.setTimer task timer)).setTimer task
        ((callback (checker.setTimer task timer)).timer task).finish) := by
  apply kept_updateChecker
  intro other held running
  obtain rfl := Option.some.inj (present.symm.trans held)
  cases task with
  | startPing => exact (kept _).trans running
  | sendPing => exact (kept _).trans running
  | checkConnectivity =>
      change (callback _).connectivityCheckTimer.finish = _
      rw [kept]
      exact PeerConnectivityChecker.finish_deliver running delivered

/-- A callback acts on the relay, and then its timer goes on. -/
theorem onCheckerTimer_cases {task : CheckerTask} {now : Int}
    (steps : relay.onCheckerTimer task now = some next) :
    ∃ checker timer, relay.connectionChecker = some checker ∧ (checker.timer task).deliver = some timer ∧
      (timer.started = false ∧ next = relay.updateChecker (·.setTimer task timer) ∨
        ∃ (acted : Relay) (callback : PeerConnectivityChecker → PeerConnectivityChecker),
          (acted = relay ∨ acted = relay.emit (.sent ⟨.adapter, PeerConnectivityChecker.PingMessage⟩) ∨
            acted = relay.delayReinit 1) ∧
          (∀ checker, (callback checker).connectivityCheckTimer = checker.connectivityCheckTimer) ∧
          next = acted.updateChecker fun checker => (callback (checker.setTimer task timer)).setTimer task
            ((callback (checker.setTimer task timer)).timer task).finish) := by
  obtain ⟨checker, present, afterChecker⟩ := Option.bind_eq_some_iff.mp steps
  obtain ⟨timer, delivered, afterTimer⟩ := Option.bind_eq_some_iff.mp afterChecker
  refine ⟨checker, timer, present, delivered, ?_⟩
  simp only at afterTimer
  split at afterTimer
  · rename_i stopped
    exact .inl ⟨(Bool.not_eq_true' _).mp stopped, (Option.some.inj afterTimer).symm⟩
  · right
    obtain rfl := Option.some.inj afterTimer
    cases task with
    | startPing =>
        refine ⟨relay, (·.startPing), .inl rfl, fun _ => rfl, ?_⟩
        simp only [updateChecker_updateChecker]
        rfl
    | sendPing =>
        refine ⟨_, (·.sendPing now), .inr (.inl rfl), fun _ => rfl, ?_⟩
        simp only [emit_updateChecker, updateChecker_updateChecker]
        rfl
    | checkConnectivity =>
        simp only
        split
        · refine ⟨_, id, .inr (.inr rfl), fun _ => rfl, ?_⟩
          rw [delayReinit_updateChecker, updateChecker_updateChecker]
          rfl
        · refine ⟨relay, id, .inl rfl, fun _ => rfl, ?_⟩
          rw [updateChecker_updateChecker]
          rfl

theorem stepped_onCheckerTimer {task : CheckerTask} {now : Int}
    (steps : relay.onCheckerTimer task now = some next) :
    Stepped jsonCpp webRtc relay (.local (.checkerTimer task now)) next := by
  obtain ⟨checker, timer, present, delivered, last⟩ := onCheckerTimer_cases steps
  rcases last with ⟨stopped, rfl⟩ | ⟨acted, callback, rfl | rfl | rfl, keeps, rfl⟩
  · exact .kept (kept_checkerTimer_stopped present delivered stopped)
  · exact .kept (kept_checkerTimer_finish present delivered callback keeps)
  · let pinged := relay.emit (.sent ⟨.adapter, PeerConnectivityChecker.PingMessage⟩)
    have sent : Kept relay pinged := kept_emit relay (by simp)
    have held : pinged.connectionChecker = some checker := present
    exact .kept (sent.trans (kept_checkerTimer_finish held delivered callback keeps))
  · have held := (delayReinit_connectionChecker relay 1).trans present
    apply Stepped.lost
    · rw [present]
      rfl
    · exact kept_checkerTimer_finish held delivered callback keeps

/-- A delivered message without a callback is dropped, and a callback re-creates the peer connection. -/
theorem onReinitTimer_cases {creation : Creation} (steps : relay.onReinitTimer creation = some next) :
    ∃ timer, relay.reinitTimer.deliver = some timer ∧
      (timer.started = false ∧ next = { relay with reinitTimer := timer } ∨
        timer.started ∧ ∃ final, { relay with reinitTimer := timer }.reinitFunction creation = some final ∧
          next = { final with reinitTimer := final.reinitTimer.finish }) := by
  obtain ⟨timer, delivered, afterTimer⟩ := Option.bind_eq_some_iff.mp steps
  refine ⟨timer, delivered, ?_⟩
  simp only at afterTimer
  split at afterTimer
  · rename_i started
    obtain ⟨final, again, last⟩ := Option.bind_eq_some_iff.mp afterTimer
    exact .inr ⟨started, final, again, (Option.some.inj last).symm⟩
  · rename_i stopped
    exact .inl ⟨Bool.not_eq_true _ ▸ stopped, (Option.some.inj afterTimer).symm⟩

theorem stepped_onReinitTimer {creation : Creation} (steps : relay.onReinitTimer creation = some next) :
    Stepped jsonCpp webRtc relay (.local (.reinitTimer creation)) next := by
  obtain ⟨timer, delivered, ⟨stopped, rfl⟩ | ⟨started, final, again, rfl⟩⟩ := onReinitTimer_cases steps
  · exact .idle delivered stopped
  · exact .reinit delivered started again

/-- A description is set if it can be parsed. -/
def SetsDescription (relay next : Relay) : Prop := next = relay ∨ relay.setRemoteDescription = some next

theorem setsDescription_parses {parses : Bool}
    (steps : (if parses then relay.setRemoteDescription else some relay) = some next) : SetsDescription relay next := by
  split at steps
  · exact .inr steps
  · exact .inl (Option.some.inj steps).symm

/-- An answerer replaces its peer connection for a description. Everything else goes to the current one. -/
theorem addIceMessage_cases {iceMsg : Value} {creation : Creation}
    (steps : relay.addIceMessage jsonCpp webRtc iceMsg creation = some next) :
    (describes jsonCpp webRtc iceMsg ∧ relay.isOfferer = false ∧
        ∃ middle, relay.reinitPeerconnection creation = some middle ∧ SetsDescription middle next) ∨
      (describes jsonCpp webRtc iceMsg = false ∨ relay.isOfferer) ∧
        (SetsDescription relay next ∨ ∃ connection, relay.peerConnection = some connection ∧
          next = relay.emit (.addIceCandidate connection.number)) := by
  unfold addIceMessage at steps
  unfold describes
  split at steps
  · rename_i parses read
    rw [read]
    simp only at steps
    split at steps
    · rename_i answerer
      obtain ⟨middle, before, last⟩ := Option.bind_eq_some_iff.mp steps
      exact .inl ⟨rfl, (Bool.not_eq_true' _).mp answerer, middle, before, setsDescription_parses last⟩
    · rename_i offerer
      rw [Bool.not_eq_true', Bool.not_eq_false] at offerer
      exact .inr ⟨.inr offerer, .inl (setsDescription_parses steps)⟩
  · rename_i parses read
    rw [read]
    refine .inr ⟨.inl rfl, ?_⟩
    split at steps
    · rename_i connection present
      obtain rfl := Option.some.inj steps
      split
      · exact .inr ⟨connection, present, rfl⟩
      · exact .inl (.inl rfl)
    · exact .inl (.inl (Option.some.inj steps).symm)
  · rename_i read
    rw [read]
    exact .inr ⟨.inl rfl, .inl (.inl (Option.some.inj steps).symm)⟩
  · rename_i read
    rw [read]
    exact .inr ⟨.inl rfl, .inl (.inl (Option.some.inj steps).symm)⟩

theorem kept_setsDescription (described : SetsDescription relay next) : Kept relay next := by
  rcases described with rfl | sets
  · exact Kept.refl next
  · exact kept_setRemoteDescription sets

theorem stepped_addIceMessage {iceMsg : Value} {creation : Creation}
    (steps : relay.addIceMessage jsonCpp webRtc iceMsg creation = some next) :
    Stepped jsonCpp webRtc relay (.iceMessage iceMsg creation) next := by
  rcases addIceMessage_cases steps with ⟨describing, answerer, middle, reinits, described⟩ | ⟨_, described | added⟩
  · exact .replaced describing answerer reinits (kept_setsDescription described)
  · exact .kept (kept_setsDescription described)
  · obtain ⟨connection, _, rfl⟩ := added
    exact .kept (kept_emit relay (by simp))

theorem stepLocal_success {observer : Observer} {sdp : Bytes}
    (steps : relay.stepLocal (.success observer sdp) = some next) :
    next = (relay.settle observer).onSuccess observer sdp := by
  obtain ⟨connection, _, last⟩ := Option.bind_eq_some_iff.mp steps
  obtain ⟨_, last⟩ := Option.ite_none_right_eq_some.mp last
  exact (Option.some.inj last).symm

theorem stepLocal_failure {observer : Observer} (steps : relay.stepLocal (.failure observer) = some next) :
    next = relay.settle observer := by
  obtain ⟨connection, _, last⟩ := Option.bind_eq_some_iff.mp steps
  obtain ⟨_, last⟩ := Option.ite_none_right_eq_some.mp last
  exact (Option.some.inj last).symm

/-- Only a peer connection with a local description reports candidates. -/
theorem stepLocal_candidate {candidate sdpMid : Bytes} {sdpMLineIndex : Int}
    (steps : relay.stepLocal (.candidate candidate sdpMid sdpMLineIndex) = some next) :
    ∃ connection, relay.peerConnection = some connection ∧ connection.described ∧
      next = relay.emit (.iceMessage (candidateMessage candidate sdpMid sdpMLineIndex)) := by
  obtain ⟨connection, present, last⟩ := Option.bind_eq_some_iff.mp steps
  obtain ⟨described, last⟩ := Option.ite_none_right_eq_some.mp last
  exact ⟨connection, present, described, (Option.some.inj last).symm⟩

theorem stepLocal_dataChannel (steps : relay.stepLocal .dataChannel = some next) :
    ∃ number, next = { relay with dataChannel := some number } := by
  obtain ⟨connection, _, last⟩ := Option.bind_eq_some_iff.mp steps
  exact ⟨connection.number, (Option.some.inj last).symm⟩

theorem stepped_stepLocal {event : LocalEvent} (steps : relay.stepLocal event = some next) :
    Stepped jsonCpp webRtc relay (.local event) next := by
  cases event with
  | iceState state =>
      obtain ⟨present, reported⟩ := Option.ite_none_right_eq_some.mp steps
      exact .reported present reported
  | success observer sdp =>
      obtain rfl := stepLocal_success steps
      exact .kept ((kept_settle relay observer).trans (kept_onSuccess _ observer sdp))
  | failure observer =>
      obtain rfl := stepLocal_failure steps
      exact .kept (kept_settle relay observer)
  | candidate candidate sdpMid sdpMLineIndex =>
      obtain ⟨_, _, _, rfl⟩ := stepLocal_candidate steps
      exact .kept (kept_emit relay (by simp))
  | dataChannel =>
      obtain ⟨number, rfl⟩ := stepLocal_dataChannel steps
      exact .kept { Kept.refl relay with dataChannel := fun _ => Option.isSome_some }
  | reinitTimer creation => exact stepped_onReinitTimer steps
  | checkerTimer task now => exact stepped_onCheckerTimer steps
  | gameData data =>
      obtain rfl := Option.some.inj steps
      exact .kept (kept_onPeerdataFromGame relay data)

theorem stepped_handle {event : Event} (steps : relay.handle jsonCpp webRtc event = some next) :
    Stepped jsonCpp webRtc relay event next := by
  cases event with
  | «local» event => exact stepped_stepLocal steps
  | iceMessage iceMsg creation => exact stepped_addIceMessage steps
  | remoteMessage data now =>
      obtain ⟨_, last⟩ := Option.ite_none_right_eq_some.mp steps
      obtain rfl := Option.some.inj last
      exact .kept (kept_onRemoteMessage relay data now)

end Events

end Relay
end Faf
