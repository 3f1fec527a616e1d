import FafIceAdapter.Relay.PeerRelay

namespace Faf

/-- One message of a single shot is pending. -/
structure Timer.Armed {Callback : Type} (timer : Timer Callback) : Prop where
  started : timer.started
  single : timer.isSingleShot
  pending : ∃ delay, timer.pending = [delay]

/-- Nothing is pending. -/
structure Timer.Stopped {Callback : Type} (timer : Timer Callback) : Prop where
  started : timer.started = false
  pending : timer.pending = []

theorem Timer.started_deliver {Callback : Type} {timer next : Timer Callback}
    (delivered : timer.deliver = some next) : next.started = timer.started := by
  unfold Timer.deliver at delivered
  split at delivered
  · contradiction
  · obtain rfl := Option.some.inj delivered
    rfl

theorem Timer.Stopped.deliver {Callback : Type} {timer : Timer Callback} (stopped : timer.Stopped) :
    timer.deliver = none := by
  unfold Timer.deliver
  rw [stopped.pending]

/-- A single shot finds its callback and leaves a stopped timer. -/
theorem Timer.Armed.deliver {Callback : Type} {timer next : Timer Callback} (armed : timer.Armed)
    (delivered : timer.deliver = some next) : next.started ∧ next.finish.Stopped := by
  obtain ⟨delay, pending⟩ := armed.pending
  unfold Timer.deliver at delivered
  rw [pending] at delivered
  obtain rfl := Option.some.inj delivered
  refine ⟨armed.started, ?_⟩
  unfold Timer.finish
  rw [if_pos armed.single]
  exact ⟨rfl, rfl⟩

theorem Timer.armed_singleShot {Callback : Type} (timer : Timer Callback) (delay : Nat) (callback : Callback) :
    (timer.singleShot delay callback).Armed := ⟨rfl, rfl, delay, rfl⟩

/-- A timer is kept, or a stopped timer of an offerer is armed. -/
def Timer.Rearmed (isOfferer : Bool) (before after : Timer Unit) : Prop :=
  after = before ∨ isOfferer ∧ before.started = false ∧ after.Armed

theorem Timer.Rearmed.started {isOfferer : Bool} {before after : Timer Unit}
    (rearmed : Timer.Rearmed isOfferer before after) (started : before.started) : after = before := by
  rcases rearmed with same | ⟨_, stopped, _⟩
  · exact same
  · rw [started] at stopped
    contradiction

theorem Timer.Rearmed.trans {isOfferer : Bool} {before middle after : Timer Unit}
    (first : Timer.Rearmed isOfferer before middle) (second : Timer.Rearmed isOfferer middle after) :
    Timer.Rearmed isOfferer before after := by
  rcases first with rfl | ⟨offerer, stopped, armed⟩
  · exact second
  · rw [second.started armed.started]
    exact .inr ⟨offerer, stopped, armed⟩

theorem Timer.Rearmed.resting {isOfferer : Bool} {before after : Timer Unit}
    (rearmed : Timer.Rearmed isOfferer before after) (resting : before.Stopped ∨ before.Armed) :
    after.Stopped ∨ after.Armed := by
  rcases rearmed with rfl | ⟨_, _, armed⟩
  · exact resting
  · exact .inr armed

theorem Timer.Rearmed.armed {isOfferer : Bool} {before after : Timer Unit}
    (rearmed : Timer.Rearmed isOfferer before after) (armed : before.Armed) : after.Armed := by
  rw [rearmed.started armed.started]
  exact armed

theorem Timer.Rearmed.answerer {before after : Timer Unit} (rearmed : Timer.Rearmed false before after) :
    after = before := by
  rcases rearmed with same | ⟨offerer, _⟩
  · exact same
  · contradiction

/-- What a peer connection is apart from its reports. -/
def PeerConnection.unreported (connection : PeerConnection) : PeerConnection := { connection with reported := none }

/-- The effects of a reported state. -/
def Effect.isReport : Effect → Bool
  | .connected _ | .state _ => true
  | .scheduled pending => pending == 1
  | _ => false

theorem Effect.isReport_scheduled {pending : Nat} (report : (Effect.scheduled pending).isReport) : pending ≤ 1 :=
  Nat.le_of_eq (beq_iff_eq.mp report)

namespace Relay

/-- The step only adds effects of one kind. -/
def Adds (property : Effect → Prop) (relay next : Relay) : Prop :=
  ∃ others, next.effects = relay.effects ++ others ∧ ∀ effect ∈ others, property effect

section Adds

variable {property : Effect → Prop} {relay middle next : Relay}

theorem Adds.silent (effects : next.effects = relay.effects) : Adds property relay next :=
  ⟨[], by rw [effects, List.append_nil], List.forall_mem_nil _⟩

theorem Adds.trans (first : Adds property relay middle) (second : Adds property middle next) :
    Adds property relay next := by
  obtain ⟨earlier, same, kind⟩ := first
  obtain ⟨later, same', kind'⟩ := second
  refine ⟨earlier ++ later, by rw [same', same, List.append_assoc], ?_⟩
  intro effect member
  rcases List.mem_append.mp member with before | after
  · exact kind effect before
  · exact kind' effect after

theorem adds_emit {effect : Effect} (relay : Relay) (kind : property effect) :
    Adds property relay (relay.emit effect) := by
  refine ⟨[effect], rfl, ?_⟩
  intro other member
  rw [List.mem_singleton.mp member]
  exact kind

theorem Adds.mono {other : Effect → Prop} (adds : Adds property relay next)
    (weaker : ∀ effect, property effect → other effect) : Adds other relay next := by
  obtain ⟨others, same, kind⟩ := adds
  exact ⟨others, same, fun effect member => weaker effect (kind effect member)⟩

end Adds

/-- What reported states can do to a relay. The checker is only lost for a scheduled reinit. -/
structure Reported (relay next : Relay) : Prop where
  isOfferer : next.isOfferer = relay.isOfferer
  closing : next.closing = relay.closing
  created : next.created = relay.created
  dataChannel : next.dataChannel = relay.dataChannel
  localSdp : next.localSdp = relay.localSdp
  connection : next.peerConnection.map PeerConnection.unreported =
    relay.peerConnection.map PeerConnection.unreported
  timer : Timer.Rearmed relay.isOfferer relay.reinitTimer next.reinitTimer
  checker : next.connectionChecker = relay.connectionChecker ∨
    relay.isOfferer ∧ next.connectionChecker = none ∧ next.reinitTimer.started
  effects : Adds (fun effect => effect.isReport) relay next

theorem Reported.refl (relay : Relay) : Reported relay relay :=
  ⟨rfl, rfl, rfl, rfl, rfl, rfl, .inl rfl, .inl rfl, .silent rfl⟩

theorem Reported.trans {relay middle next : Relay} (first : Reported relay middle)
    (second : Reported middle next) : Reported relay next where
  isOfferer := second.isOfferer.trans first.isOfferer
  closing := second.closing.trans first.closing
  created := second.created.trans first.created
  dataChannel := second.dataChannel.trans first.dataChannel
  localSdp := second.localSdp.trans first.localSdp
  connection := second.connection.trans first.connection
  timer := first.timer.trans (first.isOfferer ▸ second.timer)
  checker := by
    rcases second.checker with same | ⟨offerer, lost, started⟩
    · rcases first.checker with same' | ⟨offerer, lost, started⟩
      · exact .inl (same.trans same')
      · right
        rw [second.timer.started started, same]
        exact ⟨offerer, lost, started⟩
    · rw [first.isOfferer] at offerer
      exact .inr ⟨offerer, lost, started⟩
  effects := first.effects.trans second.effects

theorem Reported.emit {relay next : Relay} (reported : Reported relay next) {effect : Effect}
    (quiet : effect.isReport) : Reported relay (next.emit effect) where
  isOfferer := reported.isOfferer
  closing := reported.closing
  created := reported.created
  dataChannel := reported.dataChannel
  localSdp := reported.localSdp
  connection := reported.connection
  timer := reported.timer
  checker := reported.checker
  effects := reported.effects.trans (adds_emit next quiet)

theorem Reported.checker_answerer {relay next : Relay} (reported : Reported relay next)
    (answerer : relay.isOfferer = false) : next.connectionChecker = relay.connectionChecker := by
  rcases reported.checker with same | ⟨offerer, _⟩
  · exact same
  · rw [answerer] at offerer
    contradiction

theorem reported_report (relay : Relay) (state : IceState) : Reported relay (relay.report state) := by
  have connection : (relay.report state).peerConnection.map PeerConnection.unreported =
      relay.peerConnection.map PeerConnection.unreported := by
    rw [report, updateConnection, Option.map_map]
    rfl
  exact { Reported.refl relay with connection := connection }

theorem reported_setConnected {relay next : Relay} {connected : Bool}
    (steps : relay.setConnected connected = some next) : Reported relay next := by
  unfold setConnected at steps
  split at steps
  · contradiction
  · split at steps
    · obtain rfl := Option.some.inj steps
      have stored : Reported relay
          { relay with isConnected := connected, connectedCallback := some connected } :=
        { Reported.refl relay with }
      exact stored.emit rfl
    · obtain rfl := Option.some.inj steps
      exact Reported.refl relay

/-- A lost connection of an offerer takes its checker and leaves a scheduled reinit. -/
theorem reported_lost {relay : Relay} (offerer : relay.isOfferer) (idle : relay.closing = false) (delayMs : Nat) :
    Reported relay ({ relay with connectionChecker := none }.delayReinit delayMs) := by
  unfold delayReinit
  split
  · rename_i guarded
    have started : relay.reinitTimer.started := by simpa [idle] using guarded
    exact { Reported.refl relay with checker := .inr ⟨offerer, rfl, started⟩ }
  · rename_i guarded
    have stopped : relay.reinitTimer.started = false := by simpa [idle] using guarded
    have armed := Timer.armed_singleShot relay.reinitTimer delayMs ()
    have scheduled : Reported relay
        { relay with
          connectionChecker := none, reinitTimer := relay.reinitTimer.singleShot delayMs () } :=
      { Reported.refl relay with
        timer := .inr ⟨offerer, stopped, armed⟩, checker := .inr ⟨offerer, rfl, armed.started⟩ }
    exact scheduled.emit (show (Effect.scheduled 1).isReport from rfl)

/-- A checker that lost its connectivity leaves a scheduled reinit. -/
theorem reported_delayReinit {relay : Relay} (offerer : relay.isOfferer) (delayMs : Nat) :
    Reported relay (relay.delayReinit delayMs) := by
  unfold delayReinit
  split
  · exact Reported.refl relay
  · rename_i stopped
    rw [Bool.not_eq_true, Bool.or_eq_false_iff] at stopped
    have armed := Timer.armed_singleShot relay.reinitTimer delayMs ()
    have scheduled : Reported relay { relay with reinitTimer := relay.reinitTimer.singleShot delayMs () } :=
      { Reported.refl relay with timer := .inr ⟨offerer, stopped.2, armed⟩, checker := .inl rfl }
    exact scheduled.emit (show (Effect.scheduled 1).isReport from rfl)

/-- A state is only stored, or it is reported and may lose the connection. -/
theorem setIceState_cases {relay next : Relay} {state : IceState}
    (steps : relay.setIceState state = some next) :
    relay.closing ∧ next = relay.report state ∨
      relay.closing = false ∧ ∃ middle,
        (relay.report state).setConnected state.isConnected = some middle ∧
          (next = middle.emit (.state state) ∨
            middle.isOfferer ∧
              next = { middle.emit (.state state) with connectionChecker := none }.delayReinit 100) := by
  unfold setIceState at steps
  simp only at steps
  split at steps
  · rename_i closing
    exact .inl ⟨closing, (Option.some.inj steps).symm⟩
  · rename_i idle
    right
    obtain ⟨middle, connected, later⟩ := Option.bind_eq_some_iff.mp steps
    refine ⟨Bool.not_eq_true _ ▸ idle, middle, connected, ?_⟩
    split at later
    · rename_i lost
      exact .inr ⟨(Bool.and_eq_true_iff.mp lost).1, (Option.some.inj later).symm⟩
    · exact .inl (Option.some.inj later).symm

theorem reported_setIceState {relay next : Relay} {state : IceState}
    (steps : relay.setIceState state = some next) : Reported relay next := by
  have stored := reported_report relay state
  rcases setIceState_cases steps with ⟨_, rfl⟩ | ⟨idle, middle, connected, last⟩
  · exact stored
  · have told := (stored.trans (reported_setConnected connected)).emit
      (show (Effect.state state).isReport from rfl)
    rcases last with rfl | ⟨offerer, rfl⟩
    · exact told
    · exact told.trans (@reported_lost (middle.emit (.state state)) offerer (told.closing.trans idle) 100)

theorem reported_setIceStates {states : List IceState} {relay next : Relay}
    (steps : relay.setIceStates states = some next) : Reported relay next := by
  induction states generalizing relay with
  | nil =>
      obtain rfl := Option.some.inj steps
      exact Reported.refl relay
  | cons state rest ih =>
      obtain ⟨middle, first, later⟩ := Option.bind_eq_some_iff.mp steps
      exact (reported_setIceState first).trans (ih later)

/-- The states that are reported while the relay closes are only stored. -/
theorem setIceStates_closing {states : List IceState} {relay : Relay} (closing : relay.closing) :
    ∃ iceState connection, relay.setIceStates states =
      some { relay with iceState := iceState, peerConnection := connection } := by
  induction states generalizing relay with
  | nil => exact ⟨relay.iceState, relay.peerConnection, rfl⟩
  | cons state rest ih =>
      have stored : relay.setIceState state = some (relay.report state) := by
        unfold setIceState
        exact if_pos closing
      obtain ⟨iceState, connection, later⟩ := @ih (relay.report state) closing
      refine ⟨iceState, connection, ?_⟩
      rw [setIceStates, List.foldlM_cons, stored]
      exact later

/-- A closed relay keeps everything but its peer connection, its data channel and its checker. -/
theorem close_eq (states : List IceState) (relay : Relay) :
    ∃ iceState, relay.close states = some { relay with
      iceState := iceState, peerConnection := none, dataChannel := none, connectionChecker := none,
      closing := false } := by
  unfold close
  simp only
  split
  · obtain ⟨iceState, connection, stored⟩ := @setIceStates_closing states
      { relay with closing := true, connectionChecker := none, dataChannel := none } rfl
    refine ⟨iceState, ?_⟩
    rw [stored]
    rfl
  · exact ⟨relay.iceState, rfl⟩

/-- A checker checks the connectivity again and again. -/
def Checking (relay : Relay) : Prop := ∀ checker, relay.connectionChecker = some checker → checker.Running

/-- What the re-creation of the peer connection does. Only the offerer has a data channel and a checker. -/
structure Recreated (relay next : Relay) : Prop where
  isOfferer : next.isOfferer = relay.isOfferer
  closing : next.closing = false
  created : next.created = relay.created + 1
  connection : next.peerConnection.map PeerConnection.unreported =
    some ⟨relay.created + 1, if relay.isOfferer then [.createOffer] else [], false, none⟩
  dataChannel : next.dataChannel = if relay.isOfferer then some (relay.created + 1) else none
  timer : Timer.Rearmed relay.isOfferer relay.reinitTimer next.reinitTimer
  checker : next.connectionChecker.isSome = relay.isOfferer
  checking : next.Checking
  effects : Adds (fun effect => effect.isReport ∨ effect = .created (relay.created + 1)) relay next

/-- The steps of the closure. -/
theorem reinitFunction_cases {relay next : Relay} {creation : Creation}
    (steps : relay.reinitFunction creation = some next) :
    ∃ iceState middle final,
      { relay with
        iceState := iceState, peerConnection := none, dataChannel := none, connectionChecker := none,
        closing := false }.setIceStates creation.early = some middle ∧
      (relay.isOfferer ∧ middle.createPeerConnection.createOffer.setIceStates creation.later = some final ∧
          next = { final with connectionChecker := some (.create final.created creation.now) } ∨
        relay.isOfferer = false ∧ middle.createPeerConnection.setIceStates creation.later = some final ∧
          next = final) := by
  obtain ⟨closed, shut, afterClose⟩ := Option.bind_eq_some_iff.mp steps
  obtain ⟨iceState, same⟩ := close_eq creation.closing relay
  obtain rfl := Option.some.inj (same.symm.trans shut)
  obtain ⟨middle, early, afterEarly⟩ := Option.bind_eq_some_iff.mp afterClose
  have role : middle.createPeerConnection.isOfferer = relay.isOfferer := (reported_setIceStates early).isOfferer
  simp only [role] at afterEarly
  split at afterEarly
  · rename_i offerer
    obtain ⟨final, later, last⟩ := Option.bind_eq_some_iff.mp afterEarly
    exact ⟨iceState, middle, final, early, .inl ⟨offerer, later, (Option.some.inj last).symm⟩⟩
  · rename_i answerer
    exact ⟨iceState, middle, next, early, .inr ⟨Bool.not_eq_true _ ▸ answerer, afterEarly, rfl⟩⟩

/-- Reports come before and after the creation of a peer connection. -/
theorem adds_recreated {relay middle held final : Relay} {number : Nat}
    (before : Adds (fun effect => effect.isReport) relay middle)
    (creates : held.effects = middle.effects ++ [.created number])
    (after : Adds (fun effect => effect.isReport) held final) :
    Adds (fun effect => effect.isReport ∨ effect = .created number) relay final := by
  have reports : Adds (fun effect => effect.isReport ∨ effect = .created number) relay middle :=
    before.mono fun _ => .inl
  have creation : Adds (fun effect => effect.isReport ∨ effect = .created number) middle held := by
    refine ⟨[.created number], creates, ?_⟩
    intro effect member
    exact .inr (List.mem_singleton.mp member)
  exact (reports.trans creation).trans (after.mono fun _ => .inl)

theorem recreated_reinitFunction {relay next : Relay} {creation : Creation}
    (steps : relay.reinitFunction creation = some next) : Recreated relay next := by
  obtain ⟨iceState, middle, final, early, last⟩ := reinitFunction_cases steps
  have before := reported_setIceStates early
  have count : middle.created = relay.created := before.created
  have idle : middle.closing = false := before.closing
  have role : middle.isOfferer = relay.isOfferer := before.isOfferer
  have creates : middle.createPeerConnection.effects = middle.effects ++ [.created (relay.created + 1)] := by
    rw [← count]
    rfl
  rcases last with ⟨offerer, later, rfl⟩ | ⟨answerer, later, rfl⟩
  · have after := reported_setIceStates later
    constructor
    · exact after.isOfferer.trans role
    · exact after.closing.trans idle
    · exact after.created.trans (congrArg (· + 1) count)
    · rw [if_pos offerer, ← count]
      exact after.connection
    · rw [if_pos offerer, ← count]
      exact after.dataChannel
    · exact before.timer.trans (role ▸ after.timer)
    · rw [offerer]
      rfl
    · intro checker present
      obtain rfl := Option.some.inj present
      rfl
    · exact @adds_recreated _ _ middle.createPeerConnection.createOffer _ _ before.effects creates after.effects
  · have after := reported_setIceStates later
    have role' : middle.createPeerConnection.isOfferer = false := role.trans answerer
    have kept : next.connectionChecker = none := by
      rw [after.checker_answerer role']
      exact before.checker_answerer answerer
    constructor
    · exact after.isOfferer.trans role
    · exact after.closing.trans idle
    · exact after.created.trans (congrArg (· + 1) count)
    · rw [answerer, if_neg Bool.false_ne_true, ← count]
      exact after.connection
    · rw [answerer, if_neg Bool.false_ne_true]
      exact after.dataChannel.trans before.dataChannel
    · exact before.timer.trans (role ▸ after.timer)
    · rw [kept, answerer]
      rfl
    · intro checker present
      rw [kept] at present
      contradiction
    · exact adds_recreated before.effects creates after.effects

end Relay
end Faf
