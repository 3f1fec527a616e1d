import FafIceAdapter.System.GameLink

namespace Faf
open Json StreamReader Transition

/-- What a game learns from the messages that it reads. -/
def learned (messages : List GPGNetMessage) : Peers :=
  messages.foldl (fun peers message => message.tell peers) fun _ => none

/-- What a game learns once it reads all that is sent to its connection. -/
def announced (handler : Nat) (trace : List Observation) : Peers :=
  learned ((sentTo handler trace).map GPGNetMessage.readBack)

/-- A game reads from an observation what the observation tells. -/
def Observation.Tells (handler : Nat) (observation : Observation) : Prop :=
  ∀ peers : Peers, observe peers observation =
    ((observation.messageTo handler).map GPGNetMessage.readBack).elim peers fun message => message.tell peers

theorem announced_concat (handler : Nat) (trace : List Observation) (observation : Observation) :
    announced handler (trace ++ [observation]) = ((observation.messageTo handler).map GPGNetMessage.readBack).elim
      (announced handler trace) fun message => message.tell (announced handler trace) := by
  rw [announced, sentTo_append, List.map_append, learned, List.foldl_append]
  cases sends : observation.messageTo handler with
  | none => simp [sentTo, sends, announced, learned]
  | some message => simp [sentTo, sends, announced, learned]

theorem tells_silent {handler : Nat} {observation : Observation} (nothing : observation.messageTo handler = none)
    (same : ∀ peers, observe peers observation = peers) : observation.Tells handler := by
  intro peers
  rw [same, nothing]
  rfl

/-- The wire keeps what a task tells. -/
theorem Command.tell_readBack {relays : Relays} {task : IceAdapterGameTask} {message : GPGNetMessage}
    (command : Command relays task message) : message.readBack = message := by
  cases command <;> rfl

theorem Handled.tells {adapter : IceAdapter} {task : IceAdapterGameTask} {observation : Observation}
    (handled : Handled adapter task observation) {handler : Nat} (registered : handler ∈ adapter.connectedSockets) :
    observation.Tells handler := by
  intro peers
  cases handled with
  | sent command ready =>
      rw [Observation.messageTo, if_pos registered, Option.map_some, command.tell_readBack]
      rfl
  | dropped kind missing => rfl

namespace IceAdapter

/-- The connections are among the accepted ones, nothing was sent to a later one, and a game that reads everything
knows what its connection was told. -/
structure Informs (connectedSockets : Finset Nat) (accepted : Nat) (trace : List Observation) : Prop where
  below : ∀ handler ∈ connectedSockets, handler < accepted
  fresh : ∀ handler, accepted ≤ handler → sentTo handler trace = []
  informed : ∀ handler ∈ connectedSockets, announced handler trace = told trace

section Informing

variable {connectedSockets : Finset Nat} {accepted : Nat} {trace : List Observation}
  (informs : Informs connectedSockets accepted trace)
include informs

/-- An observation tells the game of a connection just what is sent to it. -/
theorem Informs.concat {observation : Observation}
    (tells : ∀ handler ∈ connectedSockets, observation.Tells handler)
    (closed : ∀ handler, observation.messageTo handler ≠ none → handler ∈ connectedSockets) :
    Informs connectedSockets accepted (trace ++ [observation]) where
  below := informs.below
  fresh handler later := by
    have unsent : observation.messageTo handler = none := by
      by_contra sends
      have before := informs.below handler (closed handler sends)
      omega
    rw [sentTo_append, informs.fresh handler later, sentTo, List.filterMap_cons_none unsent]
    rfl
  informed handler registered := by
    have same := tells handler registered (told trace)
    rw [announced_concat, told_append, informs.informed handler registered, List.foldl_cons, List.foldl_nil, same]

theorem Informs.silent {observation : Observation} (nothing : ∀ handler, observation.messageTo handler = none)
    (same : ∀ peers, observe peers observation = peers) :
    Informs connectedSockets accepted (trace ++ [observation]) :=
  informs.concat (fun handler _ => tells_silent (nothing handler) same) fun handler sends =>
    absurd (nothing handler) sends

/-- A connection that is gone is no longer among them. -/
theorem Informs.subset {others : Finset Nat} (fewer : others ⊆ connectedSockets) : Informs others accepted trace where
  below handler registered := informs.below handler (fewer registered)
  fresh := informs.fresh
  informed handler registered := informs.informed handler (fewer registered)

/-- A connection that is accepted alone knows nothing yet. -/
theorem Informs.accept : Informs {accepted} (accepted + 1) (trace ++ [.clientConnected accepted]) := by
  have unsent (handler : Nat) : sentTo handler (trace ++ [.clientConnected accepted]) = sentTo handler trace := by
    rw [sentTo_append]
    exact List.append_nil _
  refine ⟨fun handler own => by rw [Finset.mem_singleton.mp own]; omega, ?_, ?_⟩
  · intro handler later
    rw [unsent, informs.fresh handler (by omega)]
  · intro handler own
    rw [announced, unsent, Finset.mem_singleton.mp own, informs.fresh accepted le_rfl, told_append]
    rfl

end Informing

def Informing (adapter : IceAdapter) : Prop := Informs adapter.connectedSockets adapter.accepted adapter.trace

theorem informing_initial (options : IceAdapterOptions) (freePort : Int) : (initial options freePort).Informing :=
  ⟨fun handler own => absurd own (Finset.notMem_empty handler), fun _ _ => rfl,
    fun handler own => absurd own (Finset.notMem_empty handler)⟩

theorem agreeing_initial (options : IceAdapterOptions) (freePort : Int) : (initial options freePort).Agreeing := by
  refine ⟨fun first own => absurd own (Finset.notMem_empty first), ?_⟩
  funext playerId
  change none = ports ∅ playerId
  simp [ports]

theorem Informing.tryExecuteGameTasks {adapter : IceAdapter} (informing : adapter.Informing) :
    adapter.tryExecuteGameTasks.Informing := by
  obtain ⟨done, rest, observations, drains, same⟩ := adapter.tryExecuteGameTasks_spec
  rw [same]
  have handled := drains.handled
  clear drains same
  change Informs adapter.connectedSockets adapter.accepted (adapter.trace ++ observations)
  have start : Informs adapter.connectedSockets adapter.accepted adapter.trace := informing
  generalize adapter.trace = trace at start
  induction handled generalizing trace with
  | nil =>
      rw [List.append_nil]
      exact start
  | cons one _ ih =>
      rw [List.append_cons]
      apply ih
      refine start.concat (fun handler registered => one.tells registered) ?_
      intro handler sends
      cases one with
      | sent command ready =>
          by_contra other
          exact sends (if_neg other)
      | dropped kind missing => exact absurd rfl sends

theorem Informing.queueGameTask {adapter : IceAdapter} (informing : adapter.Informing) (relays : Relays)
    (task : IceAdapterGameTask) : ({ adapter with relays := relays }.queueGameTask task).Informing := by
  have pushed : ({ adapter with relays := relays }.pushTask task).Informing :=
    Informs.silent informing (fun _ => rfl) fun _ => rfl
  exact pushed.tryExecuteGameTasks

/-- The lobby message tells nothing about peers. -/
theorem Informing.answerGameState {adapter : IceAdapter} (informing : adapter.Informing) :
    adapter.answerGameState.Informing := by
  rw [IceAdapter.answerGameState]
  split
  · refine Informs.concat informing ?_ ?_
    · intro handler registered peers
      rw [Observation.messageTo, if_pos registered]
      rfl
    · intro handler sends
      by_contra other
      exact sends (if_neg other)
  · exact informing

theorem Informing.step {jsonCpp : JsonCpp} {adapter next : IceAdapter} {event : Event}
    (informing : adapter.Informing) (permits : Single adapter event)
    (steps : step jsonCpp adapter event = some next) : next.Informing := by
  cases stepped_of_step steps with
  | hosted map => exact informing.queueGameTask adapter.relays _
  | joined login playerId port => exact informing.queueGameTask _ _
  | connected login playerId createOffer port => exact informing.queueGameTask _ _
  | disconnected playerId present => exact informing.queueGameTask _ _
  | sentToGpgNet client encoded => contradiction
  | accepted =>
      have alone : adapter.connectedSockets = ∅ := permits
      have accepted := Informs.accept informing
      change Informs (insert adapter.accepted adapter.connectedSockets) (adapter.accepted + 1) _
      rw [alone, LawfulSingleton.insert_empty_eq]
      exact accepted.silent (fun _ => rfl) fun _ => rfl
  | notified handler message registered other =>
      have received :
          Informs adapter.connectedSockets adapter.accepted (adapter.trace ++ [.received handler message]) :=
        Informs.silent informing (fun _ => rfl) fun _ => rfl
      exact received.silent (fun _ => rfl) fun _ => rfl
  | gameState handler message gameState registered single text =>
      have received : { adapter.emit (.received handler message) with gpgnetGameState := gameState }.Informing :=
        Informs.silent informing (fun _ => rfl) fun _ => rfl
      exact Informs.silent received.answerGameState.tryExecuteGameTasks (fun _ => rfl) fun _ => rfl
  | removed handler registered =>
      have removed :
          Informs adapter.connectedSockets adapter.accepted (adapter.trace ++ [.clientDisconnected handler]) :=
        Informs.silent informing (fun _ => rfl) fun _ => rfl
      have fewer := removed.subset (Finset.erase_subset handler adapter.connectedSockets)
      exact fewer.silent (fun _ => rfl) fun _ => rfl
  | _ => exact informing

end IceAdapter

namespace GameLink

/-- Only one game is connected at a time, and the client sends no message of its own. -/
def Exclusive (link : GameLink) (event : Event) : Prop :=
  event.Bounded ∧
    match event with
    | .adapter event => IceAdapter.Single link.adapter event
    | .sends _ _ | .arrives _ _ | .reads _ _ => True

instance (link : GameLink) (event : Event) : Decidable (Exclusive link event) :=
  match event with
  | .adapter _ => inferInstanceAs (Decidable (_ ∧ _))
  | .sends _ _ | .arrives _ _ | .reads _ _ => inferInstanceAs (Decidable (_ ∧ True))

section Steps

variable {jsonCpp : JsonCpp} {link next : GameLink} {property : IceAdapter → Prop}
  {allowed : IceAdapter → IceAdapter.Event → Prop}
  (kept : ∀ {adapter event next}, property adapter → allowed adapter event →
    IceAdapter.step jsonCpp adapter event = some next → property next)
  (handled : ∀ {adapter : IceAdapter} {handler : Nat} {message : GPGNetMessage},
    allowed adapter (.clientMessage handler message))
include kept handled

/-- The adapter takes a step for each message of a read. -/
theorem keeps_messages {handler : Nat} (messages : List GPGNetMessage) (holds : property link.adapter)
    (handles : messages.foldlM (fun link message => link.perform jsonCpp (.clientMessage handler message)) link =
      some next) : property next.adapter := by
  induction messages generalizing link with
  | nil =>
      obtain rfl := Option.some.inj handles
      exact holds
  | cons message rest ih =>
      rw [List.foldlM_cons] at handles
      obtain ⟨middle, performs, others⟩ := Option.bind_eq_some_iff.mp handles
      obtain ⟨adapter, moves, last⟩ := Option.bind_eq_some_iff.mp performs
      obtain rfl := Option.some.inj last
      exact ih (kept holds handled moves) others

/-- What each step of the adapter keeps, the adapter keeps behind its byte streams. -/
theorem keeps_step {event : Event} (holds : property link.adapter)
    (permits : ∀ own, event = .adapter own → allowed link.adapter own)
    (steps : link.step jsonCpp event = some next) : property next.adapter := by
  cases event with
  | adapter event =>
      obtain ⟨adapter, moves, last⟩ := Option.bind_eq_some_iff.mp (Option.ite_none_left_eq_some.mp steps).2
      obtain rfl := Option.some.inj last
      exact kept holds (permits event rfl) moves
  | sends handler message =>
      obtain ⟨_, last⟩ := Option.ite_none_right_eq_some.mp steps
      obtain rfl := Option.some.inj last
      rw [sendMessage]
      split
      · exact holds
      · exact holds
  | arrives handler count =>
      obtain ⟨_, reads⟩ := Option.ite_none_right_eq_some.mp steps
      refine keeps_messages kept handled _ ?_ (Option.ite_none_left_eq_some.mp reads).2
      exact holds
  | reads handler count =>
      obtain ⟨_, reads⟩ := Option.ite_none_right_eq_some.mp steps
      obtain ⟨_, last⟩ := Option.ite_none_left_eq_some.mp reads
      obtain rfl := Option.some.inj last
      exact holds

end Steps

theorem Exclusive.single {link : GameLink} {event : Event} (permits : Exclusive link event) :
    ∀ own, event = .adapter own → IceAdapter.Single link.adapter own := by
  intro own same
  subst same
  exact permits.2

/-- A game that has read all bytes while no task waits knows the ports of the relays. -/
theorem Told.knows {link : GameLink} (told : Told link) (informing : link.adapter.Informing)
    (agreeing : link.adapter.Agreeing) {handler : Nat} (registered : handler ∈ link.adapter.connectedSockets)
    (empty : link.adapter.gameTasks = []) (arrived : (link.outgoing handler).transit = []) :
    learned (link.received handler) = ports link.adapter.relays := by
  have read := (told.outgoing handler).arrived (reads_each (told.moderate.sent handler)) arrived
  have replayed := agreeing.replayed
  rw [empty, IceAdapter.known, if_pos ⟨handler, registered⟩] at replayed
  rw [read, ← replayed]
  exact informing.informed handler registered

/-- In every run with one game at a time, a game that has read all bytes while no task waits knows exactly the peers
that have a relay, each by the port of its relay. -/
theorem link_informs (jsonCpp : JsonCpp) (options : IceAdapterOptions) (freePort : Int)
    (fitting : Fitting options freePort) (events : List Event) (link : GameLink)
    (run : (machine jsonCpp options freePort).Reaches Exclusive events link) (handler : Nat)
    (registered : handler ∈ link.adapter.connectedSockets) (empty : link.adapter.gameTasks = [])
    (arrived : (link.outgoing handler).transit = []) (playerId : Int) :
    learned (link.received handler) playerId =
      link.adapter.relays[playerId]?.map PeerRelay.localUdpSocketPort := by
  have told := told_reaches fitting (fun _ _ permits => permits.1) run
  have informing : link.adapter.Informing := by
    apply run.invariant (fun link => link.adapter.Informing) (IceAdapter.informing_initial options freePort)
    exact fun holds permits steps => keeps_step IceAdapter.Informing.step trivial holds permits.single steps
  have agreeing : link.adapter.Agreeing := by
    apply run.invariant (fun link => link.adapter.Agreeing) (IceAdapter.agreeing_initial options freePort)
    exact fun holds permits steps => keeps_step IceAdapter.Agreeing.step trivial holds permits.single steps
  exact congrFun (told.knows informing agreeing registered empty arrived) playerId

/-- A game comes to the lobby, one of its two peers is gone, and the game reads everything. -/
def gathering : List Event :=
  [.adapter (.connectToPeer (bytes "you") 2 true 6001), .adapter .newClient,
    .sends 0 ⟨bytes "GameState", [.stringValue (bytes "Lobby")]⟩, .arrives 0 9, .arrives 0 100,
    .adapter (.joinGame (bytes "host") 3 6002), .adapter (.disconnectFromPeer 2), .reads 0 31, .reads 0 200]

theorem link_informs_gathering :
    ∃ link, plainMachine.runWhere Exclusive gathering = some link ∧ learned (link.received 0) 3 = some 6002 ∧
      learned (link.received 0) 3 = link.adapter.relays[(3 : Int)]?.map PeerRelay.localUdpSocketPort := by
  have told : (plainMachine.runWhere Exclusive gathering).map (fun link =>
      (decide (0 ∈ link.adapter.connectedSockets), decide (link.adapter.gameTasks = []), (link.outgoing 0).transit,
        learned (link.received 0) 3)) = some (true, true, [], some 6002) := by
    decide +kernel
  obtain ⟨link, run, same⟩ := Option.map_eq_some_iff.mp told
  simp only [Prod.mk.injEq, decide_eq_true_eq] at same
  obtain ⟨registered, empty, arrived, knows⟩ := same
  have fitting : Fitting ⟨1, bytes "Rhiza", 6112⟩ 0 := ⟨by decide, by decide, by decide⟩
  exact ⟨link, run, knows, link_informs _ _ _ fitting gathering link (Machine.reaches_iff_runWhere.mpr run) 0
    registered empty arrived 3⟩

end GameLink
end Faf
