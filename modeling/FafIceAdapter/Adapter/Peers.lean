import FafIceAdapter.Adapter.Queue

namespace Faf
open Json Transition

/-- A new connection knows no peer, and a message tells it about one. -/
def observe (peers : Peers) : Observation → Peers
  | .clientConnected _ => fun _ => none
  | .sent _ _ _ _ message => message.tell peers
  | _ => peers

/-- The peers that the game has been told of since its connection was accepted, with their ports. -/
def told (trace : List Observation) : Peers := trace.foldl observe fun _ => none

def ports (relays : Relays) : Peers := fun playerId => relays[playerId]?.map PeerRelay.localUdpSocketPort

/-- What a game learns when a task is executed while the relays have the given ports. -/
def perform (ports peers : Peers) (task : IceAdapterGameTask) : Peers :=
  match task.task with
  | .HostGame => peers
  | .JoinGame | .ConnectToPeer =>
      match ports task.remoteId with
      | some port => Function.update peers task.remoteId (some port)
      | none => peers
  | .DisconnectFromPeer => Function.update peers task.remoteId none

def replay (ports peers : Peers) (gameTasks : List IceAdapterGameTask) : Peers :=
  gameTasks.foldl (perform ports) peers

theorem told_append (trace observations : List Observation) :
    told (trace ++ observations) = observations.foldl observe (told trace) := List.foldl_append

theorem replay_append (ports peers : Peers) (first second : List IceAdapterGameTask) :
    replay ports peers (first ++ second) = replay ports (replay ports peers first) second := List.foldl_append

/-- A game learns from the handling of a task what the task performs. -/
theorem Handled.observe {adapter : IceAdapter} {task : IceAdapterGameTask} {observation : Observation}
    (handled : Handled adapter task observation) (peers : Peers) :
    observe peers observation = perform (ports adapter.relays) peers task := by
  cases handled with
  | sent command ready =>
      rw [Faf.observe, perform]
      cases command with
      | hostGame kind =>
          rw [kind]
          exact tell_hostGame peers _
      | joinGame kind found =>
          simp only [kind, ports, found, Option.map_some]
          exact tell_joinGame peers _ _ _
      | connectToPeer kind found =>
          simp only [kind, ports, found, Option.map_some]
          exact tell_connectToPeer peers _ _ _
      | disconnectFromPeer kind =>
          rw [kind]
          exact tell_disconnectFromPeer peers _
  | dropped kind missing =>
      change peers = _
      rw [perform]
      rcases kind with kind | kind <;> simp [kind, ports, missing]

/-- What one peer is told depends only on its own port. -/
theorem replay_congr {ports other peers : Peers} {playerId : Int} (same : other playerId = ports playerId)
    (gameTasks : List IceAdapterGameTask) :
    replay other peers gameTasks playerId = replay ports peers gameTasks playerId := by
  induction gameTasks using List.reverseRecOn with
  | nil => rfl
  | append_singleton rest task ih =>
      rw [replay_append, replay_append]
      change perform other _ task playerId = perform ports _ task playerId
      by_cases here : task.remoteId = playerId
      · rw [perform, perform, here, same]
        cases task.task <;> cases ports playerId <;> simp [ih]
      · have kept (ports peers : Peers) : perform ports peers task playerId = peers playerId := by
          rw [perform]
          cases task.task <;> cases ports task.remoteId <;> simp [Function.update_of_ne (Ne.symm here)]
        rw [kept, kept, ih]

/-- Without relays no task tells about a peer. -/
theorem replay_none (gameTasks : List IceAdapterGameTask) :
    replay (fun _ => none) (fun _ => none) gameTasks = fun _ => none := by
  induction gameTasks with
  | nil => rfl
  | cons task rest ih =>
      have one : perform (fun _ => none) (fun _ => none) task = fun _ => none := by
        rw [perform]
        cases task.task <;> simp
      rw [replay, List.foldl_cons, one]
      exact ih

namespace IceAdapter

/-- What the game knows when a client is connected. -/
def known (connectedSockets : Finset Nat) (trace : List Observation) : Peers :=
  if connectedSockets.Nonempty then told trace else fun _ => none

/-- There is at most one connection, and the tasks that wait will bring it up to date with the relays. -/
structure Agrees (connectedSockets : Finset Nat) (trace : List Observation)
    (gameTasks : List IceAdapterGameTask) (relays : Relays) : Prop where
  single : ∀ first ∈ connectedSockets, ∀ second ∈ connectedSockets, first = second
  replayed : replay (ports relays) (known connectedSockets trace) gameTasks = ports relays

def Agreeing (adapter : IceAdapter) : Prop :=
  Agrees adapter.connectedSockets adapter.trace adapter.gameTasks adapter.relays

theorem told_handled {adapter : IceAdapter} {done : List IceAdapterGameTask} {observations : List Observation}
    (handled : List.Forall₂ (Handled adapter) done observations) (peers : Peers) :
    observations.foldl observe peers = replay (ports adapter.relays) peers done := by
  induction handled generalizing peers with
  | nil => rfl
  | cons one _ ih =>
      rw [List.foldl_cons, one.observe peers, ih]
      rfl

/-- The loop tells what the executed tasks perform. -/
theorem Agreeing.tryExecuteGameTasks {adapter : IceAdapter} (agreeing : Agreeing adapter) :
    Agreeing adapter.tryExecuteGameTasks := by
  obtain ⟨done, rest, observations, drains, same⟩ := adapter.tryExecuteGameTasks_spec
  rw [same]
  have learned : known adapter.connectedSockets (adapter.trace ++ observations) =
      replay (ports adapter.relays) (known adapter.connectedSockets adapter.trace) done := by
    by_cases client : adapter.connectedSockets.Nonempty
    · rw [known, known, if_pos client, if_pos client, told_append, told_handled drains.handled]
    · have handled := drains.handled
      rw [drains.idle (decide_eq_false client)] at handled
      cases handled
      rw [known, known, if_neg client, if_neg client]
      rfl
  refine ⟨agreeing.single, ?_⟩
  change replay (ports adapter.relays) (known adapter.connectedSockets (adapter.trace ++ observations)) rest = _
  rw [learned, ← replay_append, ← drains.split]
  exact agreeing.replayed

/-- Queueing a task keeps the agreement when the new relays are what the task tells. -/
theorem Agreeing.queueGameTask {adapter : IceAdapter} (agreeing : Agreeing adapter) {relays : Relays}
    {task : IceAdapterGameTask}
    (performed : ∀ peers : Peers, (∀ playerId, ports relays playerId = ports adapter.relays playerId →
      peers playerId = ports adapter.relays playerId) → perform (ports relays) peers task = ports relays) :
    Agreeing ({ adapter with relays := relays }.queueGameTask task) := by
  refine Agreeing.tryExecuteGameTasks ⟨agreeing.single, ?_⟩
  have silent : known adapter.connectedSockets (adapter.trace ++ [.queued task]) =
      known adapter.connectedSockets adapter.trace := by
    rw [known, known, told_append]
    rfl
  change replay (ports relays) (known adapter.connectedSockets (adapter.trace ++ [.queued task]))
    (adapter.gameTasks ++ [task]) = ports relays
  rw [silent, replay_append]
  apply performed
  intro playerId same
  rw [replay_congr same, agreeing.replayed]

/-- A task that connects tells the port of a relay that is there or was just created. -/
theorem Agreeing.connect {adapter : IceAdapter} (agreeing : Agreeing adapter) {task : IceAdapterGameTask}
    (kind : task.task = .JoinGame ∨ task.task = .ConnectToPeer) (relay : PeerRelay) :
    Agreeing ({ adapter with relays := addRelay task.remoteId relay adapter.relays }.queueGameTask task) := by
  have present : ∃ port, ports (addRelay task.remoteId relay adapter.relays) task.remoteId = some port := by
    rw [addRelay]
    split
    · rename_i inside
      obtain ⟨found, same⟩ := Option.isSome_iff_exists.mp (Std.ExtTreeMap.mem_iff_isSome_getElem?.mp inside)
      exact ⟨found.localUdpSocketPort, by rw [ports, same]; rfl⟩
    · exact ⟨relay.localUdpSocketPort, by simp [ports]⟩
  have others (playerId : Int) (different : playerId ≠ task.remoteId) :
      ports (addRelay task.remoteId relay adapter.relays) playerId = ports adapter.relays playerId := by
    rw [addRelay]
    split
    · rfl
    · simp [ports, Std.ExtTreeMap.getElem?_insert, Ne.symm different]
  apply agreeing.queueGameTask
  intro peers agrees
  obtain ⟨port, same⟩ := present
  have performs (ports : Peers) (same : ports task.remoteId = some port) :
      perform ports peers task = Function.update peers task.remoteId (some port) := by
    rw [perform]
    rcases kind with kind | kind <;> simp only [kind, same]
  rw [performs _ same]
  funext playerId
  by_cases here : playerId = task.remoteId
  · rw [here, Function.update_self, same]
  · rw [Function.update_of_ne here, agrees playerId (others playerId here), others playerId here]

/-- A task that disconnects tells that the erased relay is gone. -/
theorem Agreeing.disconnect {adapter : IceAdapter} (agreeing : Agreeing adapter) (playerId : Int) :
    Agreeing ({ adapter with relays := adapter.relays.erase playerId }.queueGameTask
      ⟨.DisconnectFromPeer, [], [], playerId⟩) := by
  apply agreeing.queueGameTask
  intro peers agrees
  funext other
  change Function.update peers playerId none other = _
  by_cases here : other = playerId
  · rw [here, Function.update_self]
    simp [ports]
  · have kept : ports (adapter.relays.erase playerId) other = ports adapter.relays other := by
      simp [ports, Std.ExtTreeMap.getElem?_erase, Ne.symm here]
    rw [Function.update_of_ne here, agrees other kept, kept]

/-- An observation that tells nothing keeps the agreement. -/
theorem Agreeing.emit {adapter : IceAdapter} (agreeing : Agreeing adapter) {observation : Observation}
    (silent : ∀ peers, observe peers observation = peers) : Agreeing (adapter.emit observation) := by
  refine ⟨agreeing.single, ?_⟩
  have same : known adapter.connectedSockets (adapter.trace ++ [observation]) =
      known adapter.connectedSockets adapter.trace := by
    rw [known, known, told_append]
    simp only [List.foldl_cons, List.foldl_nil, silent]
  change replay _ (known adapter.connectedSockets (adapter.trace ++ [observation])) _ = _
  rw [same]
  exact agreeing.replayed

theorem ports_setIceServers (iceServers : List IceServer) (relays : Relays) :
    ports (relays.map fun _ relay => relay.setIceServers iceServers) = ports relays := by
  funext playerId
  rw [ports, ports, Std.ExtTreeMap.getElem?_map, Option.map_map]
  rfl

section Connecting

variable {trace : List Observation} {gameTasks : List IceAdapterGameTask} {relays : Relays}

/-- A client that connects alone knows of no peer. -/
theorem Agrees.accept (agrees : Agrees ∅ trace gameTasks relays) (handler : Nat) :
    Agrees (insert handler ∅) (trace ++ [.clientConnected handler]) gameTasks relays := by
  have before := agrees.replayed
  rw [known, if_neg Finset.not_nonempty_empty] at before
  have nothing : known (insert handler ∅) (trace ++ [.clientConnected handler]) = fun _ => none := by
    rw [known, if_pos (Finset.insert_nonempty _ _), told_append]
    rfl
  constructor
  · intro first member second member'
    rw [LawfulSingleton.insert_empty_eq, Finset.mem_singleton] at member member'
    rw [member, member']
  · rw [nothing]
    exact before

/-- The only connection is the one that is erased. -/
theorem Agrees.erase_eq_empty {connectedSockets : Finset Nat} {handler : Nat}
    (agrees : Agrees connectedSockets trace gameTasks relays) (registered : handler ∈ connectedSockets) :
    connectedSockets.erase handler = ∅ := by
  apply Finset.eq_empty_of_forall_notMem
  intro other member
  obtain ⟨different, inside⟩ := Finset.mem_erase.mp member
  exact different (agrees.single other inside handler registered)

/-- Without a connection and without relays the waiting tasks tell nothing. -/
theorem agrees_empty : Agrees ∅ trace gameTasks ∅ := by
  have noPorts : ports ∅ = fun _ => none := by
    funext playerId
    simp [ports]
  constructor
  · intro other member
    exact absurd member (Finset.notMem_empty other)
  · rw [known, if_neg Finset.not_nonempty_empty, noPorts]
    exact replay_none gameTasks

end Connecting

/-- A connection is accepted only while no other is registered, and the client sends no message of its own. -/
def Single (adapter : IceAdapter) : Event → Prop
  | .newClient => adapter.connectedSockets = ∅
  | .sendToGpgNet _ => False
  | _ => True

instance (adapter : IceAdapter) (event : Event) : Decidable (Single adapter event) :=
  match event with
  | .newClient => inferInstanceAs (Decidable (adapter.connectedSockets = ∅))
  | .sendToGpgNet _ => instDecidableFalse
  | .hostGame _ | .joinGame _ _ _ | .connectToPeer _ _ _ _ | .disconnectFromPeer _ | .setLobbyInitMode _
  | .setIceServers _ | .clientMessage _ _ | .removeClient _ => instDecidableTrue

theorem Agreeing.step {jsonCpp : JsonCpp} {adapter next : IceAdapter} {event : Event}
    (agreeing : Agreeing adapter) (permits : Single adapter event)
    (steps : step jsonCpp adapter event = some next) : Agreeing next := by
  cases stepped_of_step steps with
  | hosted map =>
      apply agreeing.queueGameTask
      intro peers agrees
      funext playerId
      exact agrees playerId rfl
  | joined login playerId port =>
      exact @Agreeing.connect adapter agreeing ⟨.JoinGame, [], login, playerId⟩ (.inl rfl) _
  | connected login playerId createOffer port =>
      exact @Agreeing.connect adapter agreeing ⟨.ConnectToPeer, [], login, playerId⟩ (.inr rfl) _
  | disconnected playerId present => exact agreeing.disconnect playerId
  | sentToGpgNet client encoded => contradiction
  | iceServers iceServers stored =>
      refine ⟨agreeing.single, ?_⟩
      change replay (ports (adapter.relays.map fun _ relay => relay.setIceServers iceServers)) _ _ = _
      rw [ports_setIceServers]
      exact agreeing.replayed
  | accepted =>
      have alone : adapter.connectedSockets = ∅ := permits
      have accepted : Agreeing ({ adapter with
          connectedSockets := insert adapter.accepted adapter.connectedSockets
          accepted := adapter.accepted + 1 }.emit (.clientConnected adapter.accepted)) := by
        unfold Agreeing at agreeing ⊢
        rw [alone] at agreeing ⊢
        exact agreeing.accept adapter.accepted
      exact accepted.emit fun _ => rfl
  | notified handler message registered other =>
      have received : Agreeing (adapter.emit (.received handler message)) := agreeing.emit fun _ => rfl
      exact received.emit fun _ => rfl
  | gameState handler message gameState registered single text =>
      have emitted : Agreeing (adapter.emit (.received handler message)) := agreeing.emit fun _ => rfl
      have received : Agreeing { adapter.emit (.received handler message) with gpgnetGameState := gameState } :=
        emitted
      refine Agreeing.emit (Agreeing.tryExecuteGameTasks ?_) fun _ => rfl
      rw [answerGameState]
      split
      · exact received.emit fun _ => rfl
      · exact received
  | removed handler registered =>
      have removed : Agreeing { adapter with
          connectedSockets := adapter.connectedSockets.erase handler
          gpgnetGameState := bytes "None"
          gametaskString := bytes "Idle"
          relays := ∅ } := by
        unfold Agreeing
        rw [agreeing.erase_eq_empty registered]
        exact agrees_empty
      have silent : ∀ peers, observe peers (.clientDisconnected handler) = peers := fun _ => rfl
      exact (removed.emit silent).emit fun _ => rfl
  | _ => exact agreeing

/-- When no task waits, the game knows exactly the peers that have a relay, each by the port of its relay. -/
theorem peers_agree (jsonCpp : JsonCpp) (options : IceAdapterOptions) (freePort : Int)
    (events : List Event) (adapter : IceAdapter)
    (run : (machine jsonCpp options freePort).Reaches Single events adapter)
    (client : adapter.hasConnectedClient) (empty : adapter.gameTasks = []) :
    ∀ playerId, told adapter.trace playerId =
      adapter.relays[playerId]?.map PeerRelay.localUdpSocketPort := by
  have start : Agreeing (initial options freePort) := by
    refine ⟨fun first member => absurd member (Finset.notMem_empty first), ?_⟩
    funext playerId
    change none = ports ∅ playerId
    simp [ports]
  have agreeing := run.invariant Agreeing start fun agreeing permits steps => agreeing.step permits steps
  have replayed := agreeing.replayed
  rw [empty, known, if_pos (of_decide_eq_true client)] at replayed
  exact fun playerId => congrFun replayed playerId

/-- A peer is connected, replaced and reached again by the port of its new relay. -/
def reconnecting : List Event :=
  [.connectToPeer (bytes "you") 2 true 6001, .newClient, .disconnectFromPeer 2,
    .joinGame (bytes "you") 2 6002, reports 0 "Lobby"]

theorem peers_agree_reconnecting :
    ∃ adapter, plainMachine.runWhere Single reconnecting = some adapter ∧ told adapter.trace 2 = some 6002 ∧
      ∀ playerId, told adapter.trace playerId =
        adapter.relays[playerId]?.map PeerRelay.localUdpSocketPort :=
  ⟨_, rfl, by decide, peers_agree _ _ _ reconnecting _ (Machine.reaches_iff_runWhere.mpr
    (show plainMachine.runWhere Single reconnecting = some _ from rfl)) rfl rfl⟩

end IceAdapter
end Faf
