import FafIceAdapter.Adapter.IceAdapter

namespace Faf
open Json Transition

/-- The message that the server sends for a task. -/
inductive Command (relays : Relays) (task : IceAdapterGameTask) : GPGNetMessage → Prop
  | hostGame (kind : task.task = .HostGame) : Command relays task (GPGNetServer.hostGame task.hostMap)
  | joinGame {relay : PeerRelay} (kind : task.task = .JoinGame) (found : relays[task.remoteId]? = some relay) :
      Command relays task
        (GPGNetServer.joinGame (loopback relay.localUdpSocketPort) task.remoteLogin task.remoteId)
  | connectToPeer {relay : PeerRelay} (kind : task.task = .ConnectToPeer)
      (found : relays[task.remoteId]? = some relay) :
      Command relays task
        (GPGNetServer.connectToPeer (loopback relay.localUdpSocketPort) task.remoteLogin task.remoteId)
  | disconnectFromPeer (kind : task.task = .DisconnectFromPeer) :
      Command relays task (GPGNetServer.disconnectFromPeer task.remoteId)

/-- The encoder does not throw on the message of a task, whose player id is an `int`. -/
theorem Command.toBinary {relays : Relays} {task : IceAdapterGameTask} {message : GPGNetMessage}
    (command : Command relays task message) (fits : FitsInt32 task.remoteId) (jsonCpp : JsonCpp) :
    message.toBinary jsonCpp = .ok message.encode := by
  refine (GPGNetMessage.toBinary_ok jsonCpp message _).mpr ⟨fun chunk member number same => ?_, rfl⟩
  have ids : chunk.integer = none ∨ chunk.integer = some task.remoteId := by
    cases command with
    | hostGame =>
        obtain rfl := List.mem_singleton.mp member
        exact .inl rfl
    | disconnectFromPeer =>
        obtain rfl := List.mem_singleton.mp member
        exact .inr rfl
    | _ =>
        rcases List.mem_cons.mp member with rfl | member
        · exact .inl rfl
        · rcases List.mem_cons.mp member with rfl | member
          · exact .inl rfl
          · obtain rfl := List.mem_singleton.mp member
            exact .inr rfl
  rcases ids with none | some
  · rw [none] at same
    contradiction
  · rw [some] at same
    exact Option.some.inj same ▸ fits

/-- How a task leaves the queue: it is sent, or its peer has no relay. -/
inductive Handled (adapter : IceAdapter) (task : IceAdapterGameTask) : Observation → Prop
  | sent {message : GPGNetMessage} (command : Command adapter.relays task message)
      (ready : task.task ≠ .DisconnectFromPeer → adapter.gpgnetGameState = bytes "Lobby") :
      Handled adapter task
        (.sent (some task) adapter.connectedSockets adapter.gpgnetGameState adapter.relays message)
  | dropped (kind : task.task = .JoinGame ∨ task.task = .ConnectToPeer)
      (missing : adapter.relays[task.remoteId]? = none) :
      Handled adapter task (.dropped task adapter.relays)

namespace IceAdapter

/-- A task that is executed is sent or dropped, and nothing else changes. -/
theorem executeTask_some {task : IceAdapterGameTask} {adapter next : IceAdapter}
    (executed : executeTask task adapter = some next) :
    ∃ observation, Handled adapter task observation ∧ next = adapter.emit observation := by
  rw [executeTask] at executed
  cases kind : task.task with
  | HostGame =>
      simp only [kind] at executed
      split at executed
      · contradiction
      · rename_i lobby
        exact ⟨_, .sent (.hostGame kind) fun _ => not_not.mp lobby, (Option.some.inj executed).symm⟩
  | DisconnectFromPeer =>
      simp only [kind] at executed
      exact ⟨_, .sent (.disconnectFromPeer kind) fun other => absurd kind other, (Option.some.inj executed).symm⟩
  | JoinGame =>
      simp only [kind, if_true] at executed
      split at executed
      · contradiction
      · rename_i lobby
        split at executed
        · rename_i missing
          exact ⟨_, .dropped (.inl kind) missing, (Option.some.inj executed).symm⟩
        · rename_i relay found
          exact ⟨_, .sent (.joinGame kind found) fun _ => not_not.mp lobby, (Option.some.inj executed).symm⟩
  | ConnectToPeer =>
      simp only [kind, reduceCtorEq, if_false] at executed
      split at executed
      · contradiction
      · rename_i lobby
        split at executed
        · rename_i missing
          exact ⟨_, .dropped (.inr kind) missing, (Option.some.inj executed).symm⟩
        · rename_i relay found
          exact ⟨_, .sent (.connectToPeer kind found) fun _ => not_not.mp lobby,
            (Option.some.inj executed).symm⟩

/-- Only a disconnect task can be executed outside of the lobby. -/
theorem executeTask_none {task : IceAdapterGameTask} {adapter : IceAdapter}
    (blocked : executeTask task adapter = none) :
    task.task ≠ .DisconnectFromPeer ∧ adapter.gpgnetGameState ≠ bytes "Lobby" := by
  rw [executeTask] at blocked
  cases kind : task.task with
  | DisconnectFromPeer => simp [kind] at blocked
  | HostGame =>
      simp only [kind] at blocked
      split at blocked
      · exact ⟨by decide, ‹_›⟩
      · contradiction
  | _ =>
      simp only [kind] at blocked
      split at blocked
      · exact ⟨by decide, ‹_›⟩
      · split at blocked
        · contradiction
        · split at blocked <;> contradiction

/-- The queue waits for the game: it is empty, or its head needs the lobby. -/
def Waits (gameTasks : List IceAdapterGameTask) (gameState : Bytes) : Prop :=
  gameTasks = [] ∨ ∃ task rest, gameTasks = task :: rest ∧ task.task ≠ .DisconnectFromPeer ∧
    gameState ≠ bytes "Lobby"

/-- The tasks that the loop executes, those that it keeps and what it reports. -/
structure Drains (adapter : IceAdapter) (done rest : List IceAdapterGameTask)
    (observations : List Observation) : Prop where
  split : adapter.gameTasks = done ++ rest
  handled : List.Forall₂ (Handled adapter) done observations
  idle : adapter.hasConnectedClient = false → observations = []
  waits : adapter.hasConnectedClient → Waits rest adapter.gpgnetGameState

/-- The loop has executed a part of the queue and changed nothing else. -/
def Progress (adapter : IceAdapter) (queue : List IceAdapterGameTask) (state : IceAdapter) : Prop :=
  ∃ done observations, adapter.gameTasks = done ++ queue ∧ List.Forall₂ (Handled adapter) done observations ∧
    state = { adapter with trace := adapter.trace ++ observations }

theorem Progress.execute {adapter state next : IceAdapter} {task : IceAdapterGameTask}
    {rest : List IceAdapterGameTask} (progress : adapter.Progress (task :: rest) state)
    (executed : executeTask task state = some next) : adapter.Progress rest next := by
  obtain ⟨done, observations, split, handled, rfl⟩ := progress
  obtain ⟨observation, one, rfl⟩ := executeTask_some executed
  have same : Handled adapter task observation := by
    cases one with
    | sent command ready => exact .sent command ready
    | dropped kind missing => exact .dropped kind missing
  refine ⟨done ++ [task], observations ++ [observation], by simp [split], ?_, by simp [emit]⟩
  exact List.rel_append handled (.cons same .nil)

/-- Appended observations are the only change besides the queue. -/
theorem tryExecuteGameTasks_spec (adapter : IceAdapter) :
    ∃ done rest observations, adapter.Drains done rest observations ∧
      adapter.tryExecuteGameTasks =
        { adapter with gameTasks := rest, trace := adapter.trace ++ observations } := by
  rw [tryExecuteGameTasks]
  cases client : adapter.hasConnectedClient with
  | false =>
      refine ⟨[], adapter.gameTasks, [], ⟨rfl, .nil, fun _ => rfl, ?_⟩, ?_⟩
      · rw [client]
        intro other
        contradiction
      · simp
  | true =>
      have start : adapter.Progress adapter.gameTasks adapter := ⟨[], [], rfl, .nil, by simp⟩
      have blocked := @WorkQueue.drain_blocked _ _ executeTask adapter.gameTasks adapter
      obtain ⟨done, observations, split, handled, final⟩ :=
        @WorkQueue.drain_invariant _ _ executeTask adapter.Progress Progress.execute _ _ start
      refine ⟨done, _, observations, ⟨split, handled, ?_, ?_⟩, ?_⟩
      · rw [client]
        intro other
        contradiction
      · intro _
        rcases blocked with empty | ⟨task, rest, same, stuck⟩
        · exact .inl empty
        · obtain ⟨kind, state⟩ := executeTask_none stuck
          rw [final] at state
          exact .inr ⟨task, rest, same, kind, state⟩
      · simp only [Bool.not_true, Bool.false_eq_true, if_false]
        rw [final]

/-- The relays after a new one was asked for. -/
def addRelay (playerId : Int) (relay : PeerRelay) (relays : Relays) : Relays :=
  if playerId ∈ relays then relays else relays.insert playerId relay

theorem createPeerRelay_spec (adapter : IceAdapter) (playerId : Int) (login : Bytes) (createOffer : Bool)
    (port : Nat) :
    adapter.createPeerRelay playerId login createOffer port = { adapter with
      relays := addRelay playerId
        ⟨playerId, login, createOffer, adapter.lobbyPort, adapter.iceServers, port⟩ adapter.relays } := by
  unfold createPeerRelay addRelay
  split <;> rfl

/-- What a step does, by its event and the branch that it takes. -/
inductive Stepped (jsonCpp : JsonCpp) (adapter : IceAdapter) : Event → IceAdapter → Prop
  | hosted (map : Bytes) :
      Stepped jsonCpp adapter (.hostGame map) { adapter.queueGameTask ⟨.HostGame, map, [], 0⟩ with
        gametaskString := bytes "Hosting map " ++ map ++ bytes "." }
  | joined (login : Bytes) (playerId : Int) (port : Nat) :
      Stepped jsonCpp adapter (.joinGame login playerId port)
        { { adapter with
            relays := addRelay playerId
              ⟨playerId, login, false, adapter.lobbyPort, adapter.iceServers, port⟩ adapter.relays }.queueGameTask
            ⟨.JoinGame, [], login, playerId⟩ with
          gametaskString := bytes "Joining game from player " ++ login ++ bytes "." }
  | connected (login : Bytes) (playerId : Int) (createOffer : Bool) (port : Nat) :
      Stepped jsonCpp adapter (.connectToPeer login playerId createOffer port)
        ({ adapter with
            relays := addRelay playerId
              ⟨playerId, login, createOffer, adapter.lobbyPort, adapter.iceServers, port⟩
              adapter.relays }.queueGameTask ⟨.ConnectToPeer, [], login, playerId⟩)
  | unknown {playerId : Int} (absent : playerId ∉ adapter.relays) :
      Stepped jsonCpp adapter (.disconnectFromPeer playerId) adapter
  | disconnected (playerId : Int) (present : playerId ∈ adapter.relays) :
      Stepped jsonCpp adapter (.disconnectFromPeer playerId)
        ({ adapter with relays := adapter.relays.erase playerId }.queueGameTask
          ⟨.DisconnectFromPeer, [], [], playerId⟩)
  | initMode (initMode : Bytes) :
      Stepped jsonCpp adapter (.setLobbyInitMode initMode) { adapter with lobbyInitMode := initMode }
  | unsent {message : GPGNetMessage}
      (stopped : adapter.hasConnectedClient = false ∨ ∃ exception, message.toBinary jsonCpp = .error exception) :
      Stepped jsonCpp adapter (.sendToGpgNet message) adapter
  | sentToGpgNet {message : GPGNetMessage} {binary : Bytes} (client : adapter.hasConnectedClient)
      (encoded : message.toBinary jsonCpp = .ok binary) :
      Stepped jsonCpp adapter (.sendToGpgNet message) (adapter.sendMessage none message)
  | interrupted {servers : Value} {iceServers : List IceServer} {exception : Exception}
      (stored : storeIceServers jsonCpp servers.elements = (iceServers, some exception)) :
      Stepped jsonCpp adapter (.setIceServers servers) { adapter with iceServers := iceServers }
  | iceServers {servers : Value} (iceServers : List IceServer)
      (stored : storeIceServers jsonCpp servers.elements = (iceServers, none)) :
      Stepped jsonCpp adapter (.setIceServers servers) { adapter with
        iceServers := iceServers
        relays := adapter.relays.map fun _ relay => relay.setIceServers iceServers }
  | accepted : Stepped jsonCpp adapter .newClient adapter.onNewClient
  | notified (handler : Nat) (message : GPGNetMessage) (registered : handler ∈ adapter.connectedSockets)
      (other : gameStateOf message = none) :
      Stepped jsonCpp adapter (.clientMessage handler message)
        ((adapter.emit (.received handler message)).notifyMessage message)
  | gameState (handler : Nat) (message : GPGNetMessage) {chunk : Value} (gameState : Bytes)
      (registered : handler ∈ adapter.connectedSockets) (single : gameStateOf message = some chunk)
      (text : jsonCpp.asString chunk = .ok gameState) :
      Stepped jsonCpp adapter (.clientMessage handler message)
        (((adapter.emit (.received handler message)).onGameState gameState).notifyMessage message)
  | removed (handler : Nat) (registered : handler ∈ adapter.connectedSockets) :
      Stepped jsonCpp adapter (.removeClient handler) (adapter.onMessage handler)

theorem stepped_of_step {jsonCpp : JsonCpp} {adapter next : IceAdapter} {event : Event}
    (steps : step jsonCpp adapter event = some next) : Stepped jsonCpp adapter event next := by
  cases event with
  | hostGame map =>
      obtain rfl := Option.some.inj steps
      exact .hosted map
  | joinGame login playerId port =>
      obtain rfl := Option.some.inj steps
      rw [joinGame, createPeerRelay_spec]
      exact .joined login playerId port
  | connectToPeer login playerId createOffer port =>
      obtain rfl := Option.some.inj steps
      rw [connectToPeer, createPeerRelay_spec]
      exact .connected login playerId createOffer port
  | disconnectFromPeer playerId =>
      obtain rfl := Option.some.inj steps
      rw [disconnectFromPeer]
      split
      · exact .unknown ‹_›
      · exact .disconnected playerId (not_not.mp ‹_›)
  | setLobbyInitMode initMode =>
      obtain rfl := Option.some.inj steps
      exact .initMode initMode
  | sendToGpgNet message =>
      obtain rfl := Option.some.inj steps
      rw [sendToGpgNet]
      cases client : adapter.hasConnectedClient with
      | false => exact .unsent (.inl client)
      | true =>
          cases encoded : message.toBinary jsonCpp with
          | error exception => exact .unsent (.inr ⟨exception, encoded⟩)
          | ok binary => exact .sentToGpgNet client encoded
  | setIceServers servers =>
      obtain rfl := Option.some.inj steps
      rw [setIceServers]
      split
      · exact .interrupted ‹_›
      · exact .iceServers _ ‹_›
  | newClient =>
      obtain rfl := Option.some.inj steps
      exact .accepted
  | clientMessage handler message =>
      rw [step] at steps
      split at steps
      · rename_i registered
        rw [onGpgNetMessage] at steps
        split at steps
        · obtain rfl := Option.some.inj steps
          exact .notified handler message registered ‹_›
        · split at steps
          · contradiction
          · obtain rfl := Option.some.inj steps
            exact .gameState handler message _ registered ‹_› ‹_›
      · contradiction
  | removeClient handler =>
      rw [step] at steps
      split at steps
      · obtain rfl := Option.some.inj steps
        exact .removed handler ‹_›
      · contradiction

end IceAdapter
end Faf
