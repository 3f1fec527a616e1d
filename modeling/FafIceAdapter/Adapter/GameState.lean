import FafIceAdapter.Adapter.Queue

namespace Faf
open Json Transition

namespace IceAdapter

/-- The state that a registered connection reports with a message. -/
def reportedState (jsonCpp : JsonCpp) (registered : Finset Nat) : Observation → Option Bytes
  | .received handler message =>
      if handler ∈ registered then
        (gameStateOf message).bind fun chunk => (jsonCpp.asString chunk).toOption
      else none
  | _ => none

/-- The last state that one of the registered connections has reported. -/
def lastGameState (jsonCpp : JsonCpp) (trace : List Observation) (registered : Finset Nat) : Bytes :=
  ((trace.filterMap (reportedState jsonCpp registered)).getLast?).getD (bytes "None")

/-- The observation is no message of a game. -/
def Observation.Silent : Observation → Prop
  | .received _ _ => False
  | _ => True

/-- Nothing is received, and the connections and the game state are kept. -/
structure Quiet (adapter next : IceAdapter) : Prop where
  connectedSockets : next.connectedSockets = adapter.connectedSockets
  accepted : next.accepted = adapter.accepted
  gpgnetGameState : next.gpgnetGameState = adapter.gpgnetGameState
  trace : ∃ observations, (∀ observation ∈ observations, Observation.Silent observation) ∧
    next.trace = adapter.trace ++ observations

theorem Quiet.refl (adapter : IceAdapter) : Quiet adapter adapter :=
  ⟨rfl, rfl, rfl, [], List.forall_mem_nil _, (List.append_nil _).symm⟩

theorem Quiet.trans {adapter middle next : IceAdapter} (first : Quiet adapter middle)
    (second : Quiet middle next) : Quiet adapter next where
  connectedSockets := second.connectedSockets.trans first.connectedSockets
  accepted := second.accepted.trans first.accepted
  gpgnetGameState := second.gpgnetGameState.trans first.gpgnetGameState
  trace := by
    obtain ⟨observations, silent, same⟩ := first.trace
    obtain ⟨others, silent', same'⟩ := second.trace
    refine ⟨observations ++ others, List.forall_mem_append.mpr ⟨silent, silent'⟩, ?_⟩
    rw [same', same, List.append_assoc]

theorem quiet_emit (adapter : IceAdapter) {observation : Observation} (silent : Observation.Silent observation) :
    Quiet adapter (adapter.emit observation) :=
  ⟨rfl, rfl, rfl, [observation], List.forall_mem_singleton.mpr silent, rfl⟩

theorem quiet_tryExecuteGameTasks (adapter : IceAdapter) : Quiet adapter adapter.tryExecuteGameTasks := by
  obtain ⟨done, rest, observations, drains, same⟩ := adapter.tryExecuteGameTasks_spec
  rw [same]
  refine ⟨rfl, rfl, rfl, observations, ?_, rfl⟩
  have handled := drains.handled
  clear drains same
  induction handled with
  | nil => exact List.forall_mem_nil _
  | cons one _ ih =>
      refine List.forall_mem_cons.mpr ⟨?_, ih⟩
      cases one <;> trivial

theorem quiet_queueGameTask (adapter : IceAdapter) (relays : Relays) (task : IceAdapterGameTask) :
    Quiet adapter ({ adapter with relays := relays }.queueGameTask task) := by
  have pushed : Quiet adapter ({ adapter with relays := relays }.pushTask task) :=
    ⟨rfl, rfl, rfl, [.queued task], List.forall_mem_singleton.mpr trivial, rfl⟩
  exact pushed.trans (quiet_tryExecuteGameTasks _)

/-- The recorded state is the last one that a registered connection has reported, and no connection has
the number of a later one. -/
structure Tracks (jsonCpp : JsonCpp) (adapter : IceAdapter) : Prop where
  state : adapter.gpgnetGameState = lastGameState jsonCpp adapter.trace adapter.connectedSockets
  numbered : ∀ handler ∈ adapter.connectedSockets, handler < adapter.accepted
  known : ∀ handler message, .received handler message ∈ adapter.trace → handler < adapter.accepted

variable {jsonCpp : JsonCpp}

theorem lastGameState_silent {observations : List Observation}
    (silent : ∀ observation ∈ observations, Observation.Silent observation) (trace : List Observation)
    (registered : Finset Nat) :
    lastGameState jsonCpp (trace ++ observations) registered = lastGameState jsonCpp trace registered := by
  have none : observations.filterMap (reportedState jsonCpp registered) = [] := by
    apply List.filterMap_eq_nil_iff.mpr
    intro observation member
    have quiet := silent observation member
    cases observation <;> first | rfl | contradiction
  rw [lastGameState, List.filterMap_append, none, List.append_nil, lastGameState]

/-- A reported state replaces the last one. -/
theorem lastGameState_concat (trace : List Observation) (registered : Finset Nat) (observation : Observation) :
    lastGameState jsonCpp (trace ++ [observation]) registered =
      (reportedState jsonCpp registered observation).getD (lastGameState jsonCpp trace registered) := by
  rw [lastGameState, List.filterMap_append]
  cases reported : reportedState jsonCpp registered observation with
  | none => simp [reported, lastGameState]
  | some state => simp [reported]

theorem Tracks.quiet {adapter next : IceAdapter} (tracks : Tracks jsonCpp adapter) (quiet : Quiet adapter next) :
    Tracks jsonCpp next := by
  obtain ⟨observations, silent, same⟩ := quiet.trace
  refine ⟨?_, ?_, fun handler message member => ?_⟩
  · rw [quiet.gpgnetGameState, same, quiet.connectedSockets, lastGameState_silent silent]
    exact tracks.state
  · rw [quiet.connectedSockets, quiet.accepted]
    exact tracks.numbered
  · rw [same] at member
    rw [quiet.accepted]
    rcases List.mem_append.mp member with before | after
    · exact tracks.known handler message before
    · exact absurd (silent _ after) id

/-- A connection that has sent nothing yet reports nothing. -/
theorem lastGameState_insert {trace : List Observation} {handler : Nat}
    (fresh : ∀ message, .received handler message ∉ trace) (registered : Finset Nat) :
    lastGameState jsonCpp trace (insert handler registered) = lastGameState jsonCpp trace registered := by
  have same : trace.filterMap (reportedState jsonCpp (insert handler registered)) =
      trace.filterMap (reportedState jsonCpp registered) := by
    apply List.filterMap_congr
    intro observation member
    cases observation with
    | received other message =>
        have different : other ≠ handler := by
          intro same
          subst same
          exact fresh message member
        simp [reportedState, different]
    | _ => rfl
  rw [lastGameState, same, lastGameState]

/-- The connections that stay have reported no state but `None` when one is removed. -/
def RemovesLast (jsonCpp : JsonCpp) (adapter : IceAdapter) : Event → Prop
  | .removeClient handler =>
      lastGameState jsonCpp adapter.trace (adapter.connectedSockets.erase handler) = bytes "None"
  | _ => True

instance (jsonCpp : JsonCpp) (adapter : IceAdapter) (event : Event) :
    Decidable (RemovesLast jsonCpp adapter event) :=
  match event with
  | .removeClient handler => inferInstanceAs (Decidable
      (lastGameState jsonCpp adapter.trace (adapter.connectedSockets.erase handler) = bytes "None"))
  | .hostGame _ | .joinGame _ _ _ | .connectToPeer _ _ _ _ | .disconnectFromPeer _ | .setLobbyInitMode _
  | .sendToGpgNet _ | .setIceServers _ | .newClient | .clientMessage _ _ => instDecidableTrue

/-- A message of a registered connection is the last one that is received. -/
theorem Tracks.receive {adapter : IceAdapter} (tracks : Tracks jsonCpp adapter) {handler : Nat}
    (registered : handler ∈ adapter.connectedSockets) (message : GPGNetMessage) {gameState : Bytes}
    (reported : (((gameStateOf message).bind fun chunk => (jsonCpp.asString chunk).toOption).getD
      adapter.gpgnetGameState) = gameState) :
    Tracks jsonCpp { adapter.emit (.received handler message) with gpgnetGameState := gameState } := by
  refine ⟨?_, tracks.numbered, ?_⟩
  · have concat := @lastGameState_concat jsonCpp adapter.trace adapter.connectedSockets
      (.received handler message)
    rw [reportedState, if_pos registered, ← tracks.state, reported] at concat
    exact concat.symm
  · intro other sent member
    rcases List.mem_append.mp member with before | here
    · exact tracks.known other sent before
    · obtain ⟨rfl, _⟩ := Observation.received.inj (List.mem_singleton.mp here)
      exact tracks.numbered _ registered

/-- A new connection has a number of its own. -/
theorem Tracks.accept {adapter : IceAdapter} (tracks : Tracks jsonCpp adapter) :
    Tracks jsonCpp { adapter with
      connectedSockets := insert adapter.accepted adapter.connectedSockets
      accepted := adapter.accepted + 1 } := by
  have fresh : ∀ message, .received adapter.accepted message ∉ adapter.trace := fun message member =>
    lt_irrefl _ (tracks.known _ message member)
  constructor
  · exact tracks.state.trans (lastGameState_insert fresh _).symm
  · intro handler member
    rcases Finset.mem_insert.mp member with rfl | before
    · exact Nat.lt_succ_self _
    · exact Nat.lt_succ_of_lt (tracks.numbered handler before)
  · intro handler message member
    exact Nat.lt_succ_of_lt (tracks.known handler message member)

/-- The connections that stay have the state that the adapter resets to. -/
theorem Tracks.remove {adapter : IceAdapter} {handler : Nat} (tracks : Tracks jsonCpp adapter)
    (permits : RemovesLast jsonCpp adapter (.removeClient handler)) :
    Tracks jsonCpp { adapter with
      connectedSockets := adapter.connectedSockets.erase handler
      gpgnetGameState := bytes "None"
      gametaskString := bytes "Idle"
      relays := ∅ } := by
  constructor
  · exact permits.symm
  · intro other member
    exact tracks.numbered other (Finset.mem_of_mem_erase member)
  · exact tracks.known

theorem Tracks.step {adapter next : IceAdapter} {event : Event} (tracks : Tracks jsonCpp adapter)
    (permits : RemovesLast jsonCpp adapter event) (steps : step jsonCpp adapter event = some next) :
    Tracks jsonCpp next := by
  cases stepped_of_step steps with
  | hosted map =>
      have quiet := quiet_queueGameTask adapter adapter.relays ⟨.HostGame, map, [], 0⟩
      exact tracks.quiet ⟨quiet.connectedSockets, quiet.accepted, quiet.gpgnetGameState, quiet.trace⟩
  | joined login playerId port =>
      have quiet := quiet_queueGameTask adapter (addRelay playerId
        ⟨playerId, login, false, adapter.lobbyPort, adapter.iceServers, port⟩ adapter.relays)
        ⟨.JoinGame, [], login, playerId⟩
      exact tracks.quiet ⟨quiet.connectedSockets, quiet.accepted, quiet.gpgnetGameState, quiet.trace⟩
  | connected login playerId createOffer port => exact tracks.quiet (quiet_queueGameTask adapter _ _)
  | disconnected playerId present => exact tracks.quiet (quiet_queueGameTask adapter _ _)
  | sentToGpgNet client encoded => exact tracks.quiet (quiet_emit _ trivial)
  | accepted =>
      have silent : Observation.Silent (.clientConnected adapter.accepted) := trivial
      exact (tracks.accept.quiet (quiet_emit _ silent)).quiet (quiet_emit _ trivial)
  | notified handler message registered other =>
      have received : Tracks jsonCpp (adapter.emit (.received handler message)) :=
        tracks.receive registered message (by rw [other]; rfl)
      exact received.quiet (quiet_emit _ trivial)
  | gameState handler message gameState registered single text =>
      have received : Tracks jsonCpp
          { adapter.emit (.received handler message) with gpgnetGameState := gameState } :=
        tracks.receive registered message (by rw [single, Option.bind_some, text]; rfl)
      refine received.quiet (Quiet.trans (Quiet.trans ?_ (quiet_tryExecuteGameTasks _)) (quiet_emit _ trivial))
      rw [answerGameState]
      split
      · exact quiet_emit _ trivial
      · exact Quiet.refl _
  | removed handler registered =>
      have silent : Observation.Silent (.clientDisconnected handler) := trivial
      exact ((tracks.remove permits).quiet (quiet_emit _ silent)).quiet (quiet_emit _ trivial)
  | _ => exact ⟨tracks.state, tracks.numbered, tracks.known⟩

/-- When no connection with a state stays behind at a removal, the recorded state is the last reported one. -/
theorem gameState_tracks (jsonCpp : JsonCpp) (options : IceAdapterOptions) (freePort : Int)
    (events : List Event) (adapter : IceAdapter)
    (run : (machine jsonCpp options freePort).Reaches (RemovesLast jsonCpp) events adapter) :
    adapter.gpgnetGameState = lastGameState jsonCpp adapter.trace adapter.connectedSockets := by
  have start : Tracks jsonCpp (initial options freePort) := ⟨rfl, by simp [initial], by simp [initial]⟩
  have tracks := run.invariant (Tracks jsonCpp) start fun tracks permits steps => tracks.step permits steps
  exact tracks.state

/-- The old game is removed before the new one reaches the lobby. -/
def restarting : List Event := [.newClient, reports 0 "Launching", .newClient, .removeClient 0, reports 1 "Lobby"]

theorem gameState_tracks_restarting :
    ∃ adapter, plainMachine.runWhere (RemovesLast (Sample.jsonCpp fun _ => (false, .nullValue))) restarting =
        some adapter ∧ adapter.gpgnetGameState = bytes "Lobby" ∧
      adapter.gpgnetGameState = lastGameState (Sample.jsonCpp fun _ => (false, .nullValue)) adapter.trace
        adapter.connectedSockets :=
  ⟨_, rfl, rfl, gameState_tracks _ _ _ restarting _ (Machine.reaches_iff_runWhere.mpr
    (show plainMachine.runWhere (RemovesLast (Sample.jsonCpp fun _ => (false, .nullValue))) restarting = some _
      from rfl))⟩

/-- The removal of the old game hides that the new one is in the lobby. -/
theorem gameState_hidden : ¬ ∀ (jsonCpp : JsonCpp) (options : IceAdapterOptions) (freePort : Int)
    (events : List Event) (adapter : IceAdapter),
    (machine jsonCpp options freePort).Reaches (fun _ _ => True) events adapter →
      adapter.gpgnetGameState = lastGameState jsonCpp adapter.trace adapter.connectedSockets := by
  intro claim
  have run : plainMachine.run [.newClient, .newClient, reports 1 "Lobby", .removeClient 0] = some _ := rfl
  have hidden := claim _ _ _ _ _ (Machine.reaches_iff_run.mpr run)
  have different : bytes "None" ≠ bytes "Lobby" := by decide
  exact different hidden

end IceAdapter
end Faf
