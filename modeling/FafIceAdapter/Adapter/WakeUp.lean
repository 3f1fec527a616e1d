import FafIceAdapter.Adapter.Queue

namespace Faf
open Json Transition

namespace IceAdapter

/-- The oldest task is not a disconnect. -/
def Connects (gameTasks : List IceAdapterGameTask) : Prop :=
  ∀ task rest, gameTasks = task :: rest → task.task ≠ .DisconnectFromPeer

theorem Waits.connects {gameTasks : List IceAdapterGameTask} {gameState : Bytes}
    (waits : Waits gameTasks gameState) : Connects gameTasks := by
  intro task rest same
  subst same
  rcases waits with empty | ⟨first, others, same, kind, _⟩
  · contradiction
  · obtain ⟨rfl, _⟩ := List.cons.inj same
    exact kind

/-- A queue whose head is no disconnect waits in every state but the lobby. -/
theorem Connects.waits {gameTasks : List IceAdapterGameTask} {gameState : Bytes}
    (connects : Connects gameTasks) (outside : gameState ≠ bytes "Lobby") : Waits gameTasks gameState := by
  cases gameTasks with
  | nil => exact .inl rfl
  | cons task rest => exact .inr ⟨task, rest, rfl, connects task rest rfl, outside⟩

/-- Without a client the state is `None` and the connect task of every relay is still queued. -/
structure Idles (gameTasks : List IceAdapterGameTask) (gameState : Bytes) (relays : Relays) : Prop where
  unset : gameState = bytes "None"
  connects : Connects gameTasks
  relayed : gameTasks = [] → ∀ playerId, playerId ∉ relays

/-- With a client the queue waits for the lobby. -/
structure Wakes (connectedSockets : Finset Nat) (gameTasks : List IceAdapterGameTask) (gameState : Bytes)
    (relays : Relays) : Prop where
  idles : connectedSockets = ∅ → Idles gameTasks gameState relays
  waits : connectedSockets.Nonempty → Waits gameTasks gameState

def Wakeful (adapter : IceAdapter) : Prop :=
  Wakes adapter.connectedSockets adapter.gameTasks adapter.gpgnetGameState adapter.relays

/-- The loop leaves a queue that waits. -/
theorem wakeful_tryExecuteGameTasks {adapter : IceAdapter}
    (idles : adapter.connectedSockets = ∅ → Idles adapter.gameTasks adapter.gpgnetGameState adapter.relays) :
    Wakeful adapter.tryExecuteGameTasks := by
  obtain ⟨done, rest, observations, drains, same⟩ := adapter.tryExecuteGameTasks_spec
  rw [same]
  refine ⟨fun empty => ?_, fun client => drains.waits (decide_eq_true client)⟩
  have handled := drains.handled
  rw [drains.idle (decide_eq_false (Finset.not_nonempty_iff_eq_empty.mpr empty))] at handled
  cases handled
  have kept : adapter.gameTasks = rest := drains.split
  exact kept ▸ idles empty

/-- Queueing keeps the invariant, unless a disconnect becomes the oldest task without a client. The relays
do not matter once a task is queued. -/
theorem Wakeful.queueGameTask {adapter : IceAdapter} (wakeful : Wakeful adapter) (relays : Relays)
    (task : IceAdapterGameTask)
    (placed : adapter.connectedSockets = ∅ → adapter.gameTasks = [] → task.task ≠ .DisconnectFromPeer) :
    Wakeful ({ adapter with relays := relays }.queueGameTask task) := by
  apply wakeful_tryExecuteGameTasks
  intro empty
  obtain ⟨unset, connects, relayed⟩ := wakeful.idles empty
  refine ⟨unset, ?_, fun none => ?_⟩
  · intro first rest same
    change adapter.gameTasks ++ [task] = first :: rest at same
    cases tasks : adapter.gameTasks with
    | nil =>
        rw [tasks] at same
        rw [← (List.cons.inj same).1]
        exact placed empty tasks
    | cons head tail =>
        rw [tasks] at same
        rw [← (List.cons.inj same).1]
        exact connects head tail tasks
  · exact absurd none (List.append_ne_nil_of_right_ne_nil _ (List.cons_ne_nil _ _))

/-- Every step keeps the queue from missing a wake-up. -/
theorem Wakeful.step {jsonCpp : JsonCpp} {adapter next : IceAdapter} {event : Event}
    (wakeful : Wakeful adapter) (steps : step jsonCpp adapter event = some next) : Wakeful next := by
  cases stepped_of_step steps with
  | hosted map => exact wakeful.queueGameTask adapter.relays _ fun _ _ => by simp
  | joined login playerId port =>
      exact wakeful.queueGameTask _ ⟨.JoinGame, [], login, playerId⟩ fun _ _ => by simp
  | connected login playerId createOffer port =>
      exact wakeful.queueGameTask _ ⟨.ConnectToPeer, [], login, playerId⟩ fun _ _ => by simp
  | disconnected playerId present =>
      apply wakeful.queueGameTask
      intro empty none
      exact absurd present ((wakeful.idles empty).relayed none playerId)
  | iceServers iceServers stored =>
      refine ⟨fun empty => ?_, wakeful.waits⟩
      obtain ⟨unset, connects, relayed⟩ := wakeful.idles empty
      exact ⟨unset, connects, fun none playerId => by simpa using relayed none playerId⟩
  | accepted =>
      refine ⟨fun empty => absurd empty (Finset.insert_ne_empty _ _), fun _ => ?_⟩
      rcases Finset.eq_empty_or_nonempty adapter.connectedSockets with empty | client
      · obtain ⟨unset, connects, _⟩ := wakeful.idles empty
        have outside : adapter.gpgnetGameState ≠ bytes "Lobby" := by
          rw [unset]
          decide
        exact connects.waits outside
      · exact wakeful.waits client
  | gameState handler message gameState registered single text =>
      apply wakeful_tryExecuteGameTasks
      intro empty
      have client : adapter.connectedSockets ≠ ∅ := Finset.ne_empty_of_mem registered
      rw [answerGameState] at empty
      split at empty <;> exact absurd empty client
  | removed handler registered =>
      have connects := (wakeful.waits ⟨handler, registered⟩).connects
      refine ⟨fun _ => ⟨rfl, connects, fun _ _ => Std.ExtTreeMap.not_mem_empty⟩, fun _ => ?_⟩
      exact connects.waits (show bytes "None" ≠ bytes "Lobby" by decide)
  | _ => exact wakeful

theorem wakeful_reaches {jsonCpp : JsonCpp} {options : IceAdapterOptions} {freePort : Int}
    {allowed : IceAdapter → Event → Prop} {events : List Event} {adapter : IceAdapter}
    (run : (machine jsonCpp options freePort).Reaches allowed events adapter) : Wakeful adapter := by
  refine run.invariant Wakeful ⟨?_, fun client => absurd rfl client.ne_empty⟩
    fun wakeful _ steps => wakeful.step steps
  intro _
  exact ⟨rfl, by simp [Connects, machine, initial], fun _ _ => Std.ExtTreeMap.not_mem_empty⟩

/-- With a client the queue is empty, or its oldest task needs a lobby that the game has not reached. -/
theorem queue_wakes (jsonCpp : JsonCpp) (options : IceAdapterOptions) (freePort : Int)
    (events : List Event) (adapter : IceAdapter)
    (run : (machine jsonCpp options freePort).Reaches (fun _ _ => True) events adapter)
    (client : adapter.hasConnectedClient) :
    adapter.gameTasks = [] ∨ ∃ task rest, adapter.gameTasks = task :: rest ∧
      (task.task = .HostGame ∨ task.task = .JoinGame ∨ task.task = .ConnectToPeer) ∧
      adapter.gpgnetGameState ≠ bytes "Lobby" := by
  apply ((wakeful_reaches run).waits (of_decide_eq_true client)).imp id
  intro waiting
  obtain ⟨task, rest, same, kind, outside⟩ := waiting
  refine ⟨task, rest, same, ?_, outside⟩
  cases other : task.task <;> first | contradiction | simp

/-- A peer waits for the lobby after a map was hosted. -/
theorem queue_wakes_hosting :
    ∃ adapter, plainMachine.run hosting = some adapter ∧
      (adapter.gameTasks = [] ∨ ∃ task rest, adapter.gameTasks = task :: rest ∧
        (task.task = .HostGame ∨ task.task = .JoinGame ∨ task.task = .ConnectToPeer) ∧
        adapter.gpgnetGameState ≠ bytes "Lobby") :=
  ⟨_, rfl, queue_wakes _ _ _ hosting _
    (Machine.reaches_iff_run.mpr (show plainMachine.run hosting = some _ from rfl)) rfl⟩

end IceAdapter
end Faf
