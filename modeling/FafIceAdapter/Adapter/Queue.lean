import FafIceAdapter.Adapter.Effects
import FafIceAdapter.Json.Sample

namespace Faf
open Json Transition

/-- The tasks that were ever queued, in order. -/
def queuedTasks (trace : List Observation) : List IceAdapterGameTask :=
  trace.filterMap fun
    | .queued task => some task
    | _ => none

/-- The tasks that left the queue, in order. -/
def handledTasks (trace : List Observation) : List IceAdapterGameTask :=
  trace.filterMap fun
    | .sent (some task) _ _ _ _ => some task
    | .dropped task _ => some task
    | _ => none

/-- A task is sent as the message that the relays of that moment give it, and it is dropped only when they
lack its peer. A task other than a disconnect is sent only while a client is connected and its game is in
the lobby. -/
def Observation.Lawful : Observation → Prop
  | .sent (some task) receivers gameState relays message =>
      Command relays task message ∧
        (task.task ≠ .DisconnectFromPeer → receivers.Nonempty ∧ gameState = bytes "Lobby")
  | .dropped task relays =>
      (task.task = .JoinGame ∨ task.task = .ConnectToPeer) ∧ relays[task.remoteId]? = none
  | _ => True

/-- The observations that do not concern the queue and the removal of connections. -/
def Observation.Neutral : Observation → Prop
  | .clientConnected _ | .received _ _ | .sent none _ _ _ _ | .requested _ _ => True
  | _ => False

@[simp] theorem queuedTasks_append (first second : List Observation) :
    queuedTasks (first ++ second) = queuedTasks first ++ queuedTasks second := List.filterMap_append

@[simp] theorem handledTasks_append (first second : List Observation) :
    handledTasks (first ++ second) = handledTasks first ++ handledTasks second := List.filterMap_append

theorem Observation.Neutral.tasks {observation : Observation} (neutral : observation.Neutral) :
    queuedTasks [observation] = [] ∧ handledTasks [observation] = [] ∧ observation.Lawful := by
  cases observation with
  | sent task => cases task <;> first | contradiction | exact ⟨rfl, rfl, trivial⟩
  | queued => contradiction
  | dropped => contradiction
  | clientDisconnected => contradiction
  | _ => exact ⟨rfl, rfl, trivial⟩

theorem Handled.tasks {adapter : IceAdapter} {task : IceAdapterGameTask} {observation : Observation}
    (handled : Handled adapter task observation) (client : adapter.hasConnectedClient) :
    queuedTasks [observation] = [] ∧ handledTasks [observation] = [task] ∧ observation.Lawful := by
  cases handled with
  | sent command ready => exact ⟨rfl, rfl, command, fun kind => ⟨of_decide_eq_true client, ready kind⟩⟩
  | dropped kind missing => exact ⟨rfl, rfl, kind, missing⟩

namespace IceAdapter

/-- What the parts of a step do to the history and the queue. A property that they preserve is preserved
by every step. -/
structure Historical (property : List Observation → List IceAdapterGameTask → Prop) : Prop where
  neutral : ∀ {trace queue observation}, property trace queue → observation.Neutral →
    property (trace ++ [observation]) queue
  queued : ∀ {trace queue} task, property trace queue → property (trace ++ [.queued task]) (queue ++ [task])
  handled : ∀ {adapter trace queue task observation}, property trace (task :: queue) →
    Handled adapter task observation → adapter.hasConnectedClient → property (trace ++ [observation]) queue

namespace Historical

variable {property : List Observation → List IceAdapterGameTask → Prop} (historical : Historical property)
include historical

/-- The loop preserves the property. -/
theorem tryExecuteGameTasks {adapter : IceAdapter} (holds : property adapter.trace adapter.gameTasks) :
    property adapter.tryExecuteGameTasks.trace adapter.tryExecuteGameTasks.gameTasks := by
  obtain ⟨done, rest, observations, drains, same⟩ := adapter.tryExecuteGameTasks_spec
  rw [same]
  cases client : adapter.hasConnectedClient with
  | false =>
      have handled := drains.handled
      rw [drains.idle client] at handled
      cases handled
      have split := drains.split
      rw [List.nil_append] at split
      rw [drains.idle client, List.append_nil]
      exact split ▸ holds
  | true =>
      have each (trace : List Observation) (holds : property trace (done ++ rest)) :
          property (trace ++ observations) rest := by
        have handled := drains.handled
        clear drains same
        induction handled generalizing trace with
        | nil => simpa using holds
        | cons one others ih =>
            have later := ih _ (historical.handled holds one client)
            rwa [List.append_assoc, List.singleton_append] at later
      exact each adapter.trace (drains.split ▸ holds)

theorem queueGameTask {adapter other : IceAdapter} (holds : property adapter.trace adapter.gameTasks)
    (sameTrace : other.trace = adapter.trace) (sameTasks : other.gameTasks = adapter.gameTasks)
    (task : IceAdapterGameTask) :
    property (other.queueGameTask task).trace (other.queueGameTask task).gameTasks := by
  rw [← sameTrace, ← sameTasks] at holds
  exact historical.tryExecuteGameTasks (historical.queued task holds)

/-- A step preserves the property, if a removal does. -/
theorem step {jsonCpp : JsonCpp} {adapter next : IceAdapter} {event : Event}
    (removed : ∀ handler, event = .removeClient handler →
      property (adapter.trace ++ [.clientDisconnected handler]) adapter.gameTasks)
    (holds : property adapter.trace adapter.gameTasks) (steps : step jsonCpp adapter event = some next) :
    property next.trace next.gameTasks := by
  cases stepped_of_step steps with
  | hosted map => exact historical.queueGameTask holds (by rfl) (by rfl) _
  | joined login playerId port => exact historical.queueGameTask holds (by rfl) (by rfl) _
  | connected login playerId createOffer port => exact historical.queueGameTask holds (by rfl) (by rfl) _
  | disconnected playerId present => exact historical.queueGameTask holds (by rfl) (by rfl) _
  | sentToGpgNet client encoded => exact historical.neutral holds trivial
  | accepted => exact historical.neutral (historical.neutral holds trivial) trivial
  | notified handler message registered other =>
      have received : property (adapter.trace ++ [.received handler message]) adapter.gameTasks :=
        historical.neutral holds trivial
      exact historical.neutral received trivial
  | gameState handler message gameState registered single text =>
      have received : property (adapter.trace ++ [.received handler message]) adapter.gameTasks :=
        historical.neutral holds trivial
      refine historical.neutral (historical.tryExecuteGameTasks ?_) trivial
      rw [answerGameState]
      split
      · exact historical.neutral received trivial
      · exact received
  | removed handler registered => exact historical.neutral (removed handler rfl) trivial
  | _ => exact holds

end Historical

/-- The queue is first in, first out. -/
def Fifo (trace : List Observation) (gameTasks : List IceAdapterGameTask) : Prop :=
  queuedTasks trace = handledTasks trace ++ gameTasks ∧ ∀ observation ∈ trace, observation.Lawful

/-- A lawful observation that moves tasks from the queue to the history keeps the order. -/
theorem Fifo.append {trace : List Observation} {queue rest : List IceAdapterGameTask} (fifo : Fifo trace queue)
    {observation : Observation} (lawful : observation.Lawful)
    (moved : queue ++ queuedTasks [observation] = handledTasks [observation] ++ rest) :
    Fifo (trace ++ [observation]) rest := by
  obtain ⟨order, before⟩ := fifo
  constructor
  · rw [queuedTasks_append, handledTasks_append, order, List.append_assoc, moved, List.append_assoc]
  · exact List.forall_mem_append.mpr ⟨before, List.forall_mem_singleton.mpr lawful⟩

theorem fifo_historical : Historical Fifo where
  neutral := by
    intro trace queue observation fifo neutral
    obtain ⟨none, none', lawful⟩ := neutral.tasks
    apply fifo.append lawful
    rw [none, none', List.append_nil, List.nil_append]
  queued := by
    intro trace queue task fifo
    exact fifo.append trivial rfl
  handled := by
    intro adapter trace queue task observation fifo handled client
    obtain ⟨none, one, lawful⟩ := handled.tasks client
    apply fifo.append lawful
    rw [none, one, List.append_nil, List.singleton_append]

theorem Fifo.removed {trace : List Observation} {gameTasks : List IceAdapterGameTask} (fifo : Fifo trace gameTasks)
    (handler : Nat) : Fifo (trace ++ [.clientDisconnected handler]) gameTasks :=
  fifo.append trivial (List.append_nil _)

variable {jsonCpp : JsonCpp} {options : IceAdapterOptions} {freePort : Int}

theorem fifo_reaches {allowed : IceAdapter → Event → Prop} {events : List Event} {adapter : IceAdapter}
    (run : (machine jsonCpp options freePort).Reaches allowed events adapter) :
    Fifo adapter.trace adapter.gameTasks := by
  apply run.invariant fun adapter => Fifo adapter.trace adapter.gameTasks
  · exact ⟨rfl, List.forall_mem_nil _⟩
  · intro adapter event next fifo _ steps
    exact fifo_historical.step (fun handler _ => fifo.removed handler) fifo steps

/-- The tasks that are sent or dropped and those that wait are the queued tasks in their order. -/
theorem queue_delivers (jsonCpp : JsonCpp) (options : IceAdapterOptions) (freePort : Int)
    (events : List Event) (adapter : IceAdapter)
    (run : (machine jsonCpp options freePort).Reaches (fun _ _ => True) events adapter) :
    queuedTasks adapter.trace = handledTasks adapter.trace ++ adapter.gameTasks ∧
      ∀ observation ∈ adapter.trace, observation.Lawful :=
  fifo_reaches run

/-- An adapter for concrete runs. -/
def plainMachine : Machine IceAdapter Event :=
  machine (Sample.jsonCpp fun _ => (false, .nullValue)) ⟨1, bytes "me", 6112⟩ 0

/-- A game reports its state. -/
def reports (handler : Nat) (gameState : String) : Event :=
  .clientMessage handler ⟨bytes "GameState", [.stringValue (bytes gameState)]⟩

/-- A map is hosted in the lobby, and a peer waits for the next one. -/
def hosting : List Event :=
  [.newClient, .hostGame (bytes "map"), reports 0 "Lobby", reports 0 "Launching",
    .connectToPeer (bytes "you") 2 true 6000]

theorem queue_delivers_hosting :
    ∃ adapter, plainMachine.run hosting = some adapter ∧
      adapter.gameTasks = [⟨.ConnectToPeer, [], bytes "you", 2⟩] ∧
      queuedTasks adapter.trace = handledTasks adapter.trace ++ adapter.gameTasks ∧
      ∀ observation ∈ adapter.trace, observation.Lawful :=
  ⟨_, rfl, rfl, queue_delivers _ _ _ hosting _
    (Machine.reaches_iff_run.mpr (show plainMachine.run hosting = some _ from rfl))⟩

/-- A task that was queued before a connection was removed is sent to one that was accepted after it. The
queue is first in, first out, so the number of tasks that left it before tells which one is sent. -/
def Leaks (trace : List Observation) : Prop :=
  ∃ before handler between accepted after task receivers gameState relays message later,
    trace = before ++ .clientDisconnected handler :: (between ++ .clientConnected accepted ::
      (after ++ .sent (some task) receivers gameState relays message :: later)) ∧
    accepted ∈ receivers ∧
    (handledTasks (before ++ between ++ after)).length < (queuedTasks before).length

/-- Every task that was queued before a removal had left the queue by then. -/
def Sealed (trace : List Observation) : Prop :=
  ∀ before handler later, trace = before ++ .clientDisconnected handler :: later →
    (queuedTasks before).length ≤ (handledTasks before).length

theorem Sealed.not_leaks {trace : List Observation} (isSealed : Sealed trace) : ¬ Leaks trace := by
  intro leaks
  obtain ⟨before, handler, between, accepted, after, task, receivers, gameState, relays, message, later, rfl,
    _, early⟩ := leaks
  have bound := isSealed before handler _ rfl
  simp only [handledTasks_append, List.length_append] at early
  omega

/-- Only a removal puts a new condition on the history. -/
theorem Sealed.append {trace : List Observation} (isSealed : Sealed trace) {observation : Observation}
    (other : ∀ handler, observation = .clientDisconnected handler →
      (queuedTasks trace).length ≤ (handledTasks trace).length) : Sealed (trace ++ [observation]) := by
  intro before handler later same
  rcases List.eq_nil_or_concat' later with rfl | ⟨later, last, rfl⟩
  · obtain ⟨rfl, lasts⟩ := List.append_inj' same rfl
    exact other handler (List.singleton_injective lasts)
  · rw [← List.cons_append, ← List.append_assoc] at same
    obtain ⟨rfl, _⟩ := List.append_inj' same rfl
    exact isSealed before handler later rfl

theorem sealed_historical : Historical fun trace _ => Sealed trace where
  neutral isSealed neutral := isSealed.append (by rintro handler rfl; contradiction)
  queued _ isSealed := isSealed.append (by simp)
  handled isSealed handled _ := isSealed.append (by rintro handler rfl; contradiction)

/-- A connection is removed only when no task waits. -/
def RemovesIdle (adapter : IceAdapter) : Event → Prop
  | .removeClient _ => adapter.gameTasks = []
  | _ => True

instance (adapter : IceAdapter) (event : Event) : Decidable (RemovesIdle adapter event) :=
  match event with
  | .removeClient _ => inferInstanceAs (Decidable (adapter.gameTasks = []))
  | .hostGame _ | .joinGame _ _ _ | .connectToPeer _ _ _ _ | .disconnectFromPeer _ | .setLobbyInitMode _
  | .sendToGpgNet _ | .setIceServers _ | .newClient | .clientMessage _ _ => instDecidableTrue

/-- When every connection is removed with an empty queue, no task of an earlier game is sent to a later one. -/
theorem queue_sealed (jsonCpp : JsonCpp) (options : IceAdapterOptions) (freePort : Int)
    (events : List Event) (adapter : IceAdapter)
    (run : (machine jsonCpp options freePort).Reaches RemovesIdle events adapter) : ¬ Leaks adapter.trace := by
  have both : Sealed adapter.trace ∧ Fifo adapter.trace adapter.gameTasks := by
    apply run.invariant fun adapter => Sealed adapter.trace ∧ Fifo adapter.trace adapter.gameTasks
    · refine ⟨fun before handler later same => ?_, rfl, List.forall_mem_nil _⟩
      exact absurd same.symm (List.append_ne_nil_of_right_ne_nil before (List.cons_ne_nil _ later))
    · intro adapter event next both permits steps
      obtain ⟨isSealed, fifo⟩ := both
      have idle (handler : Nat) (same : event = .removeClient handler) :
          (queuedTasks adapter.trace).length ≤ (handledTasks adapter.trace).length := by
        subst same
        have empty : adapter.gameTasks = [] := permits
        rw [fifo.1, empty, List.append_nil]
      constructor
      · exact sealed_historical.step (fun handler same => isSealed.append fun _ _ => idle handler same)
          isSealed steps
      · exact fifo_historical.step (fun handler _ => fifo.removed handler) fifo steps
  exact both.1.not_leaks

/-- The map is sent before its game ends. -/
def twoGames : List Event :=
  [.hostGame (bytes "map"), .newClient, reports 0 "Lobby", .removeClient 0, .newClient, reports 1 "Lobby"]

theorem queue_sealed_twoGames :
    ∃ adapter, plainMachine.runWhere RemovesIdle twoGames = some adapter ∧ ¬ Leaks adapter.trace :=
  ⟨_, rfl, queue_sealed _ _ _ twoGames _
    (Machine.reaches_iff_runWhere.mpr (show plainMachine.runWhere RemovesIdle twoGames = some _ from rfl))⟩

/-- A map that was queued for a game that ended is hosted by the next game. -/
theorem queue_leaks : ¬ ∀ (jsonCpp : JsonCpp) (options : IceAdapterOptions) (freePort : Int)
    (events : List Event) (adapter : IceAdapter),
    (machine jsonCpp options freePort).Reaches (fun _ _ => True) events adapter → ¬ Leaks adapter.trace := by
  intro claim
  have run : plainMachine.run [.newClient, .hostGame (bytes "map"), .removeClient 0, .newClient,
      reports 1 "Lobby"] = some _ := rfl
  apply claim _ _ _ _ _ (Machine.reaches_iff_run.mpr run)
  exact ⟨[.clientConnected 0, .requested "onConnectionStateChanged" [.stringValue (bytes "Connected")],
    .queued ⟨.HostGame, bytes "map", [], 0⟩], 0, [_], 1, [_, _], _, _, _, _, _, _, rfl, by decide, by decide⟩

end IceAdapter
end Faf
