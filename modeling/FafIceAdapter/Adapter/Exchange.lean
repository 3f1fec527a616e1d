import FafIceAdapter.Adapter.Traffic

namespace Faf
open Json

/-- Why a message is sent to the games: for a task, because the client passes it on, or because a game is idle. -/
inductive Cause where
  | task (gameTask : IceAdapterGameTask)
  | passedOn (message : GPGNetMessage)
  | lobby (initMode : InitMode)

namespace Cause

def task? : Cause → Option IceAdapterGameTask
  | .task gameTask => some gameTask
  | .passedOn _ | .lobby _ => none

def passedOn? : Cause → Option GPGNetMessage
  | .passedOn message => some message
  | .task _ | .lobby _ => none

/-- The messages that a cause can have. The message for a task depends on the relays. -/
inductive Yields (options : IceAdapterOptions) (lobbyPort : Int) : Cause → GPGNetMessage → Prop
  | task {gameTask : IceAdapterGameTask} {message : GPGNetMessage} (relays : Relays)
      (command : Command relays gameTask message) : Yields options lobbyPort (.task gameTask) message
  | passedOn (message : GPGNetMessage) : Yields options lobbyPort (.passedOn message) message
  | lobby (initMode : InitMode) : Yields options lobbyPort (.lobby initMode)
      (GPGNetServer.createLobby initMode lobbyPort options.localPlayerLogin options.localPlayerId 1)

end Cause

namespace IceAdapter

/-- The task that a call of the client asks for. -/
def Event.task? : Event → Option IceAdapterGameTask
  | .hostGame map => some ⟨.HostGame, map, [], 0⟩
  | .joinGame login playerId _ => some ⟨.JoinGame, [], login, playerId⟩
  | .connectToPeer login playerId _ _ => some ⟨.ConnectToPeer, [], login, playerId⟩
  | .disconnectFromPeer playerId => some ⟨.DisconnectFromPeer, [], [], playerId⟩
  | .setLobbyInitMode _ | .sendToGpgNet _ | .setIceServers _ | .newClient | .clientMessage _ _ | .removeClient _ => none

/-- The message that a call of the client passes on. -/
def Event.passedOn? : Event → Option GPGNetMessage
  | .sendToGpgNet message => some message
  | .hostGame _ | .joinGame .. | .connectToPeer .. | .disconnectFromPeer _ | .setLobbyInitMode _ | .setIceServers _
  | .newClient | .clientMessage _ _ | .removeClient _ => none

/-- What was sent to a connection has causes. Those that are tasks were asked for in their order, before the tasks
that still wait, and those that are messages were passed on in their order. -/
structure Traced (tasks : List IceAdapterGameTask) (messages : List GPGNetMessage) (options : IceAdapterOptions)
    (lobbyPort : Int) (handler : Nat) (adapter : IceAdapter) : Prop where
  sameOptions : adapter.options = options
  samePort : adapter.lobbyPort = lobbyPort
  causes : ∃ causes, List.Forall₂ (Cause.Yields options lobbyPort) causes (sentTo handler adapter.trace) ∧
    (causes.filterMap Cause.task? ++ adapter.gameTasks).Sublist tasks ∧
    (causes.filterMap Cause.passedOn?).Sublist messages

/-- The tasks that the loop has sent to a connection are among those that it has executed. -/
theorem handled_causes {adapter : IceAdapter} {done : List IceAdapterGameTask} {observations : List Observation}
    (handled : List.Forall₂ (Handled adapter) done observations) (options : IceAdapterOptions) (lobbyPort : Int)
    (handler : Nat) :
    ∃ causes, List.Forall₂ (Cause.Yields options lobbyPort) causes (sentTo handler observations) ∧
      (causes.filterMap Cause.task?).Sublist done ∧ causes.filterMap Cause.passedOn? = [] := by
  induction handled with
  | nil => exact ⟨[], .nil, .slnil, rfl⟩
  | @cons task observation done observations one others ih =>
      obtain ⟨causes, yields, tasks, none⟩ := ih
      rw [← List.singleton_append, sentTo_append]
      cases one with
      | dropped kind missing => exact ⟨causes, yields, tasks.cons task, none⟩
      | @sent message command ready =>
          by_cases receives : handler ∈ adapter.connectedSockets
          · have told : sentTo handler [.sent (some task) adapter.connectedSockets adapter.gpgnetGameState
                adapter.relays message] = [message] := by
              simp [sentTo, Observation.messageTo, receives]
            rw [told]
            exact ⟨.task task :: causes, .cons (.task adapter.relays command) yields, tasks.cons_cons task, none⟩
          · have silent : sentTo handler [.sent (some task) adapter.connectedSockets adapter.gpgnetGameState
                adapter.relays message] = [] := by
              simp [sentTo, Observation.messageTo, receives]
            rw [silent]
            exact ⟨causes, yields, tasks.cons task, none⟩

section Tracing

variable {tasks : List IceAdapterGameTask} {messages : List GPGNetMessage} {options : IceAdapterOptions}
  {lobbyPort : Int} {handler : Nat} {adapter : IceAdapter}
  (traced : adapter.Traced tasks messages options lobbyPort handler)
include traced

/-- An observation that sends nothing needs no cause. -/
theorem Traced.emit {observation : Observation} (quiet : observation.messageTo handler = none) :
    (adapter.emit observation).Traced tasks messages options lobbyPort handler := by
  refine ⟨traced.sameOptions, traced.samePort, ?_⟩
  have silent : sentTo handler [observation] = [] := by simp [sentTo, quiet]
  change ∃ causes, List.Forall₂ _ causes (sentTo handler (adapter.trace ++ [observation])) ∧ _
  rw [sentTo_append, silent, List.append_nil]
  exact traced.causes

theorem Traced.tryExecuteGameTasks :
    adapter.tryExecuteGameTasks.Traced tasks messages options lobbyPort handler := by
  obtain ⟨done, rest, observations, drains, same⟩ := adapter.tryExecuteGameTasks_spec
  obtain ⟨causes, yields, asked, passed⟩ := traced.causes
  obtain ⟨fresh, yields', executed, none⟩ := handled_causes drains.handled options lobbyPort handler
  rw [same]
  refine ⟨traced.sameOptions, traced.samePort, causes ++ fresh, ?_, ?_, ?_⟩
  · change List.Forall₂ _ _ (sentTo handler (adapter.trace ++ observations))
    rw [sentTo_append]
    exact List.rel_append yields yields'
  · rw [drains.split] at asked
    refine List.Sublist.trans ?_ asked
    rw [List.filterMap_append, List.append_assoc]
    exact List.Sublist.append_left (executed.append_right rest) _
  · rw [List.filterMap_append, none, List.append_nil]
    exact passed

/-- More may be asked for than is sent. -/
theorem Traced.mono (moreTasks : List IceAdapterGameTask) (moreMessages : List GPGNetMessage) :
    adapter.Traced (tasks ++ moreTasks) (messages ++ moreMessages) options lobbyPort handler := by
  obtain ⟨causes, yields, asked, passed⟩ := traced.causes
  exact ⟨traced.sameOptions, traced.samePort, causes, yields, asked.trans (List.sublist_append_left ..),
    passed.trans (List.sublist_append_left ..)⟩

/-- The causes depend on the queue and the history. -/
theorem Traced.congr {other : IceAdapter} (sameOptions : other.options = adapter.options)
    (samePort : other.lobbyPort = adapter.lobbyPort) (sameTasks : other.gameTasks = adapter.gameTasks)
    (sameTrace : other.trace = adapter.trace) : other.Traced tasks messages options lobbyPort handler := by
  refine ⟨sameOptions.trans traced.sameOptions, samePort.trans traced.samePort, ?_⟩
  rw [sameTasks, sameTrace]
  exact traced.causes

theorem Traced.queueGameTask (task : IceAdapterGameTask) :
    (adapter.queueGameTask task).Traced (tasks ++ [task]) messages options lobbyPort handler := by
  apply Traced.tryExecuteGameTasks
  apply Traced.emit
  · obtain ⟨causes, yields, asked, passed⟩ := traced.causes
    refine ⟨traced.sameOptions, traced.samePort, causes, yields, ?_, passed⟩
    change (_ ++ (adapter.gameTasks ++ [task])).Sublist _
    rw [← List.append_assoc]
    exact asked.append_right [task]
  · rfl

/-- A message that no task asks for has its own cause. -/
theorem Traced.sendMessage {cause : Cause} {message : GPGNetMessage} (other : cause.task? = none)
    (yields : cause.Yields options lobbyPort message) :
    (adapter.sendMessage none message).Traced tasks (messages ++ cause.passedOn?.toList) options lobbyPort handler := by
  by_cases receives : handler ∈ adapter.connectedSockets
  · obtain ⟨causes, before, asked, passed⟩ := traced.causes
    have told : sentTo handler [.sent none adapter.connectedSockets adapter.gpgnetGameState adapter.relays message] =
        [message] := by
      simp [sentTo, Observation.messageTo, receives]
    refine ⟨traced.sameOptions, traced.samePort, causes ++ [cause], ?_, ?_, ?_⟩
    · change List.Forall₂ _ _ (sentTo handler (adapter.trace ++ [_]))
      rw [sentTo_append, told]
      exact List.rel_append before (.cons yields .nil)
    · rw [List.filterMap_append, List.filterMap_cons_none other, List.filterMap_nil, List.append_nil]
      exact asked
    · rw [List.filterMap_append]
      cases passes : cause.passedOn? with
      | none =>
          rw [List.filterMap_cons_none passes, List.filterMap_nil, List.append_nil]
          exact passed.trans (List.sublist_append_left ..)
      | some message =>
          rw [List.filterMap_cons_some passes, List.filterMap_nil]
          exact passed.append_right [message]
  · have silent := @Traced.emit _ _ _ _ _ _ traced (.sent none adapter.connectedSockets adapter.gpgnetGameState
      adapter.relays message) (by simp [Observation.messageTo, receives])
    have more := silent.mono [] cause.passedOn?.toList
    rw [List.append_nil] at more
    exact more

theorem Traced.answerGameState :
    adapter.answerGameState.Traced tasks messages options lobbyPort handler := by
  rw [IceAdapter.answerGameState]
  split
  · have answered (initMode : InitMode) := traced.sendMessage (show (Cause.lobby initMode).task? = none from rfl)
      (.lobby initMode)
    simp only [Cause.passedOn?, Option.toList_none, List.append_nil] at answered
    rw [traced.sameOptions, traced.samePort]
    exact answered _
  · exact traced

end Tracing

/-- A step sends nothing without a cause. -/
theorem Traced.step {tasks : List IceAdapterGameTask} {messages : List GPGNetMessage} {options : IceAdapterOptions}
    {lobbyPort : Int} {handler : Nat} {jsonCpp : JsonCpp} {adapter next : IceAdapter} {event : Event}
    (traced : adapter.Traced tasks messages options lobbyPort handler)
    (steps : IceAdapter.step jsonCpp adapter event = some next) :
    next.Traced (tasks ++ event.task?.toList) (messages ++ event.passedOn?.toList) options lobbyPort handler := by
  have kept := traced.mono event.task?.toList event.passedOn?.toList
  cases stepped_of_step steps with
  | hosted map =>
      rw [Event.passedOn?, Option.toList_none, List.append_nil]
      exact (traced.queueGameTask ⟨.HostGame, map, [], 0⟩).congr rfl rfl rfl rfl
  | joined login playerId port =>
      rw [Event.passedOn?, Option.toList_none, List.append_nil]
      refine (Traced.queueGameTask ?_ ⟨.JoinGame, [], login, playerId⟩).congr rfl rfl rfl rfl
      exact traced.congr rfl rfl rfl rfl
  | connected login playerId createOffer port =>
      rw [Event.passedOn?, Option.toList_none, List.append_nil]
      refine Traced.queueGameTask ?_ ⟨.ConnectToPeer, [], login, playerId⟩
      exact traced.congr rfl rfl rfl rfl
  | disconnected playerId present =>
      rw [Event.passedOn?, Option.toList_none, List.append_nil]
      refine Traced.queueGameTask ?_ ⟨.DisconnectFromPeer, [], [], playerId⟩
      exact traced.congr rfl rfl rfl rfl
  | @sentToGpgNet message _ client encoded =>
      rw [Event.task?, Option.toList_none, List.append_nil]
      exact traced.sendMessage (show (Cause.passedOn message).task? = none from rfl) (.passedOn message)
  | accepted =>
      have accepts := @Traced.emit _ _ _ _ _ _ kept (.clientConnected adapter.accepted) rfl
      exact (@Traced.emit _ _ _ _ _ _ accepts (.requested "onConnectionStateChanged" _) rfl).congr rfl rfl rfl rfl
  | notified source message registered other =>
      have receives := @Traced.emit _ _ _ _ _ _ kept (.received source message) rfl
      exact receives.emit rfl
  | gameState source message gameState registered single text =>
      have receives := @Traced.emit _ _ _ _ _ _ kept (.received source message) rfl
      have reported := @Traced.congr _ _ _ _ _ _ receives
        { adapter.emit (.received source message) with gpgnetGameState := gameState } rfl rfl rfl rfl
      exact reported.answerGameState.tryExecuteGameTasks.emit rfl
  | removed source registered =>
      have leaves := @Traced.emit _ _ _ _ _ _ kept (.clientDisconnected source) rfl
      exact (@Traced.emit _ _ _ _ _ _ leaves (.requested "onConnectionStateChanged" _) rfl).congr rfl rfl rfl rfl
  | _ => exact kept.congr rfl rfl rfl rfl

end IceAdapter

/-- The messages of the games, in the order in which they come. -/
def arrivals (trace : List Observation) : List (Nat × GPGNetMessage) :=
  trace.filterMap fun
    | .received handler message => some (handler, message)
    | _ => none

/-- The parameters with which the client is told of a message. -/
def GPGNetMessage.params (message : GPGNetMessage) : List Value :=
  [.stringValue message.header, .arrayValue message.chunks]

/-- The parameters when an observation tells the client of a message. -/
def Observation.passedOn? : Observation → Option (List Value)
  | .requested method params => if bytes method = bytes "onGpgNetMessageReceived" then some params else none
  | _ => none

/-- The client is told of all messages in their order, but for those that are pending. -/
def Hears (pending : List GPGNetMessage) (trace : List Observation) : Prop :=
  trace.filterMap Observation.passedOn? ++ pending.map GPGNetMessage.params =
    (arrivals trace).map fun arrival => arrival.2.params

/-- The observation neither receives a message nor passes one on. -/
def Observation.Mute : Observation → Prop
  | .received _ _ => False
  | .requested method _ => bytes method ≠ bytes "onGpgNetMessageReceived"
  | _ => True

theorem receivedFrom_arrivals (handler : Nat) (trace : List Observation) :
    receivedFrom handler trace = ((arrivals trace).filter (·.1 = handler)).map Prod.snd := by
  induction trace with
  | nil => rfl
  | cons observation trace ih =>
      cases observation with
      | received source message =>
          by_cases same : source = handler
          · simpa [receivedFrom, arrivals, Observation.messageFrom, same] using ih
          · simpa [receivedFrom, arrivals, Observation.messageFrom, same] using ih
      | _ => exact ih

section Hearing

variable {pending : List GPGNetMessage} {trace : List Observation} (hears : Hears pending trace)
include hears

theorem Hears.append {observations : List Observation} (mute : ∀ observation ∈ observations, observation.Mute) :
    Hears pending (trace ++ observations) := by
  have unheard : observations.filterMap Observation.passedOn? = [] := by
    apply List.filterMap_eq_nil_iff.mpr
    intro observation member
    cases observation with
    | requested method params => exact if_neg (mute _ member)
    | _ => rfl
  have unsaid : arrivals observations = [] := by
    apply List.filterMap_eq_nil_iff.mpr
    intro observation member
    cases observation with
    | received source message => exact absurd (mute _ member) id
    | _ => rfl
  have both : arrivals (trace ++ observations) = arrivals trace ++ arrivals observations := List.filterMap_append
  rw [Hears, List.filterMap_append, unheard, List.append_nil, both, unsaid, List.append_nil]
  exact hears

theorem Hears.receive (handler : Nat) (message : GPGNetMessage) :
    Hears (pending ++ [message]) (trace ++ [.received handler message]) := by
  have both : arrivals (trace ++ [.received handler message]) = arrivals trace ++ [(handler, message)] :=
    List.filterMap_append
  have before : trace.filterMap Observation.passedOn? ++ pending.map GPGNetMessage.params =
    (arrivals trace).map fun arrival => arrival.2.params := hears
  simp only [Hears, both, List.map_append, List.filterMap_append]
  rw [← before]
  simp [Observation.passedOn?]

theorem Hears.tryExecuteGameTasks {adapter : IceAdapter} (same : adapter.trace = trace) :
    Hears pending adapter.tryExecuteGameTasks.trace := by
  obtain ⟨done, rest, observations, drains, executed⟩ := adapter.tryExecuteGameTasks_spec
  rw [executed]
  change Hears pending (adapter.trace ++ observations)
  rw [same]
  apply hears.append
  intro observation member
  obtain ⟨task, _, handled⟩ := Sequence.forall₂_mem_right drains.handled member
  cases handled <;> trivial

theorem Hears.queueGameTask {adapter : IceAdapter} (same : adapter.trace = trace) (task : IceAdapterGameTask) :
    Hears pending (adapter.queueGameTask task).trace := by
  have queued : Hears pending (trace ++ [.queued task]) := hears.append (List.forall_mem_singleton.mpr trivial)
  exact queued.tryExecuteGameTasks
    (show (adapter.pushTask task).trace = _ from congrArg (· ++ [Observation.queued task]) same)

theorem Hears.answerGameState {adapter : IceAdapter} (same : adapter.trace = trace) :
    Hears pending adapter.answerGameState.trace := by
  rw [IceAdapter.answerGameState]
  split
  · change Hears pending (adapter.trace ++ [_])
    rw [same]
    exact hears.append (List.forall_mem_singleton.mpr trivial)
  · exact same ▸ hears

end Hearing

theorem Hears.notify {message : GPGNetMessage} {trace : List Observation} (hears : Hears [message] trace) :
    Hears [] (trace ++ [.requested "onGpgNetMessageReceived" message.params]) := by
  have same : arrivals (trace ++ [.requested "onGpgNetMessageReceived" message.params]) = arrivals trace :=
    List.filterMap_append.trans (List.append_nil _)
  rw [Hears, same, ← hears, List.filterMap_append]
  exact List.append_nil _

/-- A message of a game is passed on in the step that receives it. -/
theorem IceAdapter.hears_step {jsonCpp : JsonCpp} {adapter next : IceAdapter} {event : IceAdapter.Event}
    (hears : Hears [] adapter.trace) (steps : IceAdapter.step jsonCpp adapter event = some next) :
    Hears [] next.trace := by
  cases stepped_of_step steps with
  | hosted map => exact hears.queueGameTask (by rfl) _
  | joined login playerId port => exact hears.queueGameTask (by rfl) _
  | connected login playerId createOffer port => exact hears.queueGameTask (by rfl) _
  | disconnected playerId present => exact hears.queueGameTask (by rfl) _
  | sentToGpgNet client encoded => exact hears.append (List.forall_mem_singleton.mpr trivial)
  | accepted =>
      have accepts : Hears [] (adapter.trace ++ [.clientConnected adapter.accepted]) :=
        hears.append (List.forall_mem_singleton.mpr trivial)
      exact accepts.append (List.forall_mem_singleton.mpr (show bytes "onConnectionStateChanged" ≠ _ by decide))
  | notified handler message registered other => exact (hears.receive handler message).notify
  | gameState handler message gameState registered single text =>
      have received := (hears.receive handler message).answerGameState
        (show { adapter.emit (.received handler message) with gpgnetGameState := gameState }.trace = _ from rfl)
      exact (received.tryExecuteGameTasks rfl).notify
  | removed handler registered =>
      have leaves : Hears [] (adapter.trace ++ [.clientDisconnected handler]) :=
        hears.append (List.forall_mem_singleton.mpr trivial)
      exact leaves.append (List.forall_mem_singleton.mpr (show bytes "onConnectionStateChanged" ≠ _ by decide))
  | _ => exact hears

end Faf
