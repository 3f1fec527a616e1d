import FafIceAdapter.Adapter.GameState
import FafIceAdapter.GPGNet.Stream

namespace Faf
open Json

/-- The message that an observation sends to a connection. -/
def Observation.messageTo (handler : Nat) : Observation → Option GPGNetMessage
  | .sent _ receivers _ _ message => if handler ∈ receivers then some message else none
  | _ => none

/-- The message that an observation receives from a connection. -/
def Observation.messageFrom (handler : Nat) : Observation → Option GPGNetMessage
  | .received source message => if source = handler then some message else none
  | _ => none

def sentTo (handler : Nat) (trace : List Observation) : List GPGNetMessage :=
  trace.filterMap (Observation.messageTo handler)

def receivedFrom (handler : Nat) (trace : List Observation) : List GPGNetMessage :=
  trace.filterMap (Observation.messageFrom handler)

theorem sentTo_append (handler : Nat) (first second : List Observation) :
    sentTo handler (first ++ second) = sentTo handler first ++ sentTo handler second := List.filterMap_append

theorem receivedFrom_append (handler : Nat) (first second : List Observation) :
    receivedFrom handler (first ++ second) = receivedFrom handler first ++ receivedFrom handler second :=
  List.filterMap_append

/-- Nothing is received by silent observations. -/
theorem receivedFrom_silent {observations : List Observation}
    (silent : ∀ observation ∈ observations, IceAdapter.Observation.Silent observation) (handler : Nat) :
    receivedFrom handler observations = [] := by
  apply List.filterMap_eq_nil_iff.mpr
  intro observation member
  cases observation with
  | received source message => exact absurd (silent _ member) id
  | _ => rfl

/-! What the wire format can hold. -/

theorem Json.Value.fits_string {content : Bytes} (short : content.length < 2 ^ 31) :
    (Value.stringValue content).Fits :=
  ⟨fun _ other => by contradiction, fun _ same => Value.stringValue.inj same ▸ short⟩

theorem Json.Value.fits_int {value : Int} (fits : FitsInt32 value) : (Value.intValue value).Fits :=
  ⟨fun _ same => Option.some.inj same ▸ fits, fun _ other => by contradiction⟩

theorem Json.Value.fits_uint {value : Nat} (fits : FitsInt32 value) : (Value.uintValue value).Fits :=
  ⟨fun _ same => Option.some.inj same ▸ fits, fun _ other => by contradiction⟩

/-- The text of a chunk is below a bound. -/
def Json.Value.isShort (bound : Nat) : Value → Bool
  | .stringValue content => decide (content.length < bound)
  | _ => true

theorem lengthsBelow_iff {bound : Nat} {message : GPGNetMessage} :
    message.LengthsBelow bound ↔ message.header.length < bound ∧ message.chunks.length < bound ∧
      ∀ chunk ∈ message.chunks, chunk.isShort bound := by
  constructor
  · intro below
    refine ⟨below.header, below.count, ?_⟩
    intro chunk member
    cases chunk with
    | stringValue content => exact decide_eq_true (below.strings content member)
    | _ => rfl
  · intro below
    obtain ⟨header, count, short⟩ := below
    exact ⟨header, count, fun content member => of_decide_eq_true (short _ member)⟩

instance (bound : Nat) (message : GPGNetMessage) : Decidable (message.LengthsBelow bound) :=
  decidable_of_iff _ lengthsBelow_iff.symm

/-- A port has at most five digits. -/
theorem loopback_short {port : Nat} (valid : port < 2 ^ 16) : (loopback port).length < 2 ^ 31 := by
  have digits : (Nat.toDigits 10 port).length ≤ 5 :=
    (Nat.length_toDigits_le_iff (by decide) (by decide)).mpr (by omega)
  have unsigned : ¬ (port : Int) < 0 := by omega
  rw [loopback, decimal, if_neg unsigned, List.nil_append, List.length_append, List.length_map, Int.natAbs_natCast]
  have host : (bytes "127.0.0.1:").length = 10 := by decide
  omega

/-- The texts of a task are no longer than the wire allows, and its player id is an `int`. -/
structure IceAdapterGameTask.Bounded (task : IceAdapterGameTask) : Prop where
  hostMap : task.hostMap.length < 2 ^ 31
  remoteLogin : task.remoteLogin.length < 2 ^ 31
  remoteId : FitsInt32 task.remoteId

theorem bounded_host {map : Bytes} (short : map.length < 2 ^ 31) :
    IceAdapterGameTask.Bounded ⟨.HostGame, map, [], 0⟩ :=
  ⟨short, Nat.two_pow_pos 31, show FitsInt32 0 by decide⟩

theorem bounded_peer (kind : GameTaskKind) {login : Bytes} {playerId : Int} (short : login.length < 2 ^ 31)
    (fits : FitsInt32 playerId) : IceAdapterGameTask.Bounded ⟨kind, [], login, playerId⟩ :=
  ⟨Nat.two_pow_pos 31, short, fits⟩

/-- The ports of the relays are ports. -/
def Relays.Valid (relays : Relays) : Prop :=
  ∀ (playerId : Int) (relay : PeerRelay), relays[playerId]? = some relay → relay.localUdpSocketPort < 2 ^ 16

theorem encodable_address {header address login : Bytes} {playerId : Int} (name : header.length < 2 ^ 31)
    (short : address.length < 2 ^ 31) (short' : login.length < 2 ^ 31) (fits : FitsInt32 playerId) :
    GPGNetMessage.Encodable ⟨header, [.stringValue address, .stringValue login, .intValue playerId]⟩ where
  headerFits := name
  countFits := show 3 < 2 ^ 31 by decide
  supported := by simp [Value.isSupported]
  chunksFit := List.forall_mem_cons.mpr ⟨Value.fits_string short,
    List.forall_mem_cons.mpr ⟨Value.fits_string short', List.forall_mem_singleton.mpr (Value.fits_int fits)⟩⟩

theorem encodable_single {header : Bytes} {chunk : Value} (name : header.length < 2 ^ 31)
    (supported : chunk.isSupported) (fits : chunk.Fits) : GPGNetMessage.Encodable ⟨header, [chunk]⟩ where
  headerFits := name
  countFits := show 1 < 2 ^ 31 by decide
  supported := List.forall_mem_singleton.mpr supported
  chunksFit := List.forall_mem_singleton.mpr fits

/-- The wire holds the message of a bounded task. -/
theorem Command.encodable {relays : Relays} {task : IceAdapterGameTask} {message : GPGNetMessage}
    (command : Command relays task message) (bounded : task.Bounded) (valid : relays.Valid) :
    message.Encodable := by
  cases command with
  | hostGame kind => exact encodable_single (by decide) rfl (Value.fits_string bounded.hostMap)
  | joinGame kind found =>
      exact encodable_address (by decide) (loopback_short (valid _ _ found)) bounded.remoteLogin bounded.remoteId
  | connectToPeer kind found =>
      exact encodable_address (by decide) (loopback_short (valid _ _ found)) bounded.remoteLogin bounded.remoteId
  | disconnectFromPeer kind => exact encodable_single (by decide) rfl (Value.fits_int bounded.remoteId)

theorem encodable_createLobby (initMode : InitMode) {port playerId : Int} {login : Bytes} (fits : FitsInt32 port)
    (short : login.length < 2 ^ 31) (fits' : FitsInt32 playerId) :
    (GPGNetServer.createLobby initMode port login playerId 1).Encodable where
  headerFits := show (bytes "CreateLobby").length < 2 ^ 31 by decide
  countFits := show 5 < 2 ^ 31 by decide
  supported := by simp [GPGNetServer.createLobby, Value.isSupported]
  chunksFit := List.forall_mem_cons.mpr ⟨Value.fits_uint (by cases initMode <;> decide),
    List.forall_mem_cons.mpr ⟨Value.fits_int fits, List.forall_mem_cons.mpr ⟨Value.fits_string short,
      List.forall_mem_cons.mpr ⟨Value.fits_int fits', List.forall_mem_singleton.mpr (Value.fits_int (by decide))⟩⟩⟩⟩

namespace IceAdapter

/-- The call has texts that the wire can hold, an `int` for a player and a valid port. -/
def Event.Bounded : Event → Prop
  | .hostGame map => map.length < 2 ^ 31
  | .joinGame login playerId port | .connectToPeer login playerId _ port =>
      login.length < 2 ^ 31 ∧ FitsInt32 playerId ∧ port < 2 ^ 16
  | .disconnectFromPeer playerId => FitsInt32 playerId
  | .sendToGpgNet message => message.LengthsBelow (2 ^ 31) ∧ ∀ chunk ∈ message.chunks, chunk.isSupported
  | .setLobbyInitMode _ | .setIceServers _ | .newClient | .clientMessage _ _ | .removeClient _ => True

instance (event : Event) : Decidable event.Bounded :=
  match event with
  | .hostGame map => inferInstanceAs (Decidable (map.length < 2 ^ 31))
  | .joinGame login playerId port | .connectToPeer login playerId _ port =>
      inferInstanceAs (Decidable (login.length < 2 ^ 31 ∧ FitsInt32 playerId ∧ port < 2 ^ 16))
  | .disconnectFromPeer playerId => inferInstanceAs (Decidable (FitsInt32 playerId))
  | .sendToGpgNet message =>
      inferInstanceAs (Decidable (message.LengthsBelow (2 ^ 31) ∧ ∀ chunk ∈ message.chunks, chunk.isSupported))
  | .setLobbyInitMode _ | .setIceServers _ | .newClient | .clientMessage _ _ | .removeClient _ => instDecidableTrue

def Event.messageFrom (handler : Nat) : Event → List GPGNetMessage
  | .clientMessage source message => if source = handler then [message] else []
  | _ => []

/-- Everything that the adapter may put into a message fits the wire, and so does what it has sent. -/
structure Moderate (adapter : IceAdapter) : Prop where
  login : adapter.options.localPlayerLogin.length < 2 ^ 31
  playerId : FitsInt32 adapter.options.localPlayerId
  lobbyPort : FitsInt32 adapter.lobbyPort
  tasks : ∀ task ∈ adapter.gameTasks, task.Bounded
  relays : adapter.relays.Valid
  sent : ∀ handler, ∀ message ∈ sentTo handler adapter.trace, message.Encodable

section Moderation

variable {adapter : IceAdapter} (moderate : adapter.Moderate)
include moderate

/-- An observation may send only what the wire can hold. -/
theorem Moderate.emit {observation : Observation}
    (encodable : ∀ handler message, observation.messageTo handler = some message → message.Encodable) :
    (adapter.emit observation).Moderate := by
  refine ⟨moderate.login, moderate.playerId, moderate.lobbyPort, moderate.tasks, moderate.relays, ?_⟩
  intro handler message member
  change message ∈ sentTo handler (adapter.trace ++ [observation]) at member
  rw [sentTo_append] at member
  rcases List.mem_append.mp member with before | last
  · exact moderate.sent handler message before
  · obtain ⟨same, found, sends⟩ := List.mem_filterMap.mp last
    rw [List.mem_singleton.mp found] at sends
    exact encodable handler message sends

theorem Moderate.sendMessage (task : Option IceAdapterGameTask) {message : GPGNetMessage}
    (encodable : message.Encodable) : (adapter.sendMessage task message).Moderate := by
  apply moderate.emit
  intro handler other sends
  obtain rfl := Option.some.inj (Option.ite_none_right_eq_some.mp sends).2
  exact encodable

theorem Moderate.tryExecuteGameTasks : adapter.tryExecuteGameTasks.Moderate := by
  obtain ⟨done, rest, observations, drains, same⟩ := adapter.tryExecuteGameTasks_spec
  rw [same]
  have tasks : ∀ task ∈ done ++ rest, task.Bounded := by
    rw [← drains.split]
    exact moderate.tasks
  refine ⟨moderate.login, moderate.playerId, moderate.lobbyPort,
    fun task member => tasks task (List.mem_append_right done member), moderate.relays, ?_⟩
  intro handler message member
  rw [sentTo_append] at member
  rcases List.mem_append.mp member with before | later
  · exact moderate.sent handler message before
  · obtain ⟨observation, inside, sends⟩ := List.mem_filterMap.mp later
    obtain ⟨task, known, handled⟩ := Sequence.forall₂_mem_right drains.handled inside
    cases handled with
    | dropped kind missing => contradiction
    | sent command ready =>
        obtain rfl := Option.some.inj (Option.ite_none_right_eq_some.mp sends).2
        exact command.encodable (tasks task (List.mem_append_left rest known)) moderate.relays

theorem Moderate.queueGameTask {task : IceAdapterGameTask} (bounded : task.Bounded) :
    (adapter.queueGameTask task).Moderate := by
  apply Moderate.tryExecuteGameTasks
  apply Moderate.emit
  · refine ⟨moderate.login, moderate.playerId, moderate.lobbyPort, ?_, moderate.relays, moderate.sent⟩
    exact List.forall_mem_append.mpr ⟨moderate.tasks, List.forall_mem_singleton.mpr bounded⟩
  · intro handler message sends
    contradiction

theorem Moderate.withRelays {relays : Relays} (valid : relays.Valid) :
    { adapter with relays := relays }.Moderate :=
  ⟨moderate.login, moderate.playerId, moderate.lobbyPort, moderate.tasks, valid, moderate.sent⟩

end Moderation

theorem Moderate.createPeer {adapter : IceAdapter} (moderate : adapter.Moderate) (playerId : Int) (relay : PeerRelay)
    (valid : relay.localUdpSocketPort < 2 ^ 16) : (addRelay playerId relay adapter.relays).Valid := by
  intro other known found
  rw [addRelay] at found
  split at found
  · exact moderate.relays other known found
  · rw [Std.ExtTreeMap.getElem?_insert] at found
    split at found
    · obtain rfl := Option.some.inj found
      exact valid
    · exact moderate.relays other known found

/-- A bounded call keeps everything within the wire format. -/
theorem Moderate.step {jsonCpp : JsonCpp} {adapter next : IceAdapter} {event : Event} (moderate : adapter.Moderate)
    (bounded : event.Bounded) (steps : step jsonCpp adapter event = some next) : next.Moderate := by
  have silent (after : IceAdapter) (kept : after.Moderate) (observation : Observation)
      (quiet : ∀ handler, observation.messageTo handler = none) : (after.emit observation).Moderate := by
    apply kept.emit
    intro handler message sends
    rw [quiet handler] at sends
    contradiction
  cases stepped_of_step steps with
  | hosted map =>
      have queued := moderate.queueGameTask (bounded_host bounded)
      exact ⟨queued.login, queued.playerId, queued.lobbyPort, queued.tasks, queued.relays, queued.sent⟩
  | joined login playerId port =>
      obtain ⟨short, fits, valid⟩ := bounded
      have created := moderate.createPeer playerId
        ⟨playerId, login, false, adapter.lobbyPort, adapter.iceServers, port⟩ valid
      have queued := (moderate.withRelays created).queueGameTask (bounded_peer .JoinGame short fits)
      exact ⟨queued.login, queued.playerId, queued.lobbyPort, queued.tasks, queued.relays, queued.sent⟩
  | connected login playerId createOffer port =>
      obtain ⟨short, fits, valid⟩ := bounded
      have created := moderate.createPeer playerId
        ⟨playerId, login, createOffer, adapter.lobbyPort, adapter.iceServers, port⟩ valid
      exact (moderate.withRelays created).queueGameTask (bounded_peer .ConnectToPeer short fits)
  | disconnected playerId present =>
      refine (moderate.withRelays ?_).queueGameTask (bounded_peer .DisconnectFromPeer (Nat.two_pow_pos 31) bounded)
      intro other relay found
      rw [Std.ExtTreeMap.getElem?_erase] at found
      exact moderate.relays other relay (Option.ite_none_left_eq_some.mp found).2
  | sentToGpgNet client encoded =>
      obtain ⟨short, supported⟩ := bounded
      obtain ⟨numbersFit, _⟩ := (GPGNetMessage.toBinary_ok jsonCpp _ _).mp encoded
      exact moderate.sendMessage none (GPGNetMessage.encodable_of numbersFit short supported)
  | iceServers iceServers stored =>
      refine ⟨moderate.login, moderate.playerId, moderate.lobbyPort, moderate.tasks, ?_, moderate.sent⟩
      intro other relay found
      rw [Std.ExtTreeMap.getElem?_map] at found
      obtain ⟨before, known, rfl⟩ := Option.map_eq_some_iff.mp found
      exact moderate.relays other before known
  | accepted =>
      refine silent _ (silent _ ?_ _ fun _ => rfl) _ fun _ => rfl
      exact ⟨moderate.login, moderate.playerId, moderate.lobbyPort, moderate.tasks, moderate.relays, moderate.sent⟩
  | notified handler message registered other =>
      exact silent _ (silent _ moderate _ fun _ => rfl) _ fun _ => rfl
  | gameState handler message gameState registered single text =>
      refine silent _ (Moderate.tryExecuteGameTasks ?_) _ fun _ => rfl
      have received := silent _ moderate (.received handler message) fun _ => rfl
      rw [answerGameState]
      have reported : { adapter.emit (.received handler message) with gpgnetGameState := gameState }.Moderate :=
        ⟨received.login, received.playerId, received.lobbyPort, received.tasks, received.relays, received.sent⟩
      split
      · exact reported.sendMessage none
          (encodable_createLobby _ received.lobbyPort received.login received.playerId)
      · exact reported
  | removed handler registered =>
      have removed := silent _ moderate (.clientDisconnected handler) fun _ => rfl
      refine ⟨removed.login, removed.playerId, removed.lobbyPort, removed.tasks, ?_, ?_⟩
      · intro other relay found
        change (∅ : Relays)[other]? = some relay at found
        simp at found
      · intro other message member
        exact (silent _ removed (.requested _ _) fun _ => rfl).sent other message member
  | _ => exact ⟨moderate.login, moderate.playerId, moderate.lobbyPort, moderate.tasks, moderate.relays, moderate.sent⟩

/-- A history goes on without a message from a game. -/
def Extends (first second : List Observation) : Prop :=
  ∃ observations, (∀ observation ∈ observations, Observation.Silent observation) ∧ second = first ++ observations

theorem Extends.trans {first second third : List Observation} (start : Extends first second)
    (later : Extends second third) : Extends first third := by
  obtain ⟨observations, silent, rfl⟩ := start
  obtain ⟨others, silent', rfl⟩ := later
  exact ⟨observations ++ others, List.forall_mem_append.mpr ⟨silent, silent'⟩, List.append_assoc ..⟩

theorem extends_refl (trace : List Observation) : Extends trace trace :=
  ⟨[], List.forall_mem_nil _, (List.append_nil trace).symm⟩

theorem extends_concat (trace : List Observation) {observation : Observation}
    (silent : Observation.Silent observation) : Extends trace (trace ++ [observation]) :=
  ⟨[observation], List.forall_mem_singleton.mpr silent, rfl⟩

/-- A report of the game is recorded first, and what follows from it is sent. -/
theorem extends_onGameState (adapter : IceAdapter) (gameState : Bytes) :
    Extends adapter.trace (adapter.onGameState gameState).trace := by
  refine Extends.trans ?_ (quiet_tryExecuteGameTasks _).trace
  rw [answerGameState]
  split
  · exact extends_concat _ trivial
  · exact extends_refl _

/-- A step only adds to the history, and it receives just the message of its event. -/
theorem step_grows {jsonCpp : JsonCpp} {adapter next : IceAdapter} {event : Event}
    (steps : step jsonCpp adapter event = some next) :
    ∃ observations, next.trace = adapter.trace ++ observations ∧
      ∀ handler, receivedFrom handler observations = event.messageFrom handler := by
  have quietly (after : IceAdapter) (grows : Extends adapter.trace after.trace) : ∃ observations,
      after.trace = adapter.trace ++ observations ∧ ∀ handler, receivedFrom handler observations = [] := by
    obtain ⟨observations, silent, same⟩ := grows
    exact ⟨observations, same, receivedFrom_silent silent⟩
  have answers (handler : Nat) (message : GPGNetMessage) (after : IceAdapter)
      (grows : Extends (adapter.trace ++ [.received handler message]) after.trace) : ∃ observations,
      after.trace = adapter.trace ++ observations ∧
        ∀ other, receivedFrom other observations = Event.messageFrom other (.clientMessage handler message) := by
    obtain ⟨observations, silent, same⟩ := grows
    refine ⟨[.received handler message] ++ observations, by rw [same, List.append_assoc], ?_⟩
    intro other
    rw [receivedFrom_append, receivedFrom_silent silent, List.append_nil, Event.messageFrom]
    by_cases own : handler = other <;> simp [receivedFrom, Observation.messageFrom, own]
  cases stepped_of_step steps with
  | hosted map => exact quietly (adapter.queueGameTask _) (quiet_queueGameTask adapter adapter.relays _).trace
  | joined login playerId port => exact quietly (queueGameTask _ _) (quiet_queueGameTask adapter _ _).trace
  | connected login playerId createOffer port => exact quietly _ (quiet_queueGameTask adapter _ _).trace
  | disconnected playerId present => exact quietly _ (quiet_queueGameTask adapter _ _).trace
  | sentToGpgNet client encoded => exact quietly _ (extends_concat _ trivial)
  | accepted =>
      have first := @extends_concat adapter.trace (.clientConnected adapter.accepted) trivial
      exact quietly _ (first.trans (extends_concat _ trivial))
  | notified handler message registered other => exact answers handler message _ (extends_concat _ trivial)
  | gameState handler message gameState registered single text =>
      apply answers
      exact (extends_onGameState (adapter.emit _) gameState).trans (extends_concat _ trivial)
  | removed handler registered =>
      have first := @extends_concat adapter.trace (.clientDisconnected handler) trivial
      exact quietly _ (first.trans (extends_concat _ trivial))
  | _ => exact ⟨[], (List.append_nil _).symm, fun _ => rfl⟩

end IceAdapter
end Faf
