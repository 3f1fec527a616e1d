import FafIceAdapter.Adapter.Peers
import FafIceAdapter.Adapter.Traffic
import FafIceAdapter.Library.TreeMap

namespace Faf
open Json

/-- The sockets of the relays have different ports, and all relays forward to one port. -/
structure Relays.Located (relays : Relays) (gamePort : Int) : Prop where
  distinct : ∀ (first second : Int) (here there : PeerRelay), relays[first]? = some here →
    relays[second]? = some there → here.localUdpSocketPort = there.localUdpSocketPort → first = second
  game : ∀ (playerId : Int) (relay : PeerRelay), relays[playerId]? = some relay → relay.gameUdpPort = gamePort

/-- The system gives no port that another relay has. -/
def Relays.Unused (port : Nat) (relays : Relays) : Prop :=
  ∀ entry ∈ relays.toList, entry.2.localUdpSocketPort ≠ port

instance (port : Nat) (relays : Relays) : Decidable (relays.Unused port) :=
  inferInstanceAs (Decidable (∀ entry ∈ relays.toList, _))

section Locating

variable {relays : Relays} {gamePort : Int}

theorem located_empty (gamePort : Int) : Relays.Located ∅ gamePort := by
  constructor
  · intro first second here there found
    rw [Std.ExtTreeMap.getElem?_empty] at found
    contradiction
  · intro playerId relay found
    rw [Std.ExtTreeMap.getElem?_empty] at found
    contradiction

theorem Relays.Located.erase (located : relays.Located gamePort) (playerId : Int) :
    Relays.Located (relays.erase playerId) gamePort := by
  have kept {other : Int} {relay : PeerRelay} (found : (relays.erase playerId)[other]? = some relay) :
      relays[other]? = some relay := by
    rw [TreeMap.get_erase] at found
    exact (Option.ite_none_left_eq_some.mp found).2
  refine ⟨fun first second here there found found' => ?_,
    fun other relay found => located.game other relay (kept found)⟩
  exact located.distinct first second here there (kept found) (kept found')

theorem Relays.Located.setIceServers (located : relays.Located gamePort) (iceServers : List IceServer) :
    Relays.Located (relays.map fun _ relay => relay.setIceServers iceServers) gamePort := by
  have kept {other : Int} {relay : PeerRelay}
      (found : (relays.map fun _ relay => relay.setIceServers iceServers)[other]? = some relay) :
      ∃ before, relays[other]? = some before ∧ before.setIceServers iceServers = relay := by
    rw [Std.ExtTreeMap.getElem?_map] at found
    exact Option.map_eq_some_iff.mp found
  constructor
  · intro first second here there found found' same
    obtain ⟨before, known, rfl⟩ := kept found
    obtain ⟨before', known', rfl⟩ := kept found'
    exact located.distinct first second before before' known known' same
  · intro other relay found
    obtain ⟨before, known, rfl⟩ := kept found
    exact located.game other before known

theorem Relays.Located.add (located : relays.Located gamePort) (playerId : Int) {relay : PeerRelay}
    (unused : relays.Unused relay.localUdpSocketPort) (game : relay.gameUdpPort = gamePort) :
    (IceAdapter.addRelay playerId relay relays).Located gamePort := by
  have others {other : Int} {held : PeerRelay} (found : relays[other]? = some held) :
      held.localUdpSocketPort ≠ relay.localUdpSocketPort :=
    unused (other, held) (Std.ExtTreeMap.mem_toList_iff_getElem?_eq_some.mpr found)
  unfold IceAdapter.addRelay
  split
  · exact located
  · constructor
    · intro first second here there found found' same
      rw [TreeMap.get_insert] at found found'
      split at found
      · rename_i own
        split at found'
        · rename_i own'
          rw [← own, ← own']
        · obtain rfl := Option.some.inj found
          exact absurd same.symm (others found')
      · split at found'
        · obtain rfl := Option.some.inj found'
          exact absurd same (others found)
        · exact located.distinct first second here there found found' same
    · intro other held found
      rw [TreeMap.get_insert] at found
      split at found
      · obtain rfl := Option.some.inj found
        exact game
      · exact located.game other held found

end Locating

/-- Every lobby message names one port. -/
def Invites (gamePort : Int) (trace : List Observation) : Prop :=
  ∀ handler, ∀ message ∈ sentTo handler trace, message.header = bytes "CreateLobby" →
    message.chunks[1]? = some (.intValue gamePort)

theorem Invites.append {gamePort : Int} {trace observations : List Observation} (invites : Invites gamePort trace)
    (more : Invites gamePort observations) : Invites gamePort (trace ++ observations) := by
  intro handler message member
  rw [sentTo_append] at member
  rcases List.mem_append.mp member with before | later
  · exact invites handler message before
  · exact more handler message later

theorem Invites.quiet {gamePort : Int} {trace : List Observation} (invites : Invites gamePort trace)
    {observation : Observation} (quiet : ∀ handler, observation.messageTo handler = none) :
    Invites gamePort (trace ++ [observation]) := by
  apply invites.append
  intro handler message member
  obtain ⟨same, found, sends⟩ := List.mem_filterMap.mp member
  rw [List.mem_singleton.mp found, quiet handler] at sends
  contradiction

/-- No task makes a lobby message. -/
theorem Command.header {relays : Relays} {task : IceAdapterGameTask} {message : GPGNetMessage}
    (command : Command relays task message) : message.header ≠ bytes "CreateLobby" := by
  cases command with
  | hostGame kind => exact show bytes "HostGame" ≠ bytes "CreateLobby" by decide
  | joinGame kind found => exact show bytes "JoinGame" ≠ bytes "CreateLobby" by decide
  | connectToPeer kind found => exact show bytes "ConnectToPeer" ≠ bytes "CreateLobby" by decide
  | disconnectFromPeer kind => exact show bytes "DisconnectFromPeer" ≠ bytes "CreateLobby" by decide

namespace IceAdapter

/-- The game is told the port that its relays forward to. -/
structure Addressed (adapter : IceAdapter) : Prop where
  located : adapter.relays.Located adapter.lobbyPort
  invites : Invites adapter.lobbyPort adapter.trace

def Event.Unused (relays : Relays) : Event → Prop
  | .joinGame _ _ port | .connectToPeer _ _ _ port => relays.Unused port
  | _ => True

instance (relays : Relays) (event : Event) : Decidable (event.Unused relays) :=
  match event with
  | .joinGame _ _ port | .connectToPeer _ _ _ port => inferInstanceAs (Decidable (relays.Unused port))
  | .hostGame _ | .disconnectFromPeer _ | .setLobbyInitMode _ | .sendToGpgNet _ | .setIceServers _ | .newClient
  | .clientMessage _ _ | .removeClient _ => instDecidableTrue

section Addressing

variable {adapter : IceAdapter} (addressed : adapter.Addressed)
include addressed

theorem Addressed.emit {observation : Observation} (quiet : ∀ handler, observation.messageTo handler = none) :
    (adapter.emit observation).Addressed :=
  ⟨addressed.located, addressed.invites.quiet quiet⟩

theorem Addressed.tryExecuteGameTasks : adapter.tryExecuteGameTasks.Addressed := by
  obtain ⟨done, rest, observations, drains, same⟩ := adapter.tryExecuteGameTasks_spec
  rw [same]
  refine ⟨addressed.located, addressed.invites.append ?_⟩
  intro handler message member named
  obtain ⟨observation, inside, sends⟩ := List.mem_filterMap.mp member
  obtain ⟨task, known, handled⟩ := Sequence.forall₂_mem_right drains.handled inside
  cases handled with
  | dropped kind missing => contradiction
  | sent command ready =>
      obtain rfl := Option.some.inj (Option.ite_none_right_eq_some.mp sends).2
      exact absurd named command.header

theorem Addressed.queueGameTask (task : IceAdapterGameTask) : (adapter.queueGameTask task).Addressed := by
  apply Addressed.tryExecuteGameTasks
  exact ⟨addressed.located, addressed.invites.quiet fun _ => rfl⟩

theorem Addressed.withRelays {relays : Relays} (located : relays.Located adapter.lobbyPort) :
    { adapter with relays := relays }.Addressed := ⟨located, addressed.invites⟩

theorem Addressed.answerGameState : adapter.answerGameState.Addressed := by
  rw [IceAdapter.answerGameState]
  split
  · refine ⟨addressed.located, addressed.invites.append ?_⟩
    intro handler message member named
    obtain ⟨observation, inside, sends⟩ := List.mem_filterMap.mp member
    rw [List.mem_singleton.mp inside] at sends
    obtain rfl := Option.some.inj (Option.ite_none_right_eq_some.mp sends).2
    rfl
  · exact addressed

end Addressing

theorem Addressed.step {jsonCpp : JsonCpp} {adapter next : IceAdapter} {event : Event} (addressed : adapter.Addressed)
    (single : Single adapter event) (unused : event.Unused adapter.relays)
    (steps : step jsonCpp adapter event = some next) : next.Addressed ∧ next.lobbyPort = adapter.lobbyPort := by
  have executed (before : IceAdapter) : before.tryExecuteGameTasks.lobbyPort = before.lobbyPort := by
    obtain ⟨_, _, _, _, same⟩ := before.tryExecuteGameTasks_spec
    rw [same]
  cases stepped_of_step steps with
  | hosted map =>
      have queued := addressed.queueGameTask ⟨.HostGame, map, [], 0⟩
      exact ⟨⟨queued.located, queued.invites⟩, executed _⟩
  | joined login playerId port =>
      have created := addressed.located.add playerId
        (@id (adapter.relays.Unused (PeerRelay.localUdpSocketPort
          ⟨playerId, login, false, adapter.lobbyPort, adapter.iceServers, port⟩)) unused) rfl
      have queued := (addressed.withRelays created).queueGameTask ⟨.JoinGame, [], login, playerId⟩
      exact ⟨⟨queued.located, queued.invites⟩, executed _⟩
  | connected login playerId createOffer port =>
      have created := addressed.located.add playerId
        (@id (adapter.relays.Unused (PeerRelay.localUdpSocketPort
          ⟨playerId, login, createOffer, adapter.lobbyPort, adapter.iceServers, port⟩)) unused) rfl
      exact ⟨(addressed.withRelays created).queueGameTask ⟨.ConnectToPeer, [], login, playerId⟩, executed _⟩
  | disconnected playerId present =>
      exact ⟨(addressed.withRelays (addressed.located.erase playerId)).queueGameTask _, executed _⟩
  | sentToGpgNet client encoded => contradiction
  | iceServers iceServers stored => exact ⟨⟨addressed.located.setIceServers iceServers, addressed.invites⟩, rfl⟩
  | accepted =>
      exact ⟨⟨addressed.located, (addressed.invites.quiet fun _ => rfl).quiet fun _ => rfl⟩, rfl⟩
  | notified handler message registered other => exact ⟨(addressed.emit fun _ => rfl).emit fun _ => rfl, rfl⟩
  | gameState handler message gameState registered single text =>
      have received := @Addressed.emit _ addressed (.received handler message) fun _ => rfl
      have reported : { adapter.emit (.received handler message) with gpgnetGameState := gameState }.Addressed :=
        ⟨received.located, received.invites⟩
      refine ⟨reported.answerGameState.tryExecuteGameTasks.emit fun _ => rfl, (executed _).trans ?_⟩
      rw [IceAdapter.answerGameState]
      split <;> rfl
  | removed handler registered =>
      exact ⟨⟨located_empty _, (addressed.invites.quiet fun _ => rfl).quiet fun _ => rfl⟩, rfl⟩
  | _ => exact ⟨⟨addressed.located, addressed.invites⟩, rfl⟩

end IceAdapter
end Faf
