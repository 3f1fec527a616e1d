import FafIceAdapter.Adapter.Effects

namespace Faf
open Json Transition

/-- The players that an adapter has a relay for, and whether the relay offers. -/
abbrev Roles := Int → Option Bool

/-- A player that has a relay keeps it. -/
def Roles.add (playerId : Int) (isOfferer : Bool) (roles : Roles) : Roles :=
  if (roles playerId).isSome then roles else Function.update roles playerId (some isOfferer)

namespace IceAdapter

def roles (adapter : IceAdapter) : Roles := fun playerId => adapter.relays[playerId]?.map PeerRelay.isOfferer

/-- What an event does to the roles, whatever else the adapter holds. -/
def Event.assign (roles : Roles) : Event → Roles
  | .joinGame _ remotePlayerId _ => roles.add remotePlayerId false
  | .connectToPeer _ remotePlayerId createOffer _ => roles.add remotePlayerId createOffer
  | .disconnectFromPeer remotePlayerId => Function.update roles remotePlayerId none
  | .removeClient _ => fun _ => none
  | .hostGame _ | .setLobbyInitMode _ | .sendToGpgNet _ | .setIceServers _ | .newClient | .clientMessage _ _ => roles

theorem relays_tryExecuteGameTasks (adapter : IceAdapter) : adapter.tryExecuteGameTasks.relays = adapter.relays := by
  obtain ⟨_, _, _, _, same⟩ := adapter.tryExecuteGameTasks_spec
  rw [same]

theorem relays_queueGameTask (adapter : IceAdapter) (task : IceAdapterGameTask) :
    (adapter.queueGameTask task).relays = adapter.relays := relays_tryExecuteGameTasks _

theorem relays_onGameState (adapter : IceAdapter) (gameState : Bytes) :
    (adapter.onGameState gameState).relays = adapter.relays := by
  rw [onGameState, relays_tryExecuteGameTasks, answerGameState]
  split
  · rfl
  · rfl

theorem roles_addRelay (adapter : IceAdapter) (playerId : Int) (relay : PeerRelay) :
    (fun other => (addRelay playerId relay adapter.relays)[other]?.map PeerRelay.isOfferer) =
      adapter.roles.add playerId relay.isOfferer := by
  funext other
  by_cases present : playerId ∈ adapter.relays
  · have known : (adapter.roles playerId).isSome := by
      rw [roles, Option.isSome_map]
      exact Std.ExtTreeMap.mem_iff_isSome_getElem?.mp present
    rw [addRelay, Roles.add, if_pos present, if_pos known]
    rfl
  · have unknown : ¬ (adapter.roles playerId).isSome := by
      rw [roles, Option.isSome_map]
      exact mt Std.ExtTreeMap.mem_iff_isSome_getElem?.mpr present
    rw [addRelay, Roles.add, if_neg present, if_neg unknown, Std.ExtTreeMap.getElem?_insert]
    by_cases same : playerId = other
    · simp [same]
    · simp [same, roles, Function.update_of_ne (Ne.symm same)]

theorem roles_erase (adapter : IceAdapter) (playerId : Int) :
    (fun other => (adapter.relays.erase playerId)[other]?.map PeerRelay.isOfferer) =
      Function.update adapter.roles playerId none := by
  funext other
  rw [Std.ExtTreeMap.getElem?_erase]
  by_cases same : playerId = other
  · simp [same]
  · simp [same, roles, Function.update_of_ne (Ne.symm same)]

/-- The roles after a step depend on the roles before it and on the event. -/
theorem roles_step {jsonCpp : JsonCpp} {adapter next : IceAdapter} {event : Event}
    (steps : step jsonCpp adapter event = some next) : next.roles = event.assign adapter.roles := by
  cases stepped_of_step steps with
  | hosted map =>
      unfold roles
      rw [relays_queueGameTask]
      rfl
  | joined login playerId port =>
      unfold roles
      rw [relays_queueGameTask]
      exact roles_addRelay adapter playerId _
  | connected login playerId createOffer port =>
      unfold roles
      rw [relays_queueGameTask]
      exact roles_addRelay adapter playerId _
  | unknown absent =>
      rw [Std.ExtTreeMap.mem_iff_isSome_getElem?, Option.not_isSome_iff_eq_none] at absent
      rw [Event.assign, Function.update_eq_self_iff.mpr]
      rw [roles, absent]
      rfl
  | disconnected playerId present =>
      unfold roles
      rw [relays_queueGameTask]
      exact roles_erase adapter playerId
  | iceServers iceServers stored =>
      funext playerId
      unfold roles
      rw [Std.ExtTreeMap.getElem?_map, Option.map_map]
      rfl
  | gameState handler message gameState registered single text =>
      unfold roles
      change (fun playerId => ((adapter.emit (.received handler message)).onGameState gameState).relays[playerId]?.map
        PeerRelay.isOfferer) = _
      rw [relays_onGameState]
      rfl
  | removed handler registered =>
      funext playerId
      exact congrArg (Option.map PeerRelay.isOfferer) Std.ExtTreeMap.getElem?_empty
  | _ => rfl

/-- The roles are what the events of the run assign. -/
theorem roles_reaches {jsonCpp : JsonCpp} {options : IceAdapterOptions} {freePort : Int}
    {allowed : IceAdapter → Event → Prop} {events : List Event} {adapter : IceAdapter}
    (run : (machine jsonCpp options freePort).Reaches allowed events adapter) :
    adapter.roles = events.foldl Event.assign fun _ => none := by
  induction run with
  | initial =>
      funext playerId
      exact congrArg (Option.map PeerRelay.isOfferer) Std.ExtTreeMap.getElem?_empty
  | step _ _ steps ih => rw [List.foldl_append, ← ih, roles_step steps, List.foldl_cons, List.foldl_nil]

end IceAdapter
end Faf
