import FafIceAdapter.System.LiveAdapter

namespace Faf
open Json JsonRpc Transition

namespace LiveAdapter

/-- The roles of the relays that are there. -/
def peerRoles (live : LiveAdapter) : Roles := fun playerId => (live.peers playerId).map Relay.isOfferer

/-- A relay that a call creates gets a peer connection that is not connected at once. -/
def CreatesQuietly (_ : LiveAdapter) : Event → Prop
  | .rpc _ _ _ creation => creation.Quiet
  | .game _ | .peer _ _ => True

instance (live : LiveAdapter) (event : Event) : Decidable (CreatesQuietly live event) :=
  match event with
  | .rpc _ _ _ creation => inferInstanceAs (Decidable creation.Quiet)
  | .game _ | .peer _ _ => instDecidableTrue

/-- What an event does to the relay of one player. -/
inductive PeerStep (environment : RpcEnvironment) (playerId : Int) (event : Event) :
    Option Relay → Option Relay → Prop
  | kept {relay : Option Relay} (unseen : relayEvent? environment playerId event = none) :
      PeerStep environment playerId event relay relay
  | absent : PeerStep environment playerId event none none
  | stepped {relay next : Relay} {own : Relay.Event} (seen : relayEvent? environment playerId event = some own)
      (steps : relay.handle environment.jsonCpp environment.webRtc own = some next) :
      PeerStep environment playerId event (some relay) (some next)
  | created {isOfferer : Bool} {creation : Creation} {start : Relay}
      (creates : Relay.create isOfferer creation = some start) : PeerStep environment playerId event none (some start)
  | removed {relay : Option Relay} : PeerStep environment playerId event relay none

section Steps

variable {environment : RpcEnvironment} {live next : LiveAdapter}

/-- The roles of the peers agree with the relays of the adapter, so a player without a relay has no peer. -/
theorem peers_none {playerId : Int} (roles : live.peerRoles = live.adapter.roles)
    (absent : playerId ∉ live.adapter.relays) : live.peers playerId = none := by
  have same := congrFun roles playerId
  rw [Std.ExtTreeMap.mem_iff_isSome_getElem?, Option.not_isSome_iff_eq_none] at absent
  rw [peerRoles, IceAdapter.roles, absent] at same
  exact Option.map_eq_none_iff.mp same

/-- A new relay leaves the others as they are. -/
theorem peerStep_createPeer {playerId remotePlayerId : Int} {createOffer : Bool} {creation : Creation} {event : Event}
    (roles : live.peerRoles = live.adapter.roles) (quiet : creation.Quiet)
    (unseen : relayEvent? environment playerId event = none) :
    PeerStep environment playerId event (live.peers playerId)
      ((live.createPeer remotePlayerId createOffer creation).peers playerId) := by
  unfold createPeer
  split
  · exact .kept unseen
  · rename_i absent
    by_cases same : playerId = remotePlayerId
    · obtain ⟨start, creates⟩ := Relay.create_total quiet createOffer
      rw [same, peers_none roles absent]
      change PeerStep environment remotePlayerId event none (Function.update live.peers remotePlayerId _ remotePlayerId)
      rw [Function.update_self, creates]
      exact .created creates
    · change PeerStep environment playerId event _ (Function.update live.peers remotePlayerId _ playerId)
      rw [Function.update_of_ne same]
      exact .kept unseen

theorem peerStep_removePeer {playerId remotePlayerId : Int} {event : Event}
    (unseen : relayEvent? environment playerId event = none) :
    PeerStep environment playerId event (live.peers playerId) ((live.removePeer remotePlayerId).peers playerId) := by
  change PeerStep environment playerId event _ (Function.update live.peers remotePlayerId none playerId)
  by_cases same : playerId = remotePlayerId
  · rw [same, Function.update_self]
    exact .removed
  · rw [Function.update_of_ne same]
    exact .kept unseen

/-- A relay whose run is known can take every ICE message. -/
def Receives (environment : RpcEnvironment) (live : LiveAdapter) : Prop :=
  ∀ playerId relay, live.peers playerId = some relay → ∀ (msg : Value) (creation : Creation), creation.Quiet →
    ∃ next, relay.addIceMessage environment.jsonCpp environment.webRtc msg creation = some next

theorem peerStep_iceMsg {playerId remotePlayerId : Int} {msg : Value} {port : Nat} {creation : Creation} {event : Event}
    (receives : Receives environment live) (quiet : creation.Quiet)
    (seen : relayEvent? environment playerId event =
      if remotePlayerId = playerId then some (.iceMessage msg creation) else none) :
    PeerStep environment playerId event (live.peers playerId)
      ((live.iceMsg (environment.give port creation) remotePlayerId msg).1.peers playerId) := by
  unfold iceMsg
  cases present : live.peers remotePlayerId with
  | none =>
      by_cases same : remotePlayerId = playerId
      · rw [← same, present]
        exact .absent
      · rw [if_neg same] at seen
        exact .kept seen
  | some relay =>
      change PeerStep environment playerId event _ (Function.update live.peers remotePlayerId
        (relay.addIceMessage environment.jsonCpp environment.webRtc msg creation) playerId)
      by_cases same : remotePlayerId = playerId
      · obtain ⟨after, adds⟩ := receives remotePlayerId relay present msg creation quiet
        rw [if_pos same] at seen
        rw [← same, present, Function.update_self, adds]
        rw [← same] at seen
        exact .stepped seen adds
      · rw [if_neg same] at seen
        rw [Function.update_of_ne (Ne.symm same)]
        exact .kept seen

/-- An event changes the relay of a player by the player's own events, or creates or removes it. -/
theorem peerStep_handle {event : Event} (roles : live.peerRoles = live.adapter.roles)
    (receives : Receives environment live) (quiet : CreatesQuietly live event)
    (steps : live.handle environment event = some next) (playerId : Int) :
    PeerStep environment playerId event (live.peers playerId) (next.peers playerId) := by
  cases event with
  | rpc method params port creation =>
      obtain rfl := Option.some.inj steps
      have called := @called_call (environment.give port creation) live method params
      have unseen (other : method.iceMessage? (environment.give port creation) params = none) :
          relayEvent? environment playerId (.rpc method params port creation) = none := by
        simp only [relayEvent?, other]
      generalize request : method.iceMessage? (environment.give port creation) params = message at called
      generalize method.command? (environment.give port creation) params = command at called
      generalize (call (environment.give port creation) method params live).1 = next at called
      cases called with
      | iceMessage remotePlayerId msg =>
          apply peerStep_iceMsg receives quiet
          simp only [relayEvent?, request]
      | joined login remotePlayerId => exact peerStep_createPeer roles quiet (unseen request)
      | connected login remotePlayerId createOffer => exact peerStep_createPeer roles quiet (unseen request)
      | disconnected remotePlayerId => exact peerStep_removePeer (unseen request)
      | _ => exact .kept (unseen request)
  | game event =>
      obtain ⟨adapter, _, last⟩ := Option.bind_eq_some_iff.mp steps
      obtain rfl := Option.some.inj last
      cases event with
      | removeClient handler => exact .removed
      | _ => exact .kept rfl
  | peer remotePlayerId event =>
      obtain ⟨relay, present, after⟩ := Option.bind_eq_some_iff.mp steps
      obtain ⟨moved, moves, last⟩ := Option.bind_eq_some_iff.mp after
      obtain rfl := Option.some.inj last
      change PeerStep environment playerId _ _ (Function.update live.peers remotePlayerId (some moved) playerId)
      by_cases same : remotePlayerId = playerId
      · rw [← same, present, Function.update_self]
        exact .stepped (if_pos rfl) moves
      · rw [Function.update_of_ne (Ne.symm same)]
        exact .kept (if_neg same)

/-- A new relay takes the role that it is asked for. -/
theorem peerRoles_createPeer {remotePlayerId : Int} {createOffer : Bool} {creation : Creation}
    (roles : live.peerRoles = live.adapter.roles) (quiet : creation.Quiet) :
    (live.createPeer remotePlayerId createOffer creation).peerRoles =
      live.adapter.roles.add remotePlayerId createOffer := by
  have known : (live.adapter.roles remotePlayerId).isSome ↔ remotePlayerId ∈ live.adapter.relays := by
    rw [IceAdapter.roles, Option.isSome_map, Std.ExtTreeMap.mem_iff_isSome_getElem?]
  unfold createPeer Roles.add
  by_cases present : remotePlayerId ∈ live.adapter.relays
  · rw [if_pos present, if_pos (known.mpr present), roles]
  · obtain ⟨start, creates⟩ := Relay.create_total quiet createOffer
    rw [if_neg present, if_neg (mt known.mp present), ← roles, creates]
    funext playerId
    by_cases same : playerId = remotePlayerId
    · simp [peerRoles, same, (Relay.recoverable_create creates).role]
    · simp [peerRoles, Function.update_of_ne same]

theorem peerRoles_removePeer (roles : live.peerRoles = live.adapter.roles) (remotePlayerId : Int) :
    (live.removePeer remotePlayerId).peerRoles = Function.update live.adapter.roles remotePlayerId none := by
  rw [← roles]
  funext playerId
  by_cases same : playerId = remotePlayerId
  · simp [peerRoles, removePeer, same]
  · simp [peerRoles, removePeer, Function.update_of_ne same]

/-- A step of one relay that keeps its role keeps all roles. -/
theorem peerRoles_update {remotePlayerId : Int} {relay moved : Relay} (present : live.peers remotePlayerId = some relay)
    (role : moved.isOfferer = relay.isOfferer) :
    (fun playerId => (Function.update live.peers remotePlayerId (some moved) playerId).map Relay.isOfferer) =
      live.peerRoles := by
  funext playerId
  by_cases same : playerId = remotePlayerId
  · rw [same, Function.update_self, peerRoles, present, Option.map_some, Option.map_some, role]
  · rw [Function.update_of_ne same, peerRoles]

/-- Every relay is in a state of its invariant. -/
def Recovering (live : LiveAdapter) : Prop :=
  ∀ playerId relay, live.peers playerId = some relay → Relay.Recoverable relay.isOfferer relay

theorem Recovering.receives (recovering : live.Recovering) : Receives environment live :=
  fun playerId relay present msg _ quiet =>
    Relay.addIceMessage_total quiet (recovering playerId relay present) environment.jsonCpp environment.webRtc msg

theorem peerRoles_iceMsg {remotePlayerId : Int} {msg : Value} {port : Nat} {creation : Creation}
    (recovering : live.Recovering) (quiet : creation.Quiet) :
    (live.iceMsg (environment.give port creation) remotePlayerId msg).1.peerRoles = live.peerRoles := by
  unfold iceMsg
  cases present : live.peers remotePlayerId with
  | none => rfl
  | some relay =>
      have recoverable := recovering remotePlayerId relay present
      obtain ⟨after, adds⟩ := Relay.addIceMessage_total quiet recoverable environment.jsonCpp environment.webRtc msg
      have kept := @Relay.Recoverable.handle _ _ _ environment.jsonCpp environment.webRtc
        (.iceMessage msg creation) recoverable adds
      change (fun playerId => (Function.update live.peers remotePlayerId
        (relay.addIceMessage environment.jsonCpp environment.webRtc msg creation) playerId).map Relay.isOfferer) = _
      rw [adds]
      exact peerRoles_update present kept.role

/-- The roles of the peers go on to agree with the relays of the adapter. -/
theorem peerRoles_handle {event : Event} (roles : live.peerRoles = live.adapter.roles)
    (recovering : live.Recovering) (quiet : CreatesQuietly live event)
    (steps : live.handle environment event = some next) : next.peerRoles = next.adapter.roles := by
  cases event with
  | rpc method params port creation =>
      obtain rfl := Option.some.inj steps
      have called := @called_call (environment.give port creation) live method params
      generalize method.iceMessage? (environment.give port creation) params = message at called
      generalize method.command? (environment.give port creation) params = command at called
      generalize (call (environment.give port creation) method params live).1 = next at called
      have assigned (own : IceAdapter.Event) (same : command = some own) :
          next.adapter.roles = own.assign live.adapter.roles := by
        subst same
        exact IceAdapter.roles_step called.adapter
      cases called with
      | idle => exact roles
      | quits => exact roles
      | iceMessage remotePlayerId msg =>
          rw [peerRoles_iceMsg recovering quiet, adapter_iceMsg]
          exact roles
      | joined login remotePlayerId =>
          rw [assigned _ rfl]
          exact peerRoles_createPeer roles quiet
      | connected login remotePlayerId createOffer =>
          rw [assigned _ rfl]
          exact peerRoles_createPeer roles quiet
      | disconnected remotePlayerId =>
          rw [assigned _ rfl]
          exact peerRoles_removePeer roles remotePlayerId
      | _ =>
          rw [assigned _ rfl]
          exact roles
  | game event =>
      obtain ⟨adapter, moves, last⟩ := Option.bind_eq_some_iff.mp steps
      obtain rfl := Option.some.inj last
      rw [IceAdapter.roles_step moves]
      cases event with
      | removeClient handler => rfl
      | _ => exact roles
  | peer remotePlayerId event =>
      obtain ⟨relay, present, after⟩ := Option.bind_eq_some_iff.mp steps
      obtain ⟨moved, moves, last⟩ := Option.bind_eq_some_iff.mp after
      obtain rfl := Option.some.inj last
      have kept := (recovering remotePlayerId relay present).handle moves
      exact (peerRoles_update present kept.role).trans roles

end Steps

/-- The relay is in the state that the player's own events since its creation lead to. -/
def Since (environment : RpcEnvironment) (playerId : Int) (events : List Event) (relay : Relay) : Prop :=
  ∃ before during creation start state, events = before ++ during ∧
    Relay.create relay.isOfferer creation = some start ∧
    (Relay.machine environment.jsonCpp environment.webRtc start).Reaches (fun _ _ => True)
      (during.filterMap (relayEvent? environment playerId)) state ∧
    relay.clear = state.clear

theorem Since.recoverable {environment : RpcEnvironment} {playerId : Int} {events : List Event} {relay : Relay}
    (since : Since environment playerId events relay) : Relay.Recoverable relay.isOfferer relay.clear := by
  obtain ⟨_, _, _, _, state, _, creates, run, same⟩ := since
  rw [same]
  exact (Relay.recoverable_reaches creates run).clear

/-- The relays and the peer connections belong together, and each relay goes its own way. -/
structure Composed (environment : RpcEnvironment) (events : List Event) (live : LiveAdapter) : Prop where
  roles : live.peerRoles = live.adapter.roles
  since : ∀ playerId relay, live.peers playerId = some relay → Since environment playerId events relay

section Runs

variable {environment : RpcEnvironment} {events : List Event} {live next : LiveAdapter} {event : Event}

theorem peerRoles_clear (live : LiveAdapter) : live.clear.peerRoles = live.peerRoles := by
  funext playerId
  exact Option.map_map _ _ _

theorem Composed.recovering (composed : Composed environment events live) : live.clear.Recovering := by
  intro playerId relay present
  obtain ⟨held, here, rfl⟩ := Option.map_eq_some_iff.mp present
  exact (composed.since playerId held here).recoverable

theorem Since.kept {playerId : Int} {relay : Relay} (since : Since environment playerId events relay)
    (unseen : relayEvent? environment playerId event = none) :
    Since environment playerId (events ++ [event]) relay.clear := by
  obtain ⟨before, during, creation, start, state, rfl, creates, run, same⟩ := since
  refine ⟨before, during ++ [event], creation, start, state, by rw [List.append_assoc], creates, ?_, same⟩
  rw [List.filterMap_append, List.filterMap_cons_none unseen, List.filterMap_nil, List.append_nil]
  exact run

theorem Since.stepped {playerId : Int} {relay moved : Relay} {own : Relay.Event}
    (since : Since environment playerId events relay) (seen : relayEvent? environment playerId event = some own)
    (steps : relay.clear.handle environment.jsonCpp environment.webRtc own = some moved) :
    Since environment playerId (events ++ [event]) moved := by
  have role := (since.recoverable.handle steps).role
  obtain ⟨before, during, creation, start, state, rfl, creates, run, same⟩ := since
  refine ⟨before, during ++ [event], creation, start, moved, by rw [List.append_assoc], by rw [role, creates], ?_, rfl⟩
  rw [List.filterMap_append, List.filterMap_cons_some seen, List.filterMap_nil]
  rw [same] at steps
  exact .step run trivial steps

theorem Composed.peerStep (composed : Composed environment events live) (quiet : CreatesQuietly live event)
    (steps : live.step environment event = some next) (playerId : Int) :
    PeerStep environment playerId event (live.clear.peers playerId) (next.peers playerId) := by
  have roles : live.clear.peerRoles = live.clear.adapter.roles := (peerRoles_clear live).trans composed.roles
  exact peerStep_handle roles composed.recovering.receives quiet steps playerId

theorem Composed.step (composed : Composed environment events live) (quiet : CreatesQuietly live event)
    (steps : live.step environment event = some next) : Composed environment (events ++ [event]) next := by
  have roles : live.clear.peerRoles = live.clear.adapter.roles := (peerRoles_clear live).trans composed.roles
  refine ⟨peerRoles_handle roles composed.recovering quiet steps, ?_⟩
  intro playerId relay present
  have moves := composed.peerStep quiet steps playerId
  rw [present] at moves
  generalize here : live.clear.peers playerId = earlier at moves
  cases moves with
  | kept unseen =>
      obtain ⟨held, before, rfl⟩ := Option.map_eq_some_iff.mp here
      exact (composed.since playerId held before).kept unseen
  | stepped seen moves =>
      obtain ⟨held, before, rfl⟩ := Option.map_eq_some_iff.mp here
      exact (composed.since playerId held before).stepped seen moves
  | created creates =>
      have role := (Relay.recoverable_create creates).role
      exact ⟨events ++ [event], [], _, relay, relay, by rw [List.append_nil], by rw [role, creates], .initial, rfl⟩

theorem composed_initial (options : IceAdapterOptions) (freePort : Int) :
    Composed environment [] (machine environment options freePort).initial := by
  refine ⟨?_, fun _ _ present => by contradiction⟩
  funext playerId
  exact (congrArg (Option.map PeerRelay.isOfferer) Std.ExtTreeMap.getElem?_empty).symm

/-- In every run in which no new peer connection is connected at once, the relays of the adapter and the peer
connections belong to the same players and have the same roles, and every relay is in a state that the ICE messages,
timers, callbacks and datagrams of its own player lead to, whatever the client, the games and the other relays do. -/
theorem relays_composed (environment : RpcEnvironment) (options : IceAdapterOptions) (freePort : Int)
    (events : List Event) (live : LiveAdapter)
    (run : (machine environment options freePort).Reaches CreatesQuietly events live) :
    (∀ playerId, (live.peers playerId).map Relay.isOfferer =
        live.adapter.relays[playerId]?.map PeerRelay.isOfferer) ∧
      ∀ playerId relay, live.peers playerId = some relay → Since environment playerId events relay := by
  have composed : Composed environment events live := by
    induction run with
    | initial => exact composed_initial options freePort
    | step _ quiet steps ih => exact ih.step quiet steps
  exact ⟨congrFun composed.roles, composed.since⟩

end Runs

/-- One peer is called, another one calls, and the first is gone. -/
def meeting : List Event :=
  [.rpc .connectToPeer [.stringValue (bytes "you"), .intValue 2, .booleanValue true] 6001 .silent,
    .rpc .joinGame [.stringValue (bytes "host"), .intValue 3] 6002 .silent,
    .peer 2 (.local (.success .createOffer (bytes "v=0"))),
    .rpc .iceMsg [.intValue 3, Relay.descriptionMessage true (bytes "v=0")] 0 .silent,
    .rpc .disconnectFromPeer [.intValue 2] 0 .silent]

theorem relays_composed_meeting :
    ∃ live, plainMachine.runWhere CreatesQuietly meeting = some live ∧ (live.peers 3).map Relay.isOfferer = some false ∧
      (∀ playerId, (live.peers playerId).map Relay.isOfferer =
          live.adapter.relays[playerId]?.map PeerRelay.isOfferer) ∧
        ∀ playerId relay, live.peers playerId = some relay → Since plainEnvironment playerId meeting relay :=
  ⟨_, rfl, rfl, relays_composed plainEnvironment _ _ meeting _
    (Machine.reaches_iff_runWhere.mpr (show plainMachine.runWhere CreatesQuietly meeting = some _ from rfl))⟩

end LiveAdapter
end Faf
