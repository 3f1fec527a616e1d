import FafIceAdapter.Adapter.Roles
import FafIceAdapter.Library.Projection
import FafIceAdapter.Relay.Totality
import FafIceAdapter.System.Calls

namespace Faf
open Json JsonRpc Transition

/-- The effects of the last event are forgotten. -/
def Relay.clear (relay : Relay) : Relay := { relay with effects := [] }

/-- What reaches the adapter from its games. -/
inductive GameEvent where
  | newClient
  | clientMessage (handler : Nat) (message : GPGNetMessage)
  | removeClient (handler : Nat)

def GameEvent.event : GameEvent → IceAdapter.Event
  | newClient => .newClient
  | clientMessage handler message => .clientMessage handler message
  | removeClient handler => .removeClient handler

/-- A game that is gone takes the relays with it. -/
def GameEvent.peers (peers : Int → Option Relay) : GameEvent → Int → Option Relay
  | newClient | clientMessage _ _ => peers
  | removeClient _ => fun _ => none

/-- What reaches a relay past the adapter. -/
inductive PeerEvent where
  | local (event : Relay.LocalEvent)
  | remoteMessage (data : Bytes) (now : Int)

def PeerEvent.event : PeerEvent → Relay.Event
  | .local event => .local event
  | .remoteMessage data now => .remoteMessage data now

namespace LiveAdapter

inductive Event where
  | rpc (method : RpcMethod) (params : List Value) (port : Nat) (creation : Creation)
  | game (event : GameEvent)
  | peer (remotePlayerId : Int) (event : PeerEvent)

def clear (live : LiveAdapter) : LiveAdapter :=
  { live with peers := fun playerId => (live.peers playerId).map Relay.clear }

def handle (environment : RpcEnvironment) (live : LiveAdapter) : Event → Option LiveAdapter
  | .rpc method params port creation => some (call (environment.give port creation) method params live).1
  | .game event => do
      let adapter ← live.adapter.step environment.jsonCpp event.event
      return { live with adapter := adapter, peers := event.peers live.peers }
  | .peer remotePlayerId event => do
      let relay ← live.peers remotePlayerId
      let next ← relay.handle environment.jsonCpp environment.webRtc event.event
      return { live with peers := Function.update live.peers remotePlayerId (some next) }

/-- The requests behind a call of `quit` are served as well, so the call only leaves a mark. -/
def step (environment : RpcEnvironment) (live : LiveAdapter) (event : Event) : Option LiveAdapter :=
  live.clear.handle environment event

def machine (environment : RpcEnvironment) (options : IceAdapterOptions) (freePort : Int) :
    Machine LiveAdapter Event where
  initial := ⟨.initial options freePort, fun _ => none, false⟩
  step := step environment

/-- What the adapter itself sees of an event. -/
def adapterEvent? (environment : RpcEnvironment) : Event → Option IceAdapter.Event
  | .rpc method params port creation => method.command? (environment.give port creation) params
  | .game event => some event.event
  | .peer _ _ => none

/-- What the relay for one player sees of an event. -/
def relayEvent? (environment : RpcEnvironment) (playerId : Int) : Event → Option Relay.Event
  | .rpc method params port creation =>
      match method.iceMessage? (environment.give port creation) params with
      | some (remotePlayerId, msg) => if remotePlayerId = playerId then some (.iceMessage msg creation) else none
      | none => none
  | .game _ => none
  | .peer remotePlayerId event => if remotePlayerId = playerId then some event.event else none

/-- The adapter takes the steps of its own events. -/
theorem adapter_projects (environment : RpcEnvironment) (options : IceAdapterOptions) (freePort : Int) :
    (machine environment options freePort).Projects (IceAdapter.machine environment.jsonCpp options freePort)
      (fun _ _ => True) (adapterEvent? environment) fun live adapter => live.adapter = adapter where
  start := rfl
  seen := by
    intro live adapter event own next same seen _ steps
    subst same
    cases event with
    | rpc method params port creation =>
        obtain rfl := Option.some.inj steps
        have called := (@called_call (environment.give port creation) live.clear method params).adapter
        change method.command? _ _ = some own at seen
        rw [seen] at called
        exact ⟨_, called, rfl⟩
    | game event =>
        obtain rfl := Option.some.inj seen
        obtain ⟨after, moves, last⟩ := Option.bind_eq_some_iff.mp steps
        obtain rfl := Option.some.inj last
        exact ⟨after, moves, rfl⟩
    | peer remotePlayerId event => contradiction
  unseen := by
    intro live adapter event next same unseen _ steps
    subst same
    cases event with
    | rpc method params port creation =>
        obtain rfl := Option.some.inj steps
        have called := (@called_call (environment.give port creation) live.clear method params).adapter
        change method.command? _ _ = none at unseen
        rw [unseen] at called
        exact (Option.some.inj called).symm
    | game event => contradiction
    | peer remotePlayerId event =>
        obtain ⟨relay, _, after⟩ := Option.bind_eq_some_iff.mp steps
        obtain ⟨_, _, last⟩ := Option.bind_eq_some_iff.mp after
        obtain rfl := Option.some.inj last
        rfl

/-- Every run of the adapter with its relays is a run of the adapter on the commands of its client and the events of
its games. A command may end with an error. -/
theorem adapter_reaches (environment : RpcEnvironment) (options : IceAdapterOptions) (freePort : Int)
    (events : List Event) (live : LiveAdapter)
    (run : (machine environment options freePort).Reaches (fun _ _ => True) events live) :
    (IceAdapter.machine environment.jsonCpp options freePort).Reaches (fun _ _ => True)
      (events.filterMap (adapterEvent? environment)) live.adapter := by
  obtain ⟨adapter, own, same⟩ := (adapter_projects environment options freePort).reaches run
  rw [same]
  exact own

def plainMachine : Machine LiveAdapter Event := machine plainEnvironment ⟨1, bytes "Rhiza", 6113⟩ 6112

/-- A peer is connected, its relay creates an offer, a game comes, and the peer is disconnected. -/
def visited : List Event :=
  [.rpc .connectToPeer [.stringValue (bytes "you"), .intValue 2, .booleanValue true] 6001 .silent,
    .peer 2 (.local (.success .createOffer (bytes "v=0"))), .game .newClient,
    .rpc .disconnectFromPeer [.intValue 2] 0 .silent]

theorem adapter_reaches_visited :
    ∃ live, plainMachine.run visited = some live ∧ live.adapter.accepted = 1 ∧
      (IceAdapter.machine plainEnvironment.jsonCpp ⟨1, bytes "Rhiza", 6113⟩ 6112).Reaches (fun _ _ => True)
        (visited.filterMap (adapterEvent? plainEnvironment)) live.adapter :=
  ⟨_, rfl, rfl, adapter_reaches plainEnvironment _ _ visited _
    (Machine.reaches_iff_run.mpr (show plainMachine.run visited = some _ from rfl))⟩

end LiveAdapter
end Faf
