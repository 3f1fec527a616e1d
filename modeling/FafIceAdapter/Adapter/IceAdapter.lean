import FafIceAdapter.Adapter.GPGNetServer
import FafIceAdapter.Library.Transition
import FafIceAdapter.Library.WorkQueue
import Std.Data.ExtTreeMap

namespace Faf
open Json Transition

structure IceAdapterOptions where
  localPlayerId : Int
  localPlayerLogin : Bytes
  gameUdpPort : Int

/-- The fields of `webrtc::PeerConnectionInterface::IceServer` that the adapter fills. -/
structure IceServer where
  uri : Bytes
  urls : List Bytes
  username : Bytes
  password : Bytes

/-- The part of a relay that the adapter sees. -/
structure PeerRelay where
  remotePlayerId : Int
  remotePlayerLogin : Bytes
  isOfferer : Bool
  gameUdpPort : Int
  iceServerList : List IceServer
  localUdpSocketPort : Nat

def PeerRelay.setIceServers (iceServers : List IceServer) (relay : PeerRelay) : PeerRelay :=
  { relay with iceServerList := iceServers }

/-- `_relays` is ordered by the player id. -/
abbrev Relays := Std.ExtTreeMap Int PeerRelay

inductive GameTaskKind where
  | JoinGame
  | HostGame
  | ConnectToPeer
  | DisconnectFromPeer
  deriving DecidableEq

structure IceAdapterGameTask where
  task : GameTaskKind
  hostMap : Bytes
  remoteLogin : Bytes
  remoteId : Int
  deriving DecidableEq

/-- What happens in a run, for statements about its history. A message is recorded with the task that it
was sent for, the connections that it went to, and the game state and the relays at that moment. -/
inductive Observation where
  | clientConnected (handler : Nat)
  | clientDisconnected (handler : Nat)
  | received (handler : Nat) (message : GPGNetMessage)
  | queued (task : IceAdapterGameTask)
  | dropped (task : IceAdapterGameTask) (relays : Relays)
  | sent (task : Option IceAdapterGameTask) (receivers : Finset Nat) (gameState : Bytes) (relays : Relays)
      (message : GPGNetMessage)
  | requested (method : String) (params : List Value)

/-- The connections of the server are numbered in the order in which they are accepted. -/
structure IceAdapter where
  options : IceAdapterOptions
  connectedSockets : Finset Nat
  accepted : Nat
  gameTasks : List IceAdapterGameTask
  gpgnetGameState : Bytes
  relays : Relays
  gametaskString : Bytes
  iceServers : List IceServer
  lobbyInitMode : Bytes
  lobbyPort : Int
  trace : List Observation

namespace IceAdapter

/-- The adapter takes a free port when the options give none. -/
def initial (options : IceAdapterOptions) (freePort : Int) : IceAdapter where
  options := options
  connectedSockets := ∅
  accepted := 0
  gameTasks := []
  gpgnetGameState := bytes "None"
  relays := ∅
  gametaskString := bytes "Idle"
  iceServers := []
  lobbyInitMode := bytes "normal"
  lobbyPort := if options.gameUdpPort = 0 then freePort else options.gameUdpPort
  trace := []

def emit (observation : Observation) (adapter : IceAdapter) : IceAdapter :=
  { adapter with trace := adapter.trace ++ [observation] }

def hasConnectedClient (adapter : IceAdapter) : Bool := decide adapter.connectedSockets.Nonempty

/-- A message goes to every registered connection. -/
def sendMessage (task : Option IceAdapterGameTask) (message : GPGNetMessage) (adapter : IceAdapter) :
    IceAdapter :=
  adapter.emit (.sent task adapter.connectedSockets adapter.gpgnetGameState adapter.relays message)

def sendRequest (method : String) (params : List Value) (adapter : IceAdapter) : IceAdapter :=
  adapter.emit (.requested method params)

/-- One pass of the switch over the kind of a task. Nothing is returned where the source leaves the loop. -/
def executeTask (task : IceAdapterGameTask) (adapter : IceAdapter) : Option IceAdapter :=
  match task.task with
  | .HostGame =>
      if adapter.gpgnetGameState ≠ bytes "Lobby" then none
      else some (adapter.sendMessage (some task) (GPGNetServer.hostGame task.hostMap))
  | .JoinGame | .ConnectToPeer =>
      if adapter.gpgnetGameState ≠ bytes "Lobby" then none
      else
        match adapter.relays[task.remoteId]? with
        | none => some (adapter.emit (.dropped task adapter.relays))
        | some relay =>
            if task.task = .JoinGame then
              some (adapter.sendMessage (some task)
                (GPGNetServer.joinGame (loopback relay.localUdpSocketPort) task.remoteLogin task.remoteId))
            else
              some (adapter.sendMessage (some task)
                (GPGNetServer.connectToPeer (loopback relay.localUdpSocketPort) task.remoteLogin task.remoteId))
  | .DisconnectFromPeer =>
      some (adapter.sendMessage (some task) (GPGNetServer.disconnectFromPeer task.remoteId))

def tryExecuteGameTasks (adapter : IceAdapter) : IceAdapter :=
  if !adapter.hasConnectedClient then adapter
  else
    let (gameTasks, adapter) := WorkQueue.drain executeTask adapter.gameTasks adapter
    { adapter with gameTasks := gameTasks }

def pushTask (task : IceAdapterGameTask) (adapter : IceAdapter) : IceAdapter :=
  { adapter with gameTasks := adapter.gameTasks ++ [task] }.emit (.queued task)

def queueGameTask (task : IceAdapterGameTask) (adapter : IceAdapter) : IceAdapter :=
  (adapter.pushTask task).tryExecuteGameTasks

/-- The port is the one that the system gives to the socket of a new relay. -/
def createPeerRelay (remotePlayerId : Int) (remotePlayerLogin : Bytes) (createOffer : Bool) (port : Nat)
    (adapter : IceAdapter) : IceAdapter :=
  if remotePlayerId ∈ adapter.relays then adapter
  else
    { adapter with
      relays := adapter.relays.insert remotePlayerId
        ⟨remotePlayerId, remotePlayerLogin, createOffer, adapter.lobbyPort, adapter.iceServers, port⟩ }

def hostGame (map : Bytes) (adapter : IceAdapter) : IceAdapter :=
  { adapter.queueGameTask ⟨.HostGame, map, [], 0⟩ with
    gametaskString := bytes "Hosting map " ++ map ++ bytes "." }

def joinGame (remotePlayerLogin : Bytes) (remotePlayerId : Int) (port : Nat) (adapter : IceAdapter) :
    IceAdapter :=
  { (adapter.createPeerRelay remotePlayerId remotePlayerLogin false port).queueGameTask
      ⟨.JoinGame, [], remotePlayerLogin, remotePlayerId⟩ with
    gametaskString := bytes "Joining game from player " ++ remotePlayerLogin ++ bytes "." }

def connectToPeer (remotePlayerLogin : Bytes) (remotePlayerId : Int) (createOffer : Bool) (port : Nat)
    (adapter : IceAdapter) : IceAdapter :=
  (adapter.createPeerRelay remotePlayerId remotePlayerLogin createOffer port).queueGameTask
    ⟨.ConnectToPeer, [], remotePlayerLogin, remotePlayerId⟩

def disconnectFromPeer (remotePlayerId : Int) (adapter : IceAdapter) : IceAdapter :=
  if remotePlayerId ∉ adapter.relays then adapter
  else
    { adapter with relays := adapter.relays.erase remotePlayerId }.queueGameTask
      ⟨.DisconnectFromPeer, [], [], remotePlayerId⟩

def setLobbyInitMode (initMode : Bytes) (adapter : IceAdapter) : IceAdapter :=
  { adapter with lobbyInitMode := initMode }

/-- The encoder can throw, and then nothing is sent. -/
def sendToGpgNet (jsonCpp : JsonCpp) (message : GPGNetMessage) (adapter : IceAdapter) :
    IceAdapter × Option Exception :=
  if !adapter.hasConnectedClient then (adapter, none)
  else
    match message.toBinary jsonCpp with
    | .error exception => (adapter, some exception)
    | .ok _ => (adapter.sendMessage none message, none)

/-- The server that an object of the array describes. -/
def iceServer (jsonCpp : JsonCpp) (serverJson : Value) : Except Exception IceServer := do
  let uri ← jsonCpp.asString (serverJson.member (bytes "url"))
  let urlsJson := serverJson.member (bytes "urls")
  let urls ← if urlsJson.isArray then urlsJson.elements.mapM jsonCpp.asString else pure []
  let password ← jsonCpp.asString (serverJson.member (bytes "credential"))
  let username ← jsonCpp.asString (serverJson.member (bytes "username"))
  return ⟨uri, urls, username, password⟩

/-- The servers that are stored before an exception. -/
def storeIceServers (jsonCpp : JsonCpp) : List Value → List IceServer × Option Exception
  | [] => ([], none)
  | serverJson :: rest =>
      if !serverJson.isObject then storeIceServers jsonCpp rest
      else
        match iceServer jsonCpp serverJson with
        | .error exception => ([], some exception)
        | .ok server =>
            let (iceServers, exception) := storeIceServers jsonCpp rest
            (server :: iceServers, exception)

/-- The relays get the new servers when all of them are stored. -/
def setIceServers (jsonCpp : JsonCpp) (servers : Value) (adapter : IceAdapter) :
    IceAdapter × Option Exception :=
  match storeIceServers jsonCpp servers.elements with
  | (iceServers, some exception) => ({ adapter with iceServers := iceServers }, some exception)
  | (iceServers, none) =>
      ({ adapter with
        iceServers := iceServers
        relays := adapter.relays.map fun _ relay => relay.setIceServers iceServers }, none)

def onGameConnected (adapter : IceAdapter) : IceAdapter :=
  adapter.sendRequest "onConnectionStateChanged" [.stringValue (bytes "Connected")]

def onGameDisconnected (adapter : IceAdapter) : IceAdapter :=
  { adapter.sendRequest "onConnectionStateChanged" [.stringValue (bytes "Disconnected")] with
    gametaskString := bytes "Idle"
    gpgnetGameState := bytes "None"
    relays := ∅ }

/-- The message asks the game to open the lobby once it is idle. -/
def answerGameState (adapter : IceAdapter) : IceAdapter :=
  if adapter.gpgnetGameState = bytes "Idle" then
    adapter.sendMessage none (GPGNetServer.createLobby
      (if adapter.lobbyInitMode = bytes "normal" then .NormalLobby else .AutoLobby)
      adapter.lobbyPort adapter.options.localPlayerLogin adapter.options.localPlayerId 1)
  else adapter

def onGameState (gameState : Bytes) (adapter : IceAdapter) : IceAdapter :=
  { adapter with gpgnetGameState := gameState }.answerGameState.tryExecuteGameTasks

/-- The value of a `GameState` message with one chunk. -/
def gameStateOf (message : GPGNetMessage) : Option Value :=
  if message.header = bytes "GameState" then
    match message.chunks with
    | [chunk] => some chunk
    | _ => none
  else none

def notifyMessage (message : GPGNetMessage) (adapter : IceAdapter) : IceAdapter :=
  adapter.sendRequest "onGpgNetMessageReceived" [.stringValue message.header, .arrayValue message.chunks]

/-- An exception in this handler leaves the event loop, so the run has no next state. -/
def onGpgNetMessage (jsonCpp : JsonCpp) (message : GPGNetMessage) (adapter : IceAdapter) :
    Option IceAdapter :=
  match gameStateOf message with
  | none => some (adapter.notifyMessage message)
  | some chunk =>
      match jsonCpp.asString chunk with
      | .error _ => none
      | .ok gameState => some ((adapter.onGameState gameState).notifyMessage message)

def onNewClient (adapter : IceAdapter) : IceAdapter :=
  ({ adapter with
    connectedSockets := insert adapter.accepted adapter.connectedSockets
    accepted := adapter.accepted + 1 }.emit (.clientConnected adapter.accepted)).onGameConnected

/-- The posted message for a closed connection. -/
def onMessage (handler : Nat) (adapter : IceAdapter) : IceAdapter :=
  ({ adapter with connectedSockets := adapter.connectedSockets.erase handler }.emit
    (.clientDisconnected handler)).onGameDisconnected

/-- The calls of the client and the events of the server. A call that creates a relay carries the port of
its socket. -/
inductive Event where
  | hostGame (map : Bytes)
  | joinGame (remotePlayerLogin : Bytes) (remotePlayerId : Int) (port : Nat)
  | connectToPeer (remotePlayerLogin : Bytes) (remotePlayerId : Int) (createOffer : Bool) (port : Nat)
  | disconnectFromPeer (remotePlayerId : Int)
  | setLobbyInitMode (initMode : Bytes)
  | sendToGpgNet (message : GPGNetMessage)
  | setIceServers (servers : Value)
  | newClient
  | clientMessage (handler : Nat) (message : GPGNetMessage)
  | removeClient (handler : Nat)

/-- Only a registered connection sends messages and is removed. -/
def step (jsonCpp : JsonCpp) (adapter : IceAdapter) : Event → Option IceAdapter
  | .hostGame map => some (adapter.hostGame map)
  | .joinGame login playerId port => some (adapter.joinGame login playerId port)
  | .connectToPeer login playerId createOffer port =>
      some (adapter.connectToPeer login playerId createOffer port)
  | .disconnectFromPeer playerId => some (adapter.disconnectFromPeer playerId)
  | .setLobbyInitMode initMode => some (adapter.setLobbyInitMode initMode)
  | .sendToGpgNet message => some (adapter.sendToGpgNet jsonCpp message).1
  | .setIceServers servers => some (adapter.setIceServers jsonCpp servers).1
  | .newClient => some adapter.onNewClient
  | .clientMessage handler message =>
      if handler ∈ adapter.connectedSockets then
        (adapter.emit (.received handler message)).onGpgNetMessage jsonCpp message
      else none
  | .removeClient handler =>
      if handler ∈ adapter.connectedSockets then some (adapter.onMessage handler) else none

def machine (jsonCpp : JsonCpp) (options : IceAdapterOptions) (freePort : Int) : Machine IceAdapter Event where
  initial := initial options freePort
  step := step jsonCpp

end IceAdapter
end Faf
