import FafIceAdapter.Json.Object
import FafIceAdapter.Library.Transition
import FafIceAdapter.Relay.PeerConnectivityChecker

namespace Faf
open Json Transition

inductive IceState where
  | none
  | new
  | checking
  | connected
  | completed
  | failed
  | disconnected
  | closed
  deriving DecidableEq

def IceState.isConnected : IceState → Bool
  | connected | completed => true
  | _ => false

def IceState.isLost : IceState → Bool
  | failed | disconnected | closed => true
  | _ => false

/-- The observers of the asynchronous calls of a peer connection. Each call ends in a success or a failure. -/
inductive Observer where
  | createOffer
  | createAnswer
  | setLocalDescription
  | setRemoteDescription
  deriving DecidableEq

/-- A relay numbers its peer connections. A peer connection knows the observers of its pending calls, whether its local
description is set, and the ICE state that it reported last. -/
structure PeerConnection where
  number : Nat
  pending : List Observer
  described : Bool
  reported : Option IceState

/-- The adapter itself sends the messages of the connectivity checker. -/
inductive Producer where
  | adapter
  | game
  deriving DecidableEq

structure Payload where
  producer : Producer
  data : Bytes
  deriving DecidableEq

/-- What a relay does to the outside. A scheduled reinit is recorded with the number of pending ones. -/
inductive Effect where
  | created (number : Nat)
  | connected (value : Bool)
  | state (state : IceState)
  | scheduled (pending : Nat)
  | iceMessage (message : Value)
  | setRemoteDescription (number : Nat)
  | addIceCandidate (number : Nat)
  | sent (payload : Payload)
  | forwarded (data : Bytes)

def Effect.iceMessage? : Effect → Option Value
  | .iceMessage message => some message
  | _ => none

def Effect.sent? : Effect → Option Payload
  | .sent payload => some payload
  | _ => none

def Effect.forwarded? : Effect → Option Bytes
  | .forwarded data => some data
  | _ => none

/-- The peer connection that gets a description or a candidate. -/
def Effect.applied? : Effect → Option Nat
  | .setRemoteDescription number | .addIceCandidate number => some number
  | _ => none

/-- The ICE states that are reported while a peer connection is replaced: by the old one in `Close`, and by
the new one before and after the relay holds it. -/
structure Creation where
  now : Int
  closing : List IceState
  early : List IceState
  later : List IceState

/-- No state is reported. -/
def Creation.silent : Creation := ⟨0, [], [], []⟩

/-- The peer connection of a `PeerRelay` and what depends on it. A data channel is named by its peer
connection. The last value given to `connectedCallback` and the effects of the last event are recorded. -/
structure Relay where
  isOfferer : Bool
  peerConnection : Option PeerConnection
  dataChannel : Option Nat
  created : Nat
  isConnected : Bool
  closing : Bool
  iceState : IceState
  localSdp : Bytes
  connectionChecker : Option PeerConnectivityChecker
  reinitTimer : Timer Unit
  connectedCallback : Option Bool
  effects : List Effect

/-- The text parsers of WebRTC. The flag tells whether they accept. -/
structure WebRtc where
  createSessionDescription : Bytes → Bytes → Bool
  createIceCandidate : Bytes → Int → Bytes → Bool

def WebRtc.accepting : WebRtc := ⟨fun _ _ => true, fun _ _ _ => true⟩

namespace Relay

def initial (isOfferer : Bool) : Relay where
  isOfferer := isOfferer
  peerConnection := none
  dataChannel := none
  created := 0
  isConnected := false
  closing := false
  iceState := .none
  localSdp := []
  connectionChecker := none
  reinitTimer := .initial
  connectedCallback := none
  effects := []

def emit (effect : Effect) (relay : Relay) : Relay := { relay with effects := relay.effects ++ [effect] }

def updateConnection (f : PeerConnection → PeerConnection) (relay : Relay) : Relay :=
  { relay with peerConnection := relay.peerConnection.map f }

def updateChecker (f : PeerConnectivityChecker → PeerConnectivityChecker) (relay : Relay) : Relay :=
  { relay with connectionChecker := relay.connectionChecker.map f }

/-- An asynchronous call of the peer connection. -/
def request (observer : Observer) (relay : Relay) : Relay :=
  relay.updateConnection fun connection => { connection with pending := observer :: connection.pending }

/-- The flag is reported when it changes. A relay that is connected asks its peer connection for statistics,
and there is no next state when it has none. -/
def setConnected (connected : Bool) (relay : Relay) : Option Relay :=
  if connected && relay.peerConnection.isNone then none
  else if connected ≠ relay.isConnected then
    some ({ relay with isConnected := connected, connectedCallback := some connected }.emit
      (.connected connected))
  else some relay

/-- The branch of `_reinitPeerconnection` for a positive delay. A timer counts as started while its own
callback runs. -/
def delayReinit (delayMs : Nat) (relay : Relay) : Relay :=
  if relay.closing || relay.reinitTimer.started then relay
  else
    let reinitTimer := relay.reinitTimer.singleShot delayMs ()
    { relay with reinitTimer := reinitTimer }.emit (.scheduled reinitTimer.pending.length)

/-- An ICE state of the peer connection. -/
def report (state : IceState) (relay : Relay) : Relay :=
  { relay with iceState := state }.updateConnection fun connection =>
    { connection with reported := some state }

/-- While the relay closes its peer connection, the state is only stored. -/
def setIceState (state : IceState) (relay : Relay) : Option Relay := do
  let relay := relay.report state
  if relay.closing then return relay
  else
    let relay ← relay.setConnected state.isConnected
    let relay := relay.emit (.state state)
    if relay.isOfferer && state.isLost then return { relay with connectionChecker := none }.delayReinit 100
    else return relay

def setIceStates (states : List IceState) (relay : Relay) : Option Relay :=
  states.foldlM (fun relay state => relay.setIceState state) relay

/-- A peer connection may report states while it is closed. -/
def close (states : List IceState) (relay : Relay) : Option Relay := do
  let relay := { relay with closing := true, connectionChecker := none, dataChannel := none }
  let relay ← if relay.peerConnection.isSome then relay.setIceStates states else some relay
  return { relay with peerConnection := none, closing := false }

/-- The relay holds a new peer connection. -/
def createPeerConnection (relay : Relay) : Relay :=
  { relay with
    created := relay.created + 1
    peerConnection := some ⟨relay.created + 1, [], false, none⟩ }.emit (.created (relay.created + 1))

/-- The offerer creates the data channel before it asks for an offer. -/
def createOffer (relay : Relay) : Relay := { relay with dataChannel := some relay.created }.request .createOffer

/-- The closure of `_reinitPeerconnection`. Only the offerer gets a checker. -/
def reinitFunction (creation : Creation) (relay : Relay) : Option Relay := do
  let relay ← relay.close creation.closing
  let relay ← relay.setIceStates creation.early
  let relay := relay.createPeerConnection
  if relay.isOfferer then
    let relay ← relay.createOffer.setIceStates creation.later
    return { relay with connectionChecker := some (.create relay.created creation.now) }
  else relay.setIceStates creation.later

/-- The branch of `_reinitPeerconnection` without a delay. -/
def reinitPeerconnection (creation : Creation) (relay : Relay) : Option Relay :=
  if relay.closing then some relay else relay.reinitFunction creation

/-- The offerer creates its first peer connection in the constructor. -/
def create (isOfferer : Bool) (creation : Creation) : Option Relay :=
  if isOfferer then (initial isOfferer).reinitPeerconnection creation else some (initial isOfferer)

/-- The message of the reinit timer. -/
def onReinitTimer (creation : Creation) (relay : Relay) : Option Relay := do
  let reinitTimer ← relay.reinitTimer.deliver
  let relay := { relay with reinitTimer := reinitTimer }
  if reinitTimer.started then
    let relay ← relay.reinitFunction creation
    return { relay with reinitTimer := relay.reinitTimer.finish }
  else return relay

/-- The message of one of the checker's timers. -/
def onCheckerTimer (task : CheckerTask) (now : Int) (relay : Relay) : Option Relay := do
  let checker ← relay.connectionChecker
  let timer ← (checker.timer task).deliver
  let relay := relay.updateChecker (·.setTimer task timer)
  if !timer.started then return relay
  else
    let relay :=
      match task with
      | .startPing => relay.updateChecker (·.startPing)
      | .sendPing =>
          (relay.emit (.sent ⟨.adapter, PeerConnectivityChecker.PingMessage⟩)).updateChecker (·.sendPing now)
      | .checkConnectivity => if checker.checkConnectivity now then relay.delayReinit 1 else relay
    return relay.updateChecker fun checker => checker.setTimer task (checker.timer task).finish

/-- A relay skips the data of its game until it is connected. A datagram that is too long is cut. -/
def onPeerdataFromGame (data : Bytes) (relay : Relay) : Relay :=
  if relay.isConnected && data ≠ [] && relay.dataChannel.isSome then
    relay.emit (.sent ⟨.game, data.take 65507⟩)
  else relay

/-- The answerer has no checker and answers a ping here. -/
def answerPing (data : Bytes) (relay : Relay) : Relay :=
  if !relay.isOfferer && data = PeerConnectivityChecker.PingMessage && relay.dataChannel.isSome then
    relay.emit (.sent ⟨.adapter, PeerConnectivityChecker.PongMessage⟩)
  else relay.emit (.forwarded data)

def onRemoteMessage (data : Bytes) (now : Int) (relay : Relay) : Relay :=
  match relay.connectionChecker with
  | none => relay.answerPing data
  | some checker =>
      let (handled, checker) := checker.handleMessageFromPeer data now
      let relay := { relay with connectionChecker := some checker }
      if handled then relay else relay.answerPing data

/-- The message for a local description. -/
def descriptionMessage (isOfferer : Bool) (sdp : Bytes) : Value :=
  (Value.nullValue.set (bytes "type") (.stringValue (bytes (if isOfferer then "offer" else "answer")))).set
    (bytes "sdp") (.stringValue sdp)

def candidateMessage (candidate sdpMid : Bytes) (sdpMLineIndex : Int) : Value :=
  (Value.nullValue.set (bytes "type") (.stringValue (bytes "candidate"))).set (bytes "candidate")
    (((Value.nullValue.set (bytes "candidate") (.stringValue candidate)).set (bytes "sdpMid")
      (.stringValue sdpMid)).set (bytes "sdpMLineIndex") (.intValue sdpMLineIndex))

/-- The success of a call, which gives a description or nothing. -/
def onSuccess (observer : Observer) (sdp : Bytes) (relay : Relay) : Relay :=
  match observer with
  | .createOffer | .createAnswer => { relay with localSdp := sdp }.request .setLocalDescription
  | .setLocalDescription =>
      (relay.updateConnection fun connection => { connection with described := true }).emit
        (.iceMessage (descriptionMessage relay.isOfferer relay.localSdp))
  | .setRemoteDescription => if !relay.isOfferer then relay.request .createAnswer else relay

/-- What an ICE message contains. The flags tell whether its text can be parsed. -/
inductive IceMessage where
  | description (parses : Bool)
  | candidate (parses : Bool)
  | other

/-- The index operator throws on a value that has no members. -/
def index (name : Bytes) : Value → Except Exception Value
  | .objectValue members => .ok ((Value.objectValue members).member name)
  | .nullValue => .ok .nullValue
  | _ => .error ⟨"requires objectValue"⟩

/-- Everything that `addIceMessage` reads before it acts. -/
def readIceMessage (jsonCpp : JsonCpp) (webRtc : WebRtc) (iceMsg : Value) : Except Exception IceMessage := do
  let type ← jsonCpp.asString (← index (bytes "type") iceMsg)
  if type = bytes "offer" ∨ type = bytes "answer" then
    let sdp ← jsonCpp.asString (← index (bytes "sdp") iceMsg)
    return .description (webRtc.createSessionDescription type sdp)
  else if type = bytes "candidate" then
    let json ← index (bytes "candidate") iceMsg
    let sdpMid ← jsonCpp.asString (← index (bytes "sdpMid") json)
    let sdpMLineIndex ← jsonCpp.asInt (← index (bytes "sdpMLineIndex") json)
    let candidate ← jsonCpp.asString (← index (bytes "candidate") json)
    return .candidate (webRtc.createIceCandidate sdpMid sdpMLineIndex candidate)
  else return .other

/-- The message is a description. -/
def describes (jsonCpp : JsonCpp) (webRtc : WebRtc) (iceMsg : Value) : Bool :=
  match readIceMessage jsonCpp webRtc iceMsg with
  | .ok (.description _) => true
  | _ => false

/-- There is no next state when a description meets no peer connection. -/
def setRemoteDescription (relay : Relay) : Option Relay := do
  let connection ← relay.peerConnection
  return (relay.request .setRemoteDescription).emit (.setRemoteDescription connection.number)

/-- An exception leaves before anything is done. The answerer replaces its peer connection for each
description, whether or not it can be parsed. -/
def addIceMessage (jsonCpp : JsonCpp) (webRtc : WebRtc) (iceMsg : Value) (creation : Creation)
    (relay : Relay) : Option Relay :=
  match readIceMessage jsonCpp webRtc iceMsg with
  | .ok (.description parses) => do
      let relay ← if !relay.isOfferer then relay.reinitPeerconnection creation else some relay
      if parses then relay.setRemoteDescription else return relay
  | .ok (.candidate parses) =>
      match relay.peerConnection with
      | some connection => some (if parses then relay.emit (.addIceCandidate connection.number) else relay)
      | none => some relay
  | .ok .other | .error _ => some relay

/-- A call is no longer pending. -/
def settle (observer : Observer) (relay : Relay) : Relay :=
  relay.updateConnection fun connection => { connection with pending := connection.pending.erase observer }

/-- The events of the peer connection, of the timers and of the game. -/
inductive LocalEvent where
  | iceState (state : IceState)
  | success (observer : Observer) (sdp : Bytes)
  | failure (observer : Observer)
  | candidate (candidate sdpMid : Bytes) (sdpMLineIndex : Int)
  | dataChannel
  | reinitTimer (creation : Creation)
  | checkerTimer (task : CheckerTask) (now : Int)
  | gameData (data : Bytes)

/-- Only the current peer connection calls its observers, for a pending call. It reports candidates once its
local description is set. -/
def stepLocal (relay : Relay) : LocalEvent → Option Relay
  | .iceState state => if relay.peerConnection.isSome then relay.setIceState state else none
  | .success observer sdp => do
      let connection ← relay.peerConnection
      if observer ∈ connection.pending then return (relay.settle observer).onSuccess observer sdp else none
  | .failure observer => do
      let connection ← relay.peerConnection
      if observer ∈ connection.pending then return relay.settle observer else none
  | .candidate candidate sdpMid sdpMLineIndex => do
      let connection ← relay.peerConnection
      if connection.described then
        return relay.emit (.iceMessage (candidateMessage candidate sdpMid sdpMLineIndex))
      else none
  | .dataChannel => do
      let connection ← relay.peerConnection
      return { relay with dataChannel := some connection.number }
  | .reinitTimer creation => relay.onReinitTimer creation
  | .checkerTimer task now => relay.onCheckerTimer task now
  | .gameData data => some (relay.onPeerdataFromGame data)

inductive Event where
  | local (event : LocalEvent)
  | iceMessage (iceMsg : Value) (creation : Creation)
  | remoteMessage (data : Bytes) (now : Int)

/-- A data channel delivers only to its observer. -/
def handle (jsonCpp : JsonCpp) (webRtc : WebRtc) (relay : Relay) : Event → Option Relay
  | .local event => relay.stepLocal event
  | .iceMessage iceMsg creation => relay.addIceMessage jsonCpp webRtc iceMsg creation
  | .remoteMessage data now =>
      if relay.dataChannel.isSome then some (relay.onRemoteMessage data now) else none

/-- The effects are those of the event. -/
def step (jsonCpp : JsonCpp) (webRtc : WebRtc) (relay : Relay) (event : Event) : Option Relay :=
  { relay with effects := [] }.handle jsonCpp webRtc event

/-- The runs of a relay from its construction. -/
def machine (jsonCpp : JsonCpp) (webRtc : WebRtc) (start : Relay) : Machine Relay Event where
  initial := start
  step := step jsonCpp webRtc

end Relay
end Faf
