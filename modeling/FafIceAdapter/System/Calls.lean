import FafIceAdapter.Adapter.Rpc

namespace Faf
open Json JsonRpc

/-- The port of the socket and the peer connection of a relay that a call creates. -/
def RpcEnvironment.give (port : Nat) (creation : Creation) (environment : RpcEnvironment) : RpcEnvironment :=
  { environment with port := port, creation := creation }

/-- The command of a callback whose parameters are well formed and can be converted. -/
def RpcCallback.command? (callback : RpcCallback) (params : List Value)
    (converted : Except Exception IceAdapter.Event) : Option IceAdapter.Event :=
  if callback.malformed params then none else converted.toOption

/-- The command that a call gives to the adapter. -/
def RpcMethod.command? (environment : RpcEnvironment) (params : List Value) : RpcMethod → Option IceAdapter.Event
  | .quit | .status | .iceMsg => none
  | .hostGame => (RpcCallback.hostGame environment).command? params do
      let map ← environment.jsonCpp.asString (RpcCallback.param params 0)
      return .hostGame map
  | .joinGame => (RpcCallback.joinGame environment).command? params do
      let login ← environment.jsonCpp.asString (RpcCallback.param params 0)
      let playerId ← environment.jsonCpp.asInt (RpcCallback.param params 1)
      return .joinGame login playerId environment.port
  | .connectToPeer => (RpcCallback.connectToPeer environment).command? params do
      let login ← environment.jsonCpp.asString (RpcCallback.param params 0)
      let playerId ← environment.jsonCpp.asInt (RpcCallback.param params 1)
      let createOffer ← environment.asBool (RpcCallback.param params 2)
      return .connectToPeer login playerId createOffer environment.port
  | .disconnectFromPeer => (RpcCallback.disconnectFromPeer environment).command? params do
      let playerId ← environment.jsonCpp.asInt (RpcCallback.param params 0)
      return .disconnectFromPeer playerId
  | .setLobbyInitMode => (RpcCallback.setLobbyInitMode environment).command? params do
      let initMode ← environment.jsonCpp.asString (RpcCallback.param params 0)
      return .setLobbyInitMode initMode
  | .sendToGpgNet => (RpcCallback.sendToGpgNet environment).command? params do
      let header ← environment.jsonCpp.asString (RpcCallback.param params 0)
      return .sendToGpgNet ⟨header, (RpcCallback.param params 1).elements⟩
  | .setIceServers => (RpcCallback.setIceServers environment).command? params
      (.ok (.setIceServers (RpcCallback.param params 0)))

/-- The ICE message that a call brings, and the player whose relay gets it. -/
def RpcMethod.iceMessage? (environment : RpcEnvironment) (params : List Value) : RpcMethod → Option (Int × Value)
  | .iceMsg =>
      if (RpcCallback.iceMsg environment).malformed params then none
      else (environment.jsonCpp.asInt (RpcCallback.param params 0)).toOption.map (·, RpcCallback.param params 1)
  | .quit | .status | .hostGame | .joinGame | .connectToPeer | .disconnectFromPeer | .setLobbyInitMode
  | .sendToGpgNet | .setIceServers => none

/-- The step of a command, if there is one. -/
def IceAdapter.obey (jsonCpp : JsonCpp) (adapter : IceAdapter) : Option IceAdapter.Event → Option IceAdapter
  | none => some adapter
  | some event => adapter.step jsonCpp event

namespace LiveAdapter

/-- What a call does, by the command that it gives to the adapter or by the ICE message that it brings. -/
inductive Called (environment : RpcEnvironment) (live : LiveAdapter) :
    Option IceAdapter.Event → Option (Int × Value) → LiveAdapter → Prop
  | idle : Called environment live none none live
  | quits : Called environment live none none { live with quits := true }
  | iceMessage (remotePlayerId : Int) (msg : Value) :
      Called environment live none (some (remotePlayerId, msg)) (live.iceMsg environment remotePlayerId msg).1
  | hosted (map : Bytes) : Called environment live (some (.hostGame map)) none (live.onAdapter (·.hostGame map))
  | joined (login : Bytes) (playerId : Int) :
      Called environment live (some (.joinGame login playerId environment.port)) none
        ((live.createPeer playerId false environment.creation).onAdapter
          (·.joinGame login playerId environment.port))
  | connected (login : Bytes) (playerId : Int) (createOffer : Bool) :
      Called environment live (some (.connectToPeer login playerId createOffer environment.port)) none
        ((live.createPeer playerId createOffer environment.creation).onAdapter
          (·.connectToPeer login playerId createOffer environment.port))
  | disconnected (playerId : Int) :
      Called environment live (some (.disconnectFromPeer playerId)) none
        ((live.removePeer playerId).onAdapter (·.disconnectFromPeer playerId))
  | initMode (initMode : Bytes) :
      Called environment live (some (.setLobbyInitMode initMode)) none (live.onAdapter (·.setLobbyInitMode initMode))
  | sentToGpgNet (message : GPGNetMessage) :
      Called environment live (some (.sendToGpgNet message)) none
        { live with adapter := (live.adapter.sendToGpgNet environment.jsonCpp message).1 }
  | iceServers (servers : Value) :
      Called environment live (some (.setIceServers servers)) none
        { live with adapter := (live.adapter.setIceServers environment.jsonCpp servers).1 }

section Callbacks

variable {environment : RpcEnvironment} {live : LiveAdapter}

theorem call_fst (callback : RpcCallback) (params : List Value) :
    (callback.call params live).1 =
      if callback.malformed params then live else (callback.body params live).1 := by
  rw [RpcCallback.call]
  split
  · rfl
  · split
    · rename_i same
      rw [same]
    · rename_i same
      rw [same]

/-- A call with malformed parameters does nothing. -/
theorem called_command {callback : RpcCallback} {params : List Value}
    {converted : Except Exception IceAdapter.Event}
    (formed : Called environment live converted.toOption none (callback.body params live).1) :
    Called environment live (callback.command? params converted) none (callback.call params live).1 := by
  unfold RpcCallback.command?
  rw [call_fst]
  split
  · exact .idle
  · exact formed

theorem called_call (method : RpcMethod) (params : List Value) :
    Called environment live (method.command? environment params) (method.iceMessage? environment params)
      (call environment method params live).1 := by
  cases method with
  | quit => exact .quits
  | status => exact .idle
  | iceMsg =>
      rw [call, callback?, call_fst, RpcMethod.iceMessage?]
      split
      · exact .idle
      · change Called environment live none _ (RpcCallback.converting live _ _).1
        cases environment.jsonCpp.asInt (RpcCallback.param params 0) with
        | error exception => exact .idle
        | ok playerId => exact .iceMessage playerId _
  | hostGame =>
      apply called_command
      change Called environment live _ none (RpcCallback.converting live _ _).1
      cases environment.jsonCpp.asString (RpcCallback.param params 0) with
      | error exception => exact .idle
      | ok map => exact .hosted map
  | joinGame =>
      apply called_command
      change Called environment live _ none (RpcCallback.converting live _ _).1
      cases environment.jsonCpp.asString (RpcCallback.param params 0) with
      | error exception => exact .idle
      | ok login =>
          cases environment.jsonCpp.asInt (RpcCallback.param params 1) with
          | error exception => exact .idle
          | ok playerId => exact .joined login playerId
  | connectToPeer =>
      apply called_command
      change Called environment live _ none (RpcCallback.converting live _ _).1
      cases environment.jsonCpp.asString (RpcCallback.param params 0) with
      | error exception => exact .idle
      | ok login =>
          cases environment.jsonCpp.asInt (RpcCallback.param params 1) with
          | error exception => exact .idle
          | ok playerId =>
              cases environment.asBool (RpcCallback.param params 2) with
              | error exception => exact .idle
              | ok createOffer => exact .connected login playerId createOffer
  | disconnectFromPeer =>
      apply called_command
      change Called environment live _ none (RpcCallback.converting live _ _).1
      cases environment.jsonCpp.asInt (RpcCallback.param params 0) with
      | error exception => exact .idle
      | ok playerId => exact .disconnected playerId
  | setLobbyInitMode =>
      apply called_command
      change Called environment live _ none (RpcCallback.converting live _ _).1
      cases environment.jsonCpp.asString (RpcCallback.param params 0) with
      | error exception => exact .idle
      | ok initMode => exact .initMode initMode
  | sendToGpgNet =>
      apply called_command
      change Called environment live _ none (RpcCallback.converting live _ _).1
      cases environment.jsonCpp.asString (RpcCallback.param params 0) with
      | error exception => exact .idle
      | ok header => exact .sentToGpgNet ⟨header, (RpcCallback.param params 1).elements⟩
  | setIceServers =>
      have stored : Called environment live (some (.setIceServers (RpcCallback.param params 0))) none
          ((RpcCallback.setIceServers environment).body params live).1 := .iceServers _
      exact called_command stored

/-- An ICE message concerns one relay, and the adapter does not see it. -/
theorem adapter_iceMsg (remotePlayerId : Int) (msg : Value) :
    (live.iceMsg environment remotePlayerId msg).1.adapter = live.adapter := by
  unfold iceMsg
  split
  · rfl
  · rfl

theorem adapter_createPeer (remotePlayerId : Int) (createOffer : Bool) (creation : Creation) :
    (live.createPeer remotePlayerId createOffer creation).adapter = live.adapter := by
  unfold createPeer
  split
  · rfl
  · rfl

/-- A call makes the adapter take the step of its command, or none. -/
theorem Called.adapter {command : Option IceAdapter.Event} {message : Option (Int × Value)} {next : LiveAdapter}
    (called : Called environment live command message next) :
    live.adapter.obey environment.jsonCpp command = some next.adapter := by
  cases called with
  | iceMessage remotePlayerId msg => exact congrArg some (adapter_iceMsg remotePlayerId msg).symm
  | joined login playerId =>
      change some _ = some _
      rw [onAdapter, adapter_createPeer]
  | connected login playerId createOffer =>
      change some _ = some _
      rw [onAdapter, adapter_createPeer]
  | _ => rfl

end Callbacks
end LiveAdapter
end Faf
