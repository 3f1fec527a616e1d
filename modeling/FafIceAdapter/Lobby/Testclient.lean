import FafIceAdapter.Adapter.Roles
import FafIceAdapter.Library.Mesh
import FafIceAdapter.Lobby.Testserver
import FafIceAdapter.System.Calls

namespace Faf
open Json JsonRpc Mesh

/-- What an event changes of the roles. -/
def IceAdapter.Event.change? : IceAdapter.Event → Option (Change Int)
  | .joinGame _ remotePlayerId _ => some (.add remotePlayerId false)
  | .connectToPeer _ remotePlayerId createOffer _ => some (.add remotePlayerId createOffer)
  | .disconnectFromPeer remotePlayerId => some (.remove remotePlayerId)
  | .removeClient _ => some .clear
  | .hostGame _ | .setLobbyInitMode _ | .sendToGpgNet _ | .setIceServers _ | .newClient | .clientMessage _ _ => none

namespace IceAdapter

theorem assign_eq (roles : Roles) (event : Event) :
    event.assign roles = event.change?.elim roles (Change.apply roles) := by
  cases event <;> rfl

/-- The roles only depend on the changes of the events. -/
theorem foldl_assign (events : List Event) (roles : Roles) :
    events.foldl Event.assign roles = (events.filterMap Event.change?).foldl Change.apply roles := by
  induction events generalizing roles with
  | nil => rfl
  | cons event rest ih =>
      rw [List.foldl_cons, ih, assign_eq]
      cases changes : event.change? with
      | none => rw [List.filterMap_cons_none changes, Option.elim_none]
      | some change => rw [List.filterMap_cons_some changes, Option.elim_some, List.foldl_cons]

end IceAdapter

/-- The client keeps the host of the game that its user plays. `playing` tells that the game is connected to the
adapter, and the changes are those that the client has made to the roles in the adapter. -/
structure Testclient where
  gameId : Int
  playing : Bool
  changes : List (Change Int)

namespace Testclient

/-- The constructor leaves `gameId` without a value. -/
def initial : Testclient := ⟨-1, false, []⟩

def change (changes : List (Change Int)) (client : Testclient) : Testclient :=
  { client with changes := client.changes ++ changes }

/-- The roles in the adapter. -/
def roles (client : Testclient) : Links Int := client.changes.foldl Change.apply fun _ => none

/-- The adapter drops its relays when its game disconnects. The client also calls `leaveGame`, which is an event of its
own. -/
def leave (client : Testclient) : Testclient where
  gameId := -1
  playing := false
  changes := client.changes ++ if client.playing then [.clear] else []

def onHostLeft (jsonCpp : JsonCpp) (params : List Value) (client : Testclient) : Testclient :=
  if params.length < 1 then client
  else
    match jsonCpp.asInt (params.getD 0 .nullValue) with
    | .error _ => client
    | .ok playerId => if client.gameId = playerId then client.leave else client

/-- The command that a client passes on to its adapter. -/
def sendToIceAdapter (environment : RpcEnvironment) (params : List Value) : Option IceAdapter.Event :=
  if params.length < 2 then none
  else
    match environment.jsonCpp.asString (params.getD 0 .nullValue) with
    | .error _ => none
    | .ok method =>
        (RpcMethod.ofName? method).bind fun known =>
          known.command? environment (params.getD 1 .nullValue).elements

/-- A request of the server. The list of the games is only shown. -/
def hear (environment : RpcEnvironment) (client : Testclient) (request : LobbyRequest) : Testclient :=
  if request.method = "sendToIceAdapter" then
    client.change ((sendToIceAdapter environment request.params).bind IceAdapter.Event.change?).toList
  else if request.method = "onHostLeft" then client.onHostLeft environment.jsonCpp request.params
  else client

/-- A game that is hosted or joined is connected to the adapter. -/
def click (jsonCpp : JsonCpp) (playerId : Int) (params : List Value) (client : Testclient) :
    LobbyMethod → Testclient
  | .hostGame => { client with gameId := playerId, playing := true }
  | .joinGame =>
      match jsonCpp.asInt (params.getD 0 .nullValue) with
      | .error _ => { client with playing := true }
      | .ok gameId => { client with gameId := gameId, playing := true }
  | .leaveGame => client.leave
  | .login | .reconnect | .sendIceMsg => client

def follow (environment : RpcEnvironment) (playerId : Int) (client : Testclient) : PlayerEvent → Testclient
  | .calls method params => client.click environment.jsonCpp playerId params method
  | .asked request => client.hear environment request

section Commands

variable {environment : RpcEnvironment} {client : Testclient} {socket : Option Nat}

theorem change_nil : client.change [] = client := by
  unfold change
  rw [List.append_nil]

theorem change_change (first second : List (Change Int)) :
    (client.change first).change second = client.change (first ++ second) := by
  unfold change
  rw [List.append_assoc]

theorem roles_change (changes : List (Change Int)) :
    (client.change changes).roles = changes.foldl Change.apply client.roles := List.foldl_append

theorem sendToIceAdapter_command {method : RpcMethod} (arguments : List Value) :
    sendToIceAdapter environment (LobbyRequest.command method.name arguments) =
      method.command? environment arguments := by
  change (match environment.jsonCpp.asString (.stringValue (bytes method.name)) with
    | .error _ => none
    | .ok name => (RpcMethod.ofName? name).bind fun known => known.command? environment arguments) = _
  rw [environment.jsonCpp.asString_string]
  simp only [RpcMethod.ofName?_name, Option.bind_some]

theorem hear_command {method : RpcMethod} {arguments : List Value} {event : IceAdapter.Event}
    (commands : method.command? environment arguments = some event) :
    client.hear environment ⟨socket, "sendToIceAdapter", LobbyRequest.command method.name arguments⟩ =
      client.change event.change?.toList := by
  rw [hear, if_pos rfl, sendToIceAdapter_command, commands]
  rfl

theorem hear_disconnect {playerId : Int} (fits : FitsInt32 playerId) :
    client.hear environment
        ⟨socket, "sendToIceAdapter", LobbyRequest.command "disconnectFromPeer" [.intValue playerId]⟩ =
      client.change [.remove playerId] := by
  apply @hear_command environment client socket .disconnectFromPeer _ (.disconnectFromPeer playerId)
  change (environment.jsonCpp.asInt (.intValue playerId) >>= _).toOption = _
  rw [environment.jsonCpp.asInt_fits _ playerId rfl fits]
  rfl

theorem hear_join {playerId : Int} {login : Bytes} (fits : FitsInt32 playerId) :
    client.hear environment
        ⟨socket, "sendToIceAdapter", LobbyRequest.command "joinGame" [.stringValue login, .intValue playerId]⟩ =
      client.change [.add playerId false] := by
  apply @hear_command environment client socket .joinGame _ (.joinGame login playerId environment.port)
  change (environment.jsonCpp.asString (.stringValue login) >>= fun login => _).toOption = _
  rw [environment.jsonCpp.asString_string]
  change (environment.jsonCpp.asInt (.intValue playerId) >>= _).toOption = _
  rw [environment.jsonCpp.asInt_fits _ playerId rfl fits]
  rfl

theorem hear_connect {playerId : Int} {login : Bytes} {createOffer : Bool} (fits : FitsInt32 playerId)
    (asBool : environment.asBool (.booleanValue createOffer) = .ok createOffer) :
    client.hear environment ⟨socket, "sendToIceAdapter", LobbyRequest.command "connectToPeer"
        [.stringValue login, .intValue playerId, .booleanValue createOffer]⟩ =
      client.change [.add playerId createOffer] := by
  apply @hear_command environment client socket .connectToPeer _
    (.connectToPeer login playerId createOffer environment.port)
  change (environment.jsonCpp.asString (.stringValue login) >>= fun login => _).toOption = _
  rw [environment.jsonCpp.asString_string]
  change (environment.jsonCpp.asInt (.intValue playerId) >>= fun playerId => _).toOption = _
  rw [environment.jsonCpp.asInt_fits _ playerId rfl fits]
  change (environment.asBool (.booleanValue createOffer) >>= fun createOffer => _).toOption = _
  rw [asBool]
  rfl

/-- An ICE message changes no role. -/
theorem hear_iceMsg (arguments : List Value) :
    client.hear environment ⟨socket, "sendToIceAdapter", LobbyRequest.command "iceMsg" arguments⟩ = client := by
  rw [hear, if_pos rfl]
  change client.change ((sendToIceAdapter environment
    (LobbyRequest.command RpcMethod.iceMsg.name arguments)).bind _).toList = client
  rw [sendToIceAdapter_command]
  exact change_nil

theorem hear_hostLeft {host : Int} (fits : FitsInt32 host) :
    client.hear environment ⟨socket, "onHostLeft", [.intValue host]⟩ =
      if client.gameId = host then client.leave else client := by
  have number := environment.jsonCpp.asInt_fits (.intValue host) host rfl fits
  change (match environment.jsonCpp.asInt (.intValue host) with
    | .error _ => client
    | .ok playerId => if client.gameId = playerId then client.leave else client) = _
  rw [number]

/-- A client whose game is connected leaves no relays behind. -/
theorem roles_leave (playing : client.playing = true) : client.leave.roles = fun _ => none := by
  rw [roles, leave, playing, if_pos rfl, List.foldl_append]
  rfl

end Commands
end Testclient
end Faf
