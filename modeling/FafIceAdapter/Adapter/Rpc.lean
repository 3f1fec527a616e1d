import FafIceAdapter.Adapter.IceAdapter
import FafIceAdapter.JsonRpc.Processing
import FafIceAdapter.Library.Fallible
import FafIceAdapter.Relay.PeerRelay

namespace Faf
open Json JsonRpc

/-- The adapter with the peer connections of its relays, and whether its thread was told to quit. -/
structure LiveAdapter where
  adapter : IceAdapter
  peers : Int → Option Relay
  quits : Bool

/-- What the callbacks use besides the adapter. A relay that they create gets a port, and its peer connection reports
states. The rest is shown by the status only. -/
structure RpcEnvironment where
  jsonCpp : JsonCpp
  webRtc : WebRtc
  asBool : Value → Except Exception Bool
  port : Nat
  creation : Creation
  version : Bytes
  rpcPort : Int
  gpgnetPort : Int
  logDirectory : Bytes
  relayStatus : PeerRelay → Option Relay → Value

/-- A callback that tests its parameters, and answers an exception of its body with its text. -/
structure RpcCallback where
  malformed : List Value → Bool
  need : String
  body : List Value → LiveAdapter → LiveAdapter × Option Exception

/-- The result and the error of a callback start as null. -/
def RpcCallback.call (callback : RpcCallback) (params : List Value) (live : LiveAdapter) :
    LiveAdapter × Value × Value :=
  if callback.malformed params then (live, .nullValue, .stringValue (bytes callback.need))
  else
    match callback.body params live with
    | (next, none) => (next, .stringValue (bytes "ok"), .nullValue)
    | (next, some exception) => (next, .nullValue, .stringValue (bytes exception.what))

/-- The methods that `_connectRpcMethods` registers. -/
inductive RpcMethod where
  | quit
  | hostGame
  | joinGame
  | connectToPeer
  | disconnectFromPeer
  | setLobbyInitMode
  | iceMsg
  | sendToGpgNet
  | setIceServers
  | status
  deriving DecidableEq

namespace RpcMethod

def name : RpcMethod → String
  | quit => "quit"
  | hostGame => "hostGame"
  | joinGame => "joinGame"
  | connectToPeer => "connectToPeer"
  | disconnectFromPeer => "disconnectFromPeer"
  | setLobbyInitMode => "setLobbyInitMode"
  | iceMsg => "iceMsg"
  | sendToGpgNet => "sendToGpgNet"
  | setIceServers => "setIceServers"
  | status => "status"

def registered : List RpcMethod :=
  [quit, hostGame, joinGame, connectToPeer, disconnectFromPeer, setLobbyInitMode, iceMsg, sendToGpgNet,
    setIceServers, status]

def ofName? (method : Bytes) : Option RpcMethod := registered.find? fun candidate => bytes candidate.name = method

theorem ofName?_name (method : RpcMethod) : ofName? (bytes method.name) = some method := by
  cases method <;> rfl

end RpcMethod

namespace LiveAdapter

def onAdapter (change : IceAdapter → IceAdapter) (live : LiveAdapter) : LiveAdapter :=
  { live with adapter := change live.adapter }

/-- A relay that exists is kept. -/
def createPeer (remotePlayerId : Int) (createOffer : Bool) (creation : Creation) (live : LiveAdapter) :
    LiveAdapter :=
  if remotePlayerId ∈ live.adapter.relays then live
  else { live with peers := Function.update live.peers remotePlayerId (Relay.create createOffer creation) }

def removePeer (remotePlayerId : Int) (live : LiveAdapter) : LiveAdapter :=
  { live with peers := Function.update live.peers remotePlayerId none }

/-- The exception of a relay passes through the adapter. -/
def iceMsg (environment : RpcEnvironment) (remotePlayerId : Int) (msg : Value) (live : LiveAdapter) :
    LiveAdapter × Option Exception :=
  match live.peers remotePlayerId with
  | none => (live, none)
  | some relay =>
      ({ live with
        peers := Function.update live.peers remotePlayerId
          (relay.addIceMessage environment.jsonCpp environment.webRtc msg environment.creation) },
        match Relay.readIceMessage environment.jsonCpp environment.webRtc msg with
        | .error exception => some exception
        | .ok _ => none)

def members (entries : List (String × Value)) : Value :=
  entries.foldl (fun object entry => object.set (bytes entry.1) entry.2) .nullValue

def iceServerStatus (server : IceServer) : Value :=
  members ((if server.uri ≠ [] then [("url", .stringValue server.uri)] else []) ++
    (if server.urls ≠ [] then [("urls", .arrayValue (server.urls.map .stringValue))] else []) ++
    [("credential", .stringValue server.password), ("username", .stringValue server.username)])

def status (environment : RpcEnvironment) (live : LiveAdapter) : Value :=
  members [
    ("version", .stringValue environment.version),
    ("lobby_port", .intValue live.adapter.lobbyPort),
    ("init_mode", .stringValue live.adapter.lobbyInitMode),
    ("ice_servers", .arrayValue (live.adapter.iceServers.map iceServerStatus)),
    ("options", members [
      ("player_id", .intValue live.adapter.options.localPlayerId),
      ("player_login", .stringValue live.adapter.options.localPlayerLogin),
      ("rpc_port", .intValue environment.rpcPort),
      ("gpgnet_port", .intValue environment.gpgnetPort),
      ("lobby_port", .intValue live.adapter.options.gameUdpPort),
      ("log_file", .stringValue environment.logDirectory)]),
    ("gpgnet", members [
      ("local_port", .intValue environment.gpgnetPort),
      ("connected", .booleanValue live.adapter.hasConnectedClient),
      ("game_state", .stringValue live.adapter.gpgnetGameState),
      ("task_string", .stringValue live.adapter.gametaskString)]),
    ("relays", .arrayValue (live.adapter.relays.toList.map fun entry =>
      environment.relayStatus entry.2 (live.peers entry.1)))]

end LiveAdapter

namespace RpcCallback

/-- The constant index operator gives null outside of the array. -/
def param (params : List Value) (index : Nat) : Value := params.getD index .nullValue

/-- The parameters are converted before the method of the adapter is called. -/
def converting {A : Type} (live : LiveAdapter) (converted : Except Exception A)
    (use : A → LiveAdapter × Option Exception) : LiveAdapter × Option Exception :=
  match converted with
  | .error exception => (live, some exception)
  | .ok value => use value

section Callbacks

variable (environment : RpcEnvironment)

def hostGame : RpcCallback where
  malformed params := params.length < 1
  need := "Need 1 parameter: mapName (string)"
  body params live :=
    converting live (environment.jsonCpp.asString (param params 0)) fun map =>
      (live.onAdapter (·.hostGame map), none)

def joinGame : RpcCallback where
  malformed params := params.length < 2
  need := "Need 2 parameters: remotePlayerLogin (string), remotePlayerId (int)"
  body params live :=
    converting live
      (do
        let login ← environment.jsonCpp.asString (param params 0)
        let playerId ← environment.jsonCpp.asInt (param params 1)
        return (login, playerId))
      fun (login, playerId) =>
        ((live.createPeer playerId false environment.creation).onAdapter
          (·.joinGame login playerId environment.port), none)

def connectToPeer : RpcCallback where
  malformed params := params.length < 3
  need := "Need 3 parameters: remotePlayerLogin (string), remotePlayerId (int), createOffer (bool)"
  body params live :=
    converting live
      (do
        let login ← environment.jsonCpp.asString (param params 0)
        let playerId ← environment.jsonCpp.asInt (param params 1)
        let createOffer ← environment.asBool (param params 2)
        return (login, playerId, createOffer))
      fun (login, playerId, createOffer) =>
        ((live.createPeer playerId createOffer environment.creation).onAdapter
          (·.connectToPeer login playerId createOffer environment.port), none)

def disconnectFromPeer : RpcCallback where
  malformed params := params.length < 1
  need := "Need 1 parameters: remotePlayerId (int)"
  body params live :=
    converting live (environment.jsonCpp.asInt (param params 0)) fun playerId =>
      ((live.removePeer playerId).onAdapter (·.disconnectFromPeer playerId), none)

def setLobbyInitMode : RpcCallback where
  malformed params := params.length < 1 || !(param params 0).isString
  need := "Need 1 parameters: initMode (string)"
  body params live :=
    converting live (environment.jsonCpp.asString (param params 0)) fun initMode =>
      (live.onAdapter (·.setLobbyInitMode initMode), none)

def iceMsg : RpcCallback where
  malformed params := params.length < 2 || !(param params 1).isObject
  need := "Need 2 parameters: remotePlayerId (int), msg (object)"
  body params live :=
    converting live (environment.jsonCpp.asInt (param params 0)) fun playerId =>
      live.iceMsg environment playerId (param params 1)

def sendToGpgNet : RpcCallback where
  malformed params := params.length < 2 || !(param params 1).isArray
  need := "Need 2 parameters: header (string), chunks (array)"
  body params live :=
    converting live (environment.jsonCpp.asString (param params 0)) fun header =>
      let (adapter, exception) :=
        live.adapter.sendToGpgNet environment.jsonCpp ⟨header, (param params 1).elements⟩
      ({ live with adapter := adapter }, exception)

def setIceServers : RpcCallback where
  malformed params := params.length < 1 || !(param params 0).isArray
  need := "Need 1 parameters: iceServers (array) "
  body params live :=
    let (adapter, exception) := live.adapter.setIceServers environment.jsonCpp (param params 0)
    ({ live with adapter := adapter }, exception)

end Callbacks
end RpcCallback

namespace LiveAdapter

/-- The methods that can fail. -/
def callback? (environment : RpcEnvironment) : RpcMethod → Option RpcCallback
  | .quit | .status => none
  | .hostGame => some (.hostGame environment)
  | .joinGame => some (.joinGame environment)
  | .connectToPeer => some (.connectToPeer environment)
  | .disconnectFromPeer => some (.disconnectFromPeer environment)
  | .setLobbyInitMode => some (.setLobbyInitMode environment)
  | .iceMsg => some (.iceMsg environment)
  | .sendToGpgNet => some (.sendToGpgNet environment)
  | .setIceServers => some (.setIceServers environment)

/-- A call of a registered method leaves an adapter, a result and an error. -/
def call (environment : RpcEnvironment) (method : RpcMethod) (params : List Value) (live : LiveAdapter) :
    LiveAdapter × Value × Value :=
  match callback? environment method with
  | some callback => callback.call params live
  | none =>
      if method = .quit then ({ live with quits := true }, .stringValue (bytes "ok"), .nullValue)
      else (live, live.status environment, .nullValue)

/-- The callbacks that the server finds while the adapter is in a state. -/
def connectRpcMethods (environment : RpcEnvironment) (live : LiveAdapter) : Callbacks where
  callbacks method := (RpcMethod.ofName? method).map fun method params _ =>
    .ok (call environment method params.elements live).2
  callbacksAsync _ := none

/-- An answer is either a result or an error. -/
theorem call_exclusive (environment : RpcEnvironment) (method : RpcMethod) (params : List Value)
    (live : LiveAdapter) :
    (call environment method params live).2.1.isNull ≠ (call environment method params live).2.2.isNull := by
  have outcome (callback : RpcCallback) :
      (callback.call params live).2.1.isNull ≠ (callback.call params live).2.2.isNull := by
    rw [RpcCallback.call]
    split
    · exact Bool.true_eq_false_eq_False
    · split <;> simp [Value.isNull]
  unfold call
  split
  · exact outcome _
  · split <;> simp [Value.isNull, status, members, Value.set]

/-- The response to a request carries the error of the callback. -/
theorem processRequest_error (environment : RpcEnvironment) (live : LiveAdapter) (method : RpcMethod)
    (request : Value) (socket : Nat)
    (named : request.member (bytes "method") = .stringValue (bytes method.name)) :
    ∃ response, processRequest (connectRpcMethods environment live) request socket = [response] ∧
      (response.isMember (bytes "error") ↔
        (call environment method (paramsOf request).elements live).2.2.isNull = false) := by
  have member : request.isMember (bytes "method") := by
    cases request with
    | objectValue members =>
        cases found : members.lookup (bytes "method") with
        | none => simp [Value.member, found] at named
        | some value => simp [Value.isMember, found]
    | _ => simp [Value.member] at named
  obtain ⟨next, result, error, called⟩ : ∃ next result error,
      call environment method (paramsOf request).elements live = (next, result, error) := ⟨_, _, _, rfl⟩
  have exclusive := call_exclusive environment method (paramsOf request).elements live
  have found : (connectRpcMethods environment live).callbacks (bytes method.name) =
      some fun params _ => .ok (call environment method params.elements live).2 :=
    congrArg (Option.map _) (RpcMethod.ofName?_name method)
  obtain ⟨_, unset⟩ := isMember_responseTo request
  have assigned := Value.isMember_set_same (assigned_responseTo request) (bytes "error") error
  have kept : ((responseTo request).set (bytes "result") result).isMember (bytes "error") = false := by
    rw [Value.isMember_set_of_ne (by decide), unset]
  rw [processRequest, member, named]
  simp only [found, called] at exclusive ⊢
  refine ⟨_, rfl, ?_⟩
  rw [respond]
  cases null : result.isNull with
  | false =>
      cases null' : error.isNull with
      | false => exact absurd (null.trans null'.symm) exclusive
      | true => simp [kept]
  | true =>
      cases null' : error.isNull with
      | false => simp [assigned]
      | true => exact absurd (null.trans null'.symm) exclusive

end LiveAdapter

namespace IceAdapter

/-- What is stored of an object of the array. -/
def serverTexts (serverJson : Value) : List Value :=
  serverJson.member (bytes "url") :: (serverJson.member (bytes "urls")).elements ++
    [serverJson.member (bytes "credential"), serverJson.member (bytes "username")]

def Convertible (jsonCpp : JsonCpp) (serverJson : Value) : Prop :=
  ∀ text ∈ serverTexts serverJson, ∃ content, jsonCpp.asString text = .ok content

structure Describes (jsonCpp : JsonCpp) (serverJson : Value) (server : IceServer) : Prop where
  uri : jsonCpp.asString (serverJson.member (bytes "url")) = .ok server.uri
  urls : (serverJson.member (bytes "urls")).elements.map jsonCpp.asString = server.urls.map .ok
  password : jsonCpp.asString (serverJson.member (bytes "credential")) = .ok server.password
  username : jsonCpp.asString (serverJson.member (bytes "username")) = .ok server.username

/-- An object that cannot be converted stands behind objects that can, and these are not the current servers. -/
def Spoils (jsonCpp : JsonCpp) (servers : List Value) (iceServers : List IceServer) : Prop :=
  ∃ before serverJson after, servers = before ++ serverJson :: after ∧ serverJson.isObject ∧
    ¬ Convertible jsonCpp serverJson ∧ (∀ earlier ∈ before, earlier.isObject → Convertible jsonCpp earlier) ∧
    ¬ List.Forall₂ (Describes jsonCpp) (before.filter Value.isObject) iceServers

section Servers

variable {jsonCpp : JsonCpp} {serverJson : Value} {server : IceServer}

theorem iceServer_ok : iceServer jsonCpp serverJson = .ok server ↔ Describes jsonCpp serverJson server := by
  have read : iceServer jsonCpp serverJson = (do
      let uri ← jsonCpp.asString (serverJson.member (bytes "url"))
      let urls ← (serverJson.member (bytes "urls")).elements.mapM jsonCpp.asString
      let password ← jsonCpp.asString (serverJson.member (bytes "credential"))
      let username ← jsonCpp.asString (serverJson.member (bytes "username"))
      return ⟨uri, urls, username, password⟩) := by
    rw [iceServer]
    cases serverJson.member (bytes "urls") <;> rfl
  simp only [read, Fallible.bind_ok, Fallible.mapM_ok_iff]
  constructor
  · rintro ⟨uri, first, urls, second, password, third, username, fourth, same⟩
    obtain rfl := Except.ok.inj same
    exact ⟨first, second, third, fourth⟩
  · intro describes
    exact ⟨_, describes.uri, _, describes.urls, _, describes.password, _, describes.username, rfl⟩

theorem convertible_iff : Convertible jsonCpp serverJson ↔ ∃ server, Describes jsonCpp serverJson server := by
  simp only [Convertible, serverTexts, List.cons_append, List.forall_mem_cons, List.forall_mem_append]
  constructor
  · rintro ⟨⟨uri, first⟩, converted, ⟨password, third⟩, ⟨username, fourth⟩, _⟩
    obtain ⟨urls, second⟩ := Fallible.mapM_total converted
    exact ⟨⟨uri, urls, username, password⟩, first, second, third, fourth⟩
  · rintro ⟨server, first, second, third, fourth⟩
    refine ⟨⟨_, first⟩, ?_, ⟨_, third⟩, ⟨_, fourth⟩, List.forall_mem_nil _⟩
    intro text member
    have listed : jsonCpp.asString text ∈ server.urls.map .ok := second ▸ List.mem_map_of_mem member
    obtain ⟨content, _, same⟩ := List.mem_map.mp listed
    exact ⟨content, same.symm⟩

theorem describes_unique : Relator.RightUnique (Describes jsonCpp) := by
  intro serverJson first second describes describes'
  exact Except.ok.inj ((iceServer_ok.mpr describes).symm.trans (iceServer_ok.mpr describes'))

/-- The servers that are stored describe the objects before the first one that cannot be converted. -/
theorem storeIceServers_cases (servers : List Value) :
    (storeIceServers jsonCpp servers).2 = none ∨
      ∃ before serverJson after, servers = before ++ serverJson :: after ∧ serverJson.isObject ∧
        ¬ Convertible jsonCpp serverJson ∧ (∀ earlier ∈ before, earlier.isObject → Convertible jsonCpp earlier) ∧
        List.Forall₂ (Describes jsonCpp) (before.filter Value.isObject) (storeIceServers jsonCpp servers).1 := by
  induction servers with
  | nil => exact .inl rfl
  | cons serverJson rest ih =>
      rw [storeIceServers]
      split
      · rename_i other
        rcases ih with succeeds | ⟨before, failing, after, rfl, object, fails, earlier, stored⟩
        · exact .inl succeeds
        · refine .inr ⟨serverJson :: before, failing, after, rfl, object, fails, ?_, ?_⟩
          · refine List.forall_mem_cons.mpr ⟨?_, earlier⟩
            intro isObject
            rw [isObject] at other
            contradiction
          · rw [List.filter_cons_of_neg (by simpa using other)]
            exact stored
      · rename_i isObject
        have object : serverJson.isObject := by simpa using isObject
        cases converted : iceServer jsonCpp serverJson with
        | error exception =>
            refine .inr ⟨[], serverJson, rest, rfl, object, ?_, List.forall_mem_nil _, .nil⟩
            intro convertible
            obtain ⟨server, describes⟩ := convertible_iff.mp convertible
            rw [iceServer_ok.mpr describes] at converted
            contradiction
        | ok server =>
            have describes := iceServer_ok.mp converted
            rcases ih with succeeds | ⟨before, failing, after, rfl, object', fails, earlier, stored⟩
            · exact .inl succeeds
            · refine .inr ⟨serverJson :: before, failing, after, rfl, object', fails, ?_, ?_⟩
              · exact List.forall_mem_cons.mpr ⟨fun _ => convertible_iff.mpr ⟨server, describes⟩, earlier⟩
              · rw [List.filter_cons_of_pos object]
                exact .cons describes stored

/-- An object that cannot be converted behind objects that can makes the call fail. -/
theorem storeIceServers_fails {before after : List Value} (object : serverJson.isObject)
    (fails : ¬ Convertible jsonCpp serverJson)
    (earlier : ∀ earlier ∈ before, earlier.isObject → Convertible jsonCpp earlier) :
    ∃ stored exception, storeIceServers jsonCpp (before ++ serverJson :: after) = (stored, some exception) ∧
      List.Forall₂ (Describes jsonCpp) (before.filter Value.isObject) stored := by
  induction before with
  | nil =>
      cases converted : iceServer jsonCpp serverJson with
      | ok server => exact absurd (convertible_iff.mpr ⟨server, iceServer_ok.mp converted⟩) fails
      | error exception =>
          refine ⟨[], exception, ?_, .nil⟩
          rw [List.nil_append, storeIceServers, object, converted]
          rfl
  | cons first rest ih =>
      obtain ⟨here, others⟩ := List.forall_mem_cons.mp earlier
      obtain ⟨stored, exception, same, describes⟩ := ih others
      rw [List.cons_append, storeIceServers]
      cases isObject : first.isObject with
      | false =>
          rw [List.filter_cons_of_neg (by simp [isObject])]
          exact ⟨stored, exception, same, describes⟩
      | true =>
          obtain ⟨server, described⟩ := convertible_iff.mp (here isObject)
          rw [iceServer_ok.mpr described, same, List.filter_cons_of_pos isObject]
          exact ⟨server :: stored, exception, rfl, .cons described describes⟩

end Servers
end IceAdapter

/-- An exception leaves before the body has done anything. -/
def RpcCallback.Atomic (callback : RpcCallback) : Prop :=
  ∀ params live next exception, callback.body params live = (next, some exception) → next = live

section Failing

variable {environment : RpcEnvironment} {live next : LiveAdapter} {exception : Exception}

theorem RpcCallback.atomic_converting {A : Type} {converted : Except Exception A}
    {use : A → LiveAdapter × Option Exception}
    (atomic : ∀ value, use value = (next, some exception) → next = live)
    (fails : converting live converted use = (next, some exception)) : next = live := by
  unfold converting at fails
  split at fails
  · exact (congrArg Prod.fst fails).symm
  · exact atomic _ fails

theorem LiveAdapter.atomic_iceMsg {remotePlayerId : Int} {msg : Value}
    (fails : live.iceMsg environment remotePlayerId msg = (next, some exception)) : next = live := by
  rw [iceMsg] at fails
  split at fails
  · simp at fails
  · rename_i relay present
    split at fails
    · rename_i thrown reads
      have kept : relay.addIceMessage environment.jsonCpp environment.webRtc msg environment.creation =
          some relay := by
        rw [Relay.addIceMessage, reads]
      rw [kept, ← present, Function.update_eq_self] at fails
      exact (congrArg Prod.fst fails).symm
    · simp at fails

theorem IceAdapter.atomic_sendToGpgNet {jsonCpp : JsonCpp} {message : GPGNetMessage} {adapter after : IceAdapter}
    (fails : adapter.sendToGpgNet jsonCpp message = (after, some exception)) : after = adapter := by
  rw [sendToGpgNet] at fails
  split at fails
  · simp at fails
  · split at fails
    · exact (congrArg Prod.fst fails).symm
    · simp at fails

/-- Every method but `setIceServers` converts its parameters before it changes anything. -/
theorem LiveAdapter.atomic_callback {method : RpcMethod} {callback : RpcCallback}
    (other : method ≠ .setIceServers) (found : callback? environment method = some callback) :
    callback.Atomic := by
  intro params live next exception fails
  cases method with
  | setIceServers => contradiction
  | quit | status => contradiction
  | iceMsg =>
      obtain rfl := Option.some.inj found
      exact RpcCallback.atomic_converting (fun _ => atomic_iceMsg) fails
  | sendToGpgNet =>
      obtain rfl := Option.some.inj found
      apply RpcCallback.atomic_converting ?_ fails
      intro header used
      have same := IceAdapter.atomic_sendToGpgNet (Prod.ext rfl (congrArg Prod.snd used : _ = some exception))
      rw [← show _ = next from congrArg Prod.fst used]
      exact congrArg (LiveAdapter.mk · live.peers live.quits) same
  | _ =>
      obtain rfl := Option.some.inj found
      apply RpcCallback.atomic_converting ?_ fails
      intro value used
      exact absurd (congrArg Prod.snd used) (Option.some_ne_none exception).symm

/-- An error of a callback is about its parameters, or the text of an exception. -/
theorem RpcCallback.call_error {callback : RpcCallback} {params : List Value}
    (error : (callback.call params live).2.2.isNull = false) :
    (callback.call params live).1 = live ∨
      ∃ next exception, callback.body params live = (next, some exception) ∧
        (callback.call params live).1 = next := by
  rw [call] at error ⊢
  split
  · exact .inl rfl
  · rename_i formed
    rw [if_neg formed] at error
    split at error
    · contradiction
    · rename_i next exception thrown
      exact .inr ⟨next, exception, thrown, rfl⟩

/-- The relays with their peer connections and ICE servers, the tasks, the lobby mode and the servers stay, and
nothing is sent to the game. -/
structure LiveAdapter.Untouched (live next : LiveAdapter) : Prop where
  relays : next.adapter.relays = live.adapter.relays
  peers : next.peers = live.peers
  gameTasks : next.adapter.gameTasks = live.adapter.gameTasks
  gametaskString : next.adapter.gametaskString = live.adapter.gametaskString
  lobbyInitMode : next.adapter.lobbyInitMode = live.adapter.lobbyInitMode
  iceServers : next.adapter.iceServers = live.adapter.iceServers
  trace : next.adapter.trace = live.adapter.trace

theorem LiveAdapter.untouched_refl (live : LiveAdapter) : Untouched live live := ⟨rfl, rfl, rfl, rfl, rfl, rfl, rfl⟩

/-- A call of `setIceServers` that fails stores the servers before the object that cannot be converted. -/
theorem IceAdapter.setIceServers_fails {jsonCpp : JsonCpp} {servers : Value} {adapter after : IceAdapter}
    (fails : adapter.setIceServers jsonCpp servers = (after, some exception)) :
    after = { adapter with iceServers := (storeIceServers jsonCpp servers.elements).1 } ∧
      (storeIceServers jsonCpp servers.elements).2 = some exception := by
  rw [setIceServers] at fails
  split at fails
  · rename_i stored thrown same
    obtain ⟨rfl, same'⟩ := Prod.mk.inj fails
    obtain rfl := Option.some.inj same'
    rw [same]
    exact ⟨rfl, rfl⟩
  · simp at fails

/-- An array that spoils the servers makes the call fail with other servers. -/
theorem IceAdapter.setIceServers_spoils {jsonCpp : JsonCpp} {servers : Value} {adapter : IceAdapter}
    (spoils : Spoils jsonCpp servers.elements adapter.iceServers) :
    (adapter.setIceServers jsonCpp servers).2.isSome ∧
      (adapter.setIceServers jsonCpp servers).1.iceServers ≠ adapter.iceServers := by
  obtain ⟨before, serverJson, after, split, object, fails, earlier, different⟩ := spoils
  obtain ⟨stored, exception, same, describes⟩ := @storeIceServers_fails jsonCpp serverJson before after object fails
    earlier
  rw [setIceServers, split, same]
  refine ⟨rfl, ?_⟩
  intro kept
  have equal : stored = adapter.iceServers := kept
  rw [equal] at describes
  exact different describes

/-- A call that fails without such an array stores the servers that the adapter has. -/
theorem IceAdapter.setIceServers_keeps {jsonCpp : JsonCpp} {servers : Value} {adapter after : IceAdapter}
    (harmless : ¬ Spoils jsonCpp servers.elements adapter.iceServers)
    (fails : adapter.setIceServers jsonCpp servers = (after, some exception)) : after = adapter := by
  obtain ⟨rfl, thrown⟩ := setIceServers_fails fails
  rcases @storeIceServers_cases jsonCpp servers.elements with
    succeeds | ⟨before, serverJson, later, split, object, fails, earlier, describes⟩
  · rw [succeeds] at thrown
    contradiction
  · have current : List.Forall₂ (Describes jsonCpp) (before.filter Value.isObject) adapter.iceServers := by
      by_contra different
      exact harmless ⟨before, serverJson, later, split, object, fails, earlier, different⟩
    rw [List.right_unique_forall₂' describes_unique describes current]

theorem RpcCallback.setIceServers_keeps {params : List Value}
    (harmless : ¬ IceAdapter.Spoils environment.jsonCpp (param params 0).elements live.adapter.iceServers)
    (fails : (setIceServers environment).body params live = (next, some exception)) : next = live := by
  have kept := IceAdapter.setIceServers_keeps harmless (Prod.ext rfl (congrArg Prod.snd fails : _ = some exception))
  rw [← show _ = next from congrArg Prod.fst fails]
  exact congrArg (LiveAdapter.mk · live.peers live.quits) kept

/-- An array that spoils the servers gets an error for an answer. -/
theorem RpcCallback.setIceServers_spoils {params : List Value}
    (spoils : IceAdapter.Spoils environment.jsonCpp (param params 0).elements live.adapter.iceServers) :
    ((setIceServers environment).call params live).2.2.isNull = false ∧
      ((setIceServers environment).call params live).1.adapter.iceServers ≠ live.adapter.iceServers := by
  obtain ⟨fails, different⟩ := IceAdapter.setIceServers_spoils spoils
  obtain ⟨exception, thrown⟩ := Option.isSome_iff_exists.mp fails
  have formed : (setIceServers environment).malformed params = false := by
    obtain ⟨before, serverJson, after, split, _⟩ := spoils
    cases params with
    | nil => simp [param, Value.elements] at split
    | cons servers rest =>
        cases servers with
        | arrayValue elements => simp [setIceServers, param, Value.isArray]
        | _ => simp [param, Value.elements] at split
  have body : (setIceServers environment).body params live =
      ({ live with adapter := (live.adapter.setIceServers environment.jsonCpp (param params 0)).1 },
        some exception) := Prod.ext rfl thrown
  rw [call, formed, body]
  exact ⟨rfl, different⟩

namespace LiveAdapter

/-- A call that answers with an error changes nothing, exactly when it gives `setIceServers` no array that spoils
the servers of the adapter. -/
theorem failed_untouched_iff (environment : RpcEnvironment) (method : RpcMethod) (params : List Value)
    (live : LiveAdapter) :
    ((call environment method params live).2.2.isNull = false →
        Untouched live (call environment method params live).1) ↔
      ¬ (method = .setIceServers ∧
        IceAdapter.Spoils environment.jsonCpp (RpcCallback.param params 0).elements live.adapter.iceServers) := by
  constructor
  · rintro untouched ⟨rfl, spoils⟩
    obtain ⟨error, different⟩ := RpcCallback.setIceServers_spoils spoils
    exact different (untouched error).iceServers
  · intro harmless error
    unfold call at error ⊢
    split at error
    · rename_i callback found
      rcases callback.call_error error with same | ⟨next, exception, thrown, same⟩
      · rw [same]
        exact untouched_refl live
      · have kept : next = live := by
          by_cases setting : method = .setIceServers
          · subst setting
            obtain rfl := Option.some.inj found
            exact RpcCallback.setIceServers_keeps (fun spoils => harmless ⟨rfl, spoils⟩) thrown
          · exact atomic_callback setting found params live next exception thrown
        rw [same, kept]
        exact untouched_refl live
    · split at error <;> contradiction

end LiveAdapter
end Failing

namespace LiveAdapter

/-- An environment in which nothing needs a port or a status. -/
def plainEnvironment : RpcEnvironment where
  jsonCpp := Sample.jsonCpp fun _ => (false, .nullValue)
  webRtc := .accepting
  asBool value := .ok !value.isNull
  port := 6113
  creation := .silent
  version := bytes "SNAPSHOT"
  rpcPort := 7236
  gpgnetPort := 7237
  logDirectory := []
  relayStatus _ _ := .nullValue

def stunServer : Value :=
  members [("url", .stringValue (bytes "stun:vmrbg145.informatik.tu-muenchen.de")), ("credential", .stringValue []),
    ("username", .stringValue [])]

/-- An adapter that knows a server. -/
def serving : LiveAdapter :=
  (call plainEnvironment .setIceServers [.arrayValue [stunServer]]
    ⟨.initial ⟨1, bytes "Rhiza", 0⟩ 6112, fun _ => none, false⟩).1

/-- The server is gone when the next array holds an object whose url is one, too. -/
theorem failed_spoils : ¬ ∀ (environment : RpcEnvironment) (method : RpcMethod) (params : List Value)
    (live : LiveAdapter), (call environment method params live).2.2.isNull = false →
      Untouched live (call environment method params live).1 := by
  intro claim
  have untouched := claim plainEnvironment .setIceServers
    [.arrayValue [members [("url", .objectValue [])]]] serving rfl
  exact absurd (congrArg List.length untouched.iceServers) (by decide)

end LiveAdapter
end Faf
