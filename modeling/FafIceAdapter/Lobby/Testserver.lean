import FafIceAdapter.Json.Object
import FafIceAdapter.Library.Transition
import Std.Data.ExtTreeMap
import Std.Data.ExtTreeSet

namespace Faf
open Json Transition

/-- A notification of the server, with the socket that it is addressed to. One without a socket is for all of them. -/
structure LobbyRequest where
  socket : Option Nat
  method : String
  params : List Value

/-- The parameters of `sendToIceAdapter`. -/
def LobbyRequest.command (method : String) (arguments : List Value) : List Value :=
  [.stringValue (bytes method), .arrayValue arguments]

/-- A socket of the table is a pointer, and `requests` holds what the server has sent. -/
structure Testserver where
  currentPlayerId : Int
  playerSockets : Std.ExtTreeMap Int (Option Nat)
  socketPlayers : Std.ExtTreeMap Nat Int
  playersLogins : Std.ExtTreeMap Int Bytes
  playersGames : Std.ExtTreeMap Int Int
  games : Std.ExtTreeMap Int (Std.ExtTreeSet Int)
  requests : List LobbyRequest

/-- The methods that the constructor registers. -/
inductive LobbyMethod where
  | login
  | reconnect
  | hostGame
  | leaveGame
  | joinGame
  | sendIceMsg
  deriving DecidableEq

namespace Testserver

def empty : Testserver := ⟨0, ∅, ∅, ∅, ∅, ∅, []⟩

def sendRequest (method : String) (params : List Value) (socket : Option Nat) (server : Testserver) : Testserver :=
  { server with requests := server.requests ++ [⟨socket, method, params⟩] }

/-- The index operator of the table creates a null pointer for a player that it does not hold. -/
def sendToPlayer (playerId : Int) (method : String) (params : List Value) (server : Testserver) : Testserver :=
  sendRequest method params server.playerSockets[playerId]?.join
    { server with playerSockets := server.playerSockets.insertIfNew playerId none }

/-- A host without a login throws. -/
def gamelistJson (server : Testserver) : Option Value :=
  server.games.keys.foldlM (fun result host => do
    let login ← server.playersLogins[host]?
    return result.set login (.intValue host)) (.objectValue [])

/-- An exception leaves the state that it interrupts. -/
def sendGamelist (server : Testserver) : Except Testserver Testserver :=
  match server.gamelistJson with
  | some gamelist => .ok (server.sendRequest "onGamelist" [gamelist] none)
  | none => .error server

/-- The part of a handler before an exception takes effect. -/
def settle : Except Testserver Testserver → Testserver
  | .ok server => server
  | .error server => server

/-- The fellow players are told about the leaving player, who is told about each of them. -/
def disconnectFellow (leavingPlayerId : Int) (server : Testserver) (fellowPlayerId : Int) : Testserver :=
  if fellowPlayerId ≠ leavingPlayerId then
    (server.sendToPlayer fellowPlayerId "sendToIceAdapter"
        (LobbyRequest.command "disconnectFromPeer" [.intValue leavingPlayerId])).sendToPlayer leavingPlayerId
      "sendToIceAdapter" (LobbyRequest.command "disconnectFromPeer" [.intValue fellowPlayerId])
  else server

/-- The second half of `disconnectPlayerFromGame`. The game of the player may be closed already. -/
def leavePlayersGame (leavingPlayerId : Int) (server : Testserver) : Testserver :=
  match server.playersGames[leavingPlayerId]? with
  | none => server
  | some gameId =>
      match server.games[gameId]? with
      | none => { server with playersGames := server.playersGames.erase leavingPlayerId }
      | some players =>
          let told := players.toList.foldl (disconnectFellow leavingPlayerId) server
          { told with
            games := told.games.insert gameId (players.erase leavingPlayerId)
            playersGames := told.playersGames.erase leavingPlayerId }

def disconnectPlayerFromGame (leavingPlayerId : Int) (server : Testserver) : Except Testserver Testserver :=
  match server.games[leavingPlayerId]? with
  | none => .ok (server.leavePlayersGame leavingPlayerId)
  | some players => do
      let told := players.toList.foldl (fun server fellowPlayerId =>
        server.sendToPlayer fellowPlayerId "onHostLeft" [.intValue leavingPlayerId]) server
      let listed ← sendGamelist { told with games := told.games.erase leavingPlayerId }
      return listed.leavePlayersGame leavingPlayerId

def onDisconnected (socket : Nat) (server : Testserver) : Except Testserver Testserver :=
  match server.socketPlayers[socket]? with
  | none => .ok server
  | some leavingPlayerId => do
      let left ← server.disconnectPlayerFromGame leavingPlayerId
      return { left with
        playerSockets := left.playerSockets.erase leavingPlayerId
        socketPlayers := left.socketPlayers.erase socket
        playersLogins := left.playersLogins.erase leavingPlayerId }

/-- The loop tries the suffixes from one on. Of more suffixes than logins one is unused. -/
def unusedLogin (logins : List Bytes) (login : Bytes) : Bytes :=
  if login ∈ logins then
    (((List.range' 1 (logins.length + 1)).map fun suffix : Nat => login ++ decimal suffix).find? (· ∉ logins)).getD
      login
  else login

def logins (server : Testserver) : List Bytes := server.playersLogins.toList.map Prod.snd

/-- The player is known to the server. -/
def enterPlayer (login : Bytes) (socket : Nat) (server : Testserver) : Testserver :=
  { server with
    playerSockets := server.playerSockets.insertIfNew server.currentPlayerId (some socket)
    socketPlayers := server.socketPlayers.insertIfNew socket server.currentPlayerId
    playersLogins := server.playersLogins.insertIfNew server.currentPlayerId login }

/-- The result and the error start as null, and an exception leaves them as they are. -/
def login (jsonCpp : JsonCpp) (params : List Value) (socket : Nat) (server : Testserver) :
    Testserver × Value × Value :=
  if socket ∈ server.socketPlayers then (server, .nullValue, .stringValue (bytes "Already logged in"))
  else if params.length < 1 then
    (server, .nullValue, .stringValue (bytes "Need 1 parameters: login (string)"))
  else
    match jsonCpp.asString (params.getD 0 .nullValue) with
    | .error _ => (server, .nullValue, .nullValue)
    | .ok name =>
        let login := unusedLogin server.logins name
        let entered := server.enterPlayer login socket
        let result := (Value.set .nullValue (bytes "id") (.intValue server.currentPlayerId)).set (bytes "login")
          (.stringValue login)
        match entered.gamelistJson with
        | none => (entered, result, .nullValue)
        | some games =>
            ({ entered with currentPlayerId := entered.currentPlayerId + 1 }, result.set (bytes "games") games,
              .nullValue)

def reconnect (jsonCpp : JsonCpp) (params : List Value) (socket : Nat) (server : Testserver) :
    Testserver × Value × Value :=
  if socket ∈ server.socketPlayers then (server, .nullValue, .stringValue (bytes "Already logged in"))
  else if params.length < 1 then (server, .nullValue, .stringValue (bytes "Need 1 parameters: id (int)"))
  else
    match jsonCpp.asInt (params.getD 0 .nullValue) with
    | .error _ => (server, .nullValue, .nullValue)
    | .ok id =>
        match server.playerSockets[id]? with
        | none => (server, .nullValue, .stringValue (bytes "id not found"))
        | some former =>
            ({ server with
                socketPlayers := (former.elim server.socketPlayers server.socketPlayers.erase).insertIfNew socket id
                playerSockets := (server.playerSockets.erase id).insertIfNew id (some socket) },
              .stringValue (bytes "ok"), .nullValue)

/-- The parameters of the command leave out the map. -/
def openGame (hostingPlayerId : Int) (socket : Nat) (server : Testserver) : Except Testserver Testserver :=
  sendGamelist (sendRequest "sendToIceAdapter" [.stringValue (bytes "hostGame")] (some socket) { server with
    games := server.games.insert hostingPlayerId
      ((server.games[hostingPlayerId]?.getD ∅).insert hostingPlayerId)
    playersGames := server.playersGames.insert hostingPlayerId hostingPlayerId })

def hostGame (socket : Nat) (server : Testserver) : Except Testserver Testserver :=
  match server.socketPlayers[socket]? with
  | none => .ok server
  | some hostingPlayerId => do
      let left ← server.disconnectPlayerFromGame hostingPlayerId
      left.openGame hostingPlayerId socket

def leaveGame (socket : Nat) (server : Testserver) : Except Testserver Testserver :=
  match server.socketPlayers[socket]? with
  | none => .ok server
  | some playerId => server.disconnectPlayerFromGame playerId

/-- A player without a login throws. -/
def connectToPeer (playerId : Int) (createOffer : Bool) (send : List Value → Testserver → Testserver)
    (server : Testserver) : Except Testserver Testserver :=
  match server.playersLogins[playerId]? with
  | none => .error server
  | some login =>
      .ok (send (LobbyRequest.command "connectToPeer"
        [.stringValue login, .intValue playerId, .booleanValue createOffer]) server)

/-- A player that is in the game already and the joining player are connected. -/
def connectFellow (joiningPlayerId hostingPlayerId : Int) (socket : Nat) (server : Testserver)
    (existingPlayerId : Int) : Except Testserver Testserver :=
  if existingPlayerId = joiningPlayerId then .ok server
  else if existingPlayerId = hostingPlayerId then .ok server
  else do
    let told ← server.connectToPeer joiningPlayerId true (sendToPlayer existingPlayerId "sendToIceAdapter")
    told.connectToPeer existingPlayerId false fun params => sendRequest "sendToIceAdapter" params (some socket)

/-- The index operator creates an empty login for a host that has none. -/
def enterGame (joiningPlayerId hostingPlayerId : Int) (socket : Nat) (players : Std.ExtTreeSet Int)
    (server : Testserver) : Except Testserver Testserver := do
  let told ← connectToPeer joiningPlayerId true (sendToPlayer hostingPlayerId "sendToIceAdapter") { server with
    games := server.games.insert hostingPlayerId players
    playersGames := server.playersGames.insert joiningPlayerId hostingPlayerId }
  let asked := sendRequest "sendToIceAdapter" (LobbyRequest.command "joinGame"
      [.stringValue (told.playersLogins[hostingPlayerId]?.getD []), .intValue hostingPlayerId]) (some socket)
    { told with playersLogins := told.playersLogins.insertIfNew hostingPlayerId [] }
  players.toList.foldlM (connectFellow joiningPlayerId hostingPlayerId socket) asked

def joinGame (jsonCpp : JsonCpp) (params : List Value) (socket : Nat) (server : Testserver) :
    Testserver × Value × Value :=
  if params.length < 1 then
    (server, .nullValue, .stringValue (bytes "Need 1 parameters: remotePlayerId (int)"))
  else
    match server.socketPlayers[socket]? with
    | none => (server, .nullValue, .stringValue (bytes "playerId not found"))
    | some joiningPlayerId =>
        match server.disconnectPlayerFromGame joiningPlayerId with
        | .error interrupted => (interrupted, .nullValue, .nullValue)
        | .ok left =>
            match jsonCpp.asInt (params.getD 0 .nullValue) with
            | .error _ => (left, .nullValue, .nullValue)
            | .ok hostingPlayerId =>
                match left.games[hostingPlayerId]? with
                | none => (left, .nullValue, .stringValue (bytes "game not found"))
                | some players =>
                    (settle (left.enterGame joiningPlayerId hostingPlayerId socket (players.insert joiningPlayerId)),
                      .nullValue, .nullValue)

/-- The index operator makes a socket without a player the one of player 0. -/
def sendIceMsg (jsonCpp : JsonCpp) (params : List Value) (socket : Nat) (server : Testserver) :
    Testserver × Value × Value :=
  if params.length < 3 then
    (server, .nullValue,
      .stringValue (bytes "Need 3 parameters: playerId (int), remotePlayerId (int), sdp (string)"))
  else
    match jsonCpp.asInt (params.getD 1 .nullValue) with
    | .error _ => (server, .nullValue, .nullValue)
    | .ok remoteId =>
        match server.playerSockets[remoteId]? with
        | none => (server, .nullValue, .stringValue (bytes "remotePlayerId not found"))
        | some remoteSocket =>
            (sendRequest "sendToIceAdapter" (LobbyRequest.command "iceMsg"
                [.intValue (server.socketPlayers[socket]?.getD 0), params.getD 2 .nullValue]) remoteSocket
              { server with socketPlayers := server.socketPlayers.insertIfNew socket 0 },
              .nullValue, .nullValue)

/-- The result and the error of a call. -/
def call (jsonCpp : JsonCpp) (params : List Value) (socket : Nat) (server : Testserver) :
    LobbyMethod → Testserver × Value × Value
  | .login => server.login jsonCpp params socket
  | .reconnect => server.reconnect jsonCpp params socket
  | .hostGame => (settle (server.hostGame socket), .nullValue, .nullValue)
  | .leaveGame => (settle (server.leaveGame socket), .nullValue, .nullValue)
  | .joinGame => server.joinGame jsonCpp params socket
  | .sendIceMsg => server.sendIceMsg jsonCpp params socket

end Testserver

/-- What happens at the client of a player: its user makes it call the server, or a request of the server reaches
it. -/
inductive PlayerEvent where
  | calls (method : LobbyMethod) (params : List Value)
  | asked (request : LobbyRequest)

def PlayerEvent.request? : PlayerEvent → Option LobbyRequest
  | .calls _ _ => none
  | .asked request => some request

/-- The server with the sockets that are connected to it, and the history of the client of each player. -/
structure Lobby where
  server : Testserver
  sockets : Finset Nat
  history : Int → List PlayerEvent

namespace Lobby

inductive Event where
  | connected (socket : Nat)
  | disconnected (socket : Nat)
  | called (socket : Nat) (method : LobbyMethod) (params : List Value)

/-- The requests that have reached a player. -/
def told (lobby : Lobby) (playerId : Int) : List LobbyRequest :=
  (lobby.history playerId).filterMap PlayerEvent.request?

/-- A request for a socket that is not connected goes to all sockets. -/
def reaches (sockets : Finset Nat) (socket : Nat) (request : LobbyRequest) : Bool :=
  match request.socket with
  | some addressed => if addressed ∈ sockets then addressed = socket else true
  | none => true

/-- A player that is logged in calls. -/
def act (lobby : Lobby) : Event → Lobby
  | .called socket method params =>
      { lobby with
        history := fun playerId =>
          if lobby.server.socketPlayers[socket]? = some playerId then
            lobby.history playerId ++ [.calls method params]
          else lobby.history playerId }
  | .connected _ | .disconnected _ => lobby

/-- The requests of one event reach the sockets that the players had before it. -/
def hand (lobby : Lobby) (next : Testserver) : Lobby :=
  { lobby with
    server := next
    history := fun playerId =>
      match lobby.server.playerSockets[playerId]? with
      | some (some socket) =>
          lobby.history playerId ++ (next.requests.filter (reaches lobby.sockets socket)).map .asked
      | _ => lobby.history playerId }

/-- The requests of the last event are forgotten. -/
def clear (lobby : Lobby) : Lobby := { lobby with server := { lobby.server with requests := [] } }

/-- A socket has the address of no other. The process ends at an exception of a slot, and the overflow of a player
id is undefined. -/
def handle (jsonCpp : JsonCpp) (lobby : Lobby) : Event → Option Lobby
  | .connected socket =>
      if socket ∈ lobby.sockets then none else some { lobby with sockets := insert socket lobby.sockets }
  | .disconnected socket =>
      if socket ∈ lobby.sockets then
        match lobby.server.onDisconnected socket with
        | .ok next => some { lobby.hand next with sockets := lobby.sockets.erase socket }
        | .error _ => none
      else none
  | .called socket method params =>
      if socket ∈ lobby.sockets then
        let next := (lobby.server.call jsonCpp params socket method).1
        if FitsInt32 next.currentPlayerId then some ((lobby.act (.called socket method params)).hand next) else none
      else none

def step (jsonCpp : JsonCpp) (lobby : Lobby) (event : Event) : Option Lobby := lobby.clear.handle jsonCpp event

def machine (jsonCpp : JsonCpp) : Machine Lobby Event where
  initial := ⟨.empty, ∅, fun _ => []⟩
  step := step jsonCpp

section Histories

variable {lobby : Lobby}

@[simp] theorem act_server (event : Event) : (lobby.act event).server = lobby.server := by cases event <;> rfl

@[simp] theorem act_sockets (event : Event) : (lobby.act event).sockets = lobby.sockets := by cases event <;> rfl

theorem told_act (event : Event) (playerId : Int) : (lobby.act event).told playerId = lobby.told playerId := by
  cases event with
  | called socket method params =>
      unfold told act
      dsimp only
      split
      · rw [List.filterMap_append]
        exact List.append_nil _
      · rfl
  | _ => rfl

theorem history_hand_known {server : Testserver} {playerId : Int} {socket : Nat}
    (owner : lobby.server.playerSockets[playerId]? = some (some socket)) :
    (lobby.hand server).history playerId =
      lobby.history playerId ++ (server.requests.filter (reaches lobby.sockets socket)).map .asked := by
  unfold hand
  simp only [owner]

theorem history_hand_unknown {server : Testserver} {playerId : Int}
    (unknown : ∀ socket, lobby.server.playerSockets[playerId]? ≠ some (some socket)) :
    (lobby.hand server).history playerId = lobby.history playerId := by
  unfold hand
  dsimp only
  split
  · rename_i socket owner
    exact absurd owner (unknown socket)
  · rfl

theorem told_hand_known {server : Testserver} {playerId : Int} {socket : Nat}
    (owner : lobby.server.playerSockets[playerId]? = some (some socket)) :
    (lobby.hand server).told playerId =
      lobby.told playerId ++ server.requests.filter (reaches lobby.sockets socket) := by
  have requests (sent : List LobbyRequest) : (sent.map PlayerEvent.asked).filterMap PlayerEvent.request? = sent := by
    rw [List.filterMap_map]
    exact List.filterMap_some
  rw [told, history_hand_known owner, List.filterMap_append, requests]
  rfl

theorem told_hand_unknown {server : Testserver} {playerId : Int}
    (unknown : ∀ socket, lobby.server.playerSockets[playerId]? ≠ some (some socket)) :
    (lobby.hand server).told playerId = lobby.told playerId := by
  rw [told, history_hand_unknown unknown]
  rfl

theorem history_hand_silent {server : Testserver} (silent : server.requests = []) (playerId : Int) :
    (lobby.hand server).history playerId = lobby.history playerId := by
  unfold hand
  dsimp only
  rw [silent]
  split
  · exact List.append_nil _
  · rfl

end Histories

end Lobby
end Faf
