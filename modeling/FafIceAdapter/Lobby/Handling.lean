import FafIceAdapter.Library.Fallible
import FafIceAdapter.Library.TreeMap
import FafIceAdapter.Lobby.Testserver

namespace Faf
open Json Transition

theorem char_digit {char : Char} (digit : char.isDigit) :
    Char.ofNat (UInt8.ofNat char.toNat).toNat = char := by
  have small : char.toNat < 2 ^ 8 := lt_of_le_of_lt (Char.isDigit_iff_toNat.mp digit).2 (by decide)
  rw [UInt8.toNat_ofNat_of_lt' small, Char.ofNat_toNat]

theorem decimal_injective {first second : Nat} (same : decimal (first : Int) = decimal (second : Int)) :
    first = second := by
  have digits : ∀ number : Nat, ((decimal (number : Int)).map fun byte => Char.ofNat byte.toNat) =
      Nat.toDigits 10 number := by
    intro number
    rw [decimal, if_neg (by omega), List.nil_append, List.map_map, Int.natAbs_natCast]
    calc (Nat.toDigits 10 number).map _ = (Nat.toDigits 10 number).map id :=
          List.map_congr_left fun char member =>
            char_digit (Nat.isDigit_of_mem_toDigits (by omega) (by omega) member)
      _ = Nat.toDigits 10 number := List.map_id _
  rw [← @Nat.ofDigitChars_ten_toDigits first, ← digits, same, digits, Nat.ofDigitChars_ten_toDigits]

namespace Testserver

/-- Of more different suffixes than logins one gives a login that is not taken. -/
theorem unusedLogin_not_mem (logins : List Bytes) (login : Bytes) : unusedLogin logins login ∉ logins := by
  unfold unusedLogin
  split
  · let candidates := (List.range' 1 (logins.length + 1)).map fun suffix : Nat => login ++ decimal suffix
    have distinct : candidates.Nodup :=
      List.Nodup.map (fun _ _ same => decimal_injective (List.append_cancel_left same)) List.nodup_range'
    have found : (candidates.find? (· ∉ logins)).isSome := by
      rw [List.find?_isSome]
      by_contra none
      simp only [decide_eq_true_eq, not_exists, not_and, not_not] at none
      have few := (List.subperm_of_subset distinct none).length_le
      rw [List.length_map, List.length_range'] at few
      omega
    obtain ⟨unused, first⟩ := Option.isSome_iff_exists.mp found
    change (candidates.find? _).getD login ∉ logins
    rw [first, Option.getD_some]
    have free := List.find?_some first
    exact of_decide_eq_true free
  · assumption

theorem mem_logins {server : Testserver} {login : Bytes} :
    login ∈ server.logins ↔ ∃ playerId : Int, server.playersLogins[playerId]? = some login := by
  simp only [logins, List.mem_map, Prod.exists, exists_eq_right, Std.ExtTreeMap.mem_toList_iff_getElem?_eq_some]

/-- The request that `sendToPlayer` sends to a player with a socket. -/
def addressed (server : Testserver) (playerId : Int) (method : String) (params : List Value) : LobbyRequest :=
  ⟨server.playerSockets[playerId]?.join, method, params⟩

def send (requests : List LobbyRequest) (server : Testserver) : Testserver :=
  { server with requests := server.requests ++ requests }

/-- The players and their sockets, which are connected, belong together, every player has a login of its own, and a
player of a game is recorded as one. A game that is recorded for a player may be closed. -/
structure Consistent (server : Testserver) (sockets : Finset Nat) : Prop where
  owner : ∀ (playerId : Int) (socket : Nat),
    server.playerSockets[playerId]? = some (some socket) ↔ server.socketPlayers[socket]? = some playerId
  addressed : ∀ playerId : Int, server.playerSockets[playerId]? ≠ some none
  connected : ∀ (socket : Nat) (playerId : Int), server.socketPlayers[socket]? = some playerId → socket ∈ sockets
  named : ∀ playerId : Int, playerId ∈ server.playersLogins ↔ playerId ∈ server.playerSockets
  unique : ∀ (first second : Int) (login : Bytes), server.playersLogins[first]? = some login →
    server.playersLogins[second]? = some login → first = second
  issued : ∀ playerId : Int, playerId ∈ server.playerSockets → 0 ≤ playerId ∧ playerId < server.currentPlayerId
  fits : 0 ≤ server.currentPlayerId ∧ FitsInt32 server.currentPlayerId
  plays : ∀ (host : Int) (players : Std.ExtTreeSet Int), server.games[host]? = some players →
    ∀ playerId ∈ players, server.playersGames[playerId]? = some host
  hosts : ∀ (host : Int) (players : Std.ExtTreeSet Int), server.games[host]? = some players → host ∈ players
  known : ∀ (playerId gameId : Int), server.playersGames[playerId]? = some gameId → playerId ∈ server.playerSockets

section Sending

variable {server : Testserver}

theorem send_send (first second : List LobbyRequest) :
    (server.send first).send second = server.send (first ++ second) := by
  unfold send
  rw [List.append_assoc]

theorem send_nil : server.send [] = server := by
  unfold send
  rw [List.append_nil]

theorem sendToPlayer_known {playerId : Int} (known : playerId ∈ server.playerSockets) (method : String)
    (params : List Value) :
    server.sendToPlayer playerId method params = server.send [server.addressed playerId method params] := by
  unfold sendToPlayer
  rw [TreeMap.insertIfNew_of_mem known]
  rfl

/-- A loop that sends requests for each element sends all of them. -/
theorem foldl_send {A : Type} {visit : Testserver → A → Testserver} {requests : A → List LobbyRequest}
    {elements : List A}
    (sends : ∀ element ∈ elements, ∀ sent,
      visit (server.send sent) element = (server.send sent).send (requests element))
    (sent : List LobbyRequest) :
    elements.foldl visit (server.send sent) = server.send (sent ++ elements.flatMap requests) := by
  induction elements generalizing sent with
  | nil => rw [List.foldl_nil, List.flatMap_nil, List.append_nil]
  | cons element rest ih =>
      rw [List.foldl_cons, sends element List.mem_cons_self, send_send,
        ih fun later member => sends later (List.mem_cons_of_mem element member), List.append_assoc,
        List.flatMap_cons]

theorem foldlM_send {A : Type} {visit : Testserver → A → Except Testserver Testserver}
    {requests : A → List LobbyRequest} {elements : List A}
    (sends : ∀ element ∈ elements, ∀ sent,
      visit (server.send sent) element = .ok ((server.send sent).send (requests element)))
    (sent : List LobbyRequest) :
    elements.foldlM visit (server.send sent) = .ok (server.send (sent ++ elements.flatMap requests)) := by
  induction elements generalizing sent with
  | nil =>
      rw [List.foldlM_nil, List.flatMap_nil, List.append_nil]
      rfl
  | cons element rest ih =>
      rw [List.foldlM_cons, sends element List.mem_cons_self, send_send]
      change rest.foldlM visit _ = _
      rw [ih fun later member => sends later (List.mem_cons_of_mem element member), List.append_assoc,
        List.flatMap_cons]

end Sending

namespace Consistent

variable {server : Testserver} {sockets : Finset Nat}

theorem empty : Consistent Testserver.empty ∅ where
  owner playerId socket := by simp [Testserver.empty]
  addressed playerId := by simp [Testserver.empty]
  connected socket playerId := by simp [Testserver.empty]
  named playerId := by simp [Testserver.empty]
  unique first second login := by simp [Testserver.empty]
  issued playerId := by simp [Testserver.empty]
  fits := by decide
  plays host players := by simp [Testserver.empty]
  hosts host players := by simp [Testserver.empty]
  known playerId gameId := by simp [Testserver.empty]

/-- The requests are not part of the tables. -/
theorem sent (consistent : Consistent server sockets) (requests : List LobbyRequest) :
    Consistent { server with requests := requests } sockets :=
  ⟨consistent.owner, consistent.addressed, consistent.connected, consistent.named, consistent.unique,
    consistent.issued, consistent.fits, consistent.plays, consistent.hosts, consistent.known⟩

theorem socket (consistent : Consistent server sockets) {playerId : Int} (known : playerId ∈ server.playerSockets) :
    ∃ socket, server.playerSockets[playerId]? = some (some socket) ∧ socket ∈ sockets := by
  obtain ⟨pointer, found⟩ := TreeMap.mem_iff.mp known
  cases pointer with
  | none => exact absurd found (consistent.addressed playerId)
  | some socket =>
      have owner := (consistent.owner playerId socket).mp found
      exact ⟨socket, found, consistent.connected socket playerId owner⟩

theorem owned (consistent : Consistent server sockets) {socket : Nat} {playerId : Int}
    (owner : server.socketPlayers[socket]? = some playerId) : playerId ∈ server.playerSockets :=
  TreeMap.mem_iff.mpr ⟨some socket, (consistent.owner playerId socket).mpr owner⟩

theorem member (consistent : Consistent server sockets) {host playerId : Int} {players : Std.ExtTreeSet Int}
    (game : server.games[host]? = some players) (member : playerId ∈ players) : playerId ∈ server.playerSockets :=
  consistent.known playerId host (consistent.plays host players game playerId member)

theorem hostNamed (consistent : Consistent server sockets) {host : Int} (game : host ∈ server.games) :
    host ∈ server.playersLogins := by
  obtain ⟨players, found⟩ := TreeMap.mem_iff.mp game
  exact (consistent.named host).mpr (consistent.member found (consistent.hosts host players found))

theorem login (consistent : Consistent server sockets) {playerId : Int} (known : playerId ∈ server.playerSockets) :
    ∃ login, server.playersLogins[playerId]? = some login :=
  TreeMap.mem_iff.mp ((consistent.named playerId).mpr known)

end Consistent

/-- What the two players are told when one of them leaves the game. -/
def farewells (server : Testserver) (leavingPlayerId fellowPlayerId : Int) : List LobbyRequest :=
  if fellowPlayerId ≠ leavingPlayerId then
    [server.addressed fellowPlayerId "sendToIceAdapter"
        (LobbyRequest.command "disconnectFromPeer" [.intValue leavingPlayerId]),
      server.addressed leavingPlayerId "sendToIceAdapter"
        (LobbyRequest.command "disconnectFromPeer" [.intValue fellowPlayerId])]
  else []

def hostLeft (server : Testserver) (leavingPlayerId fellowPlayerId : Int) : LobbyRequest :=
  server.addressed fellowPlayerId "onHostLeft" [.intValue leavingPlayerId]

theorem disconnectFellow_send {server : Testserver} {playerId fellowPlayerId : Int}
    (known : playerId ∈ server.playerSockets) (fellow : fellowPlayerId ∈ server.playerSockets)
    (sent : List LobbyRequest) :
    disconnectFellow playerId (server.send sent) fellowPlayerId =
      (server.send sent).send (server.farewells playerId fellowPlayerId) := by
  unfold disconnectFellow farewells
  split
  · rw [sendToPlayer_known (show fellowPlayerId ∈ (server.send sent).playerSockets from fellow), send_send,
      sendToPlayer_known (show playerId ∈ (server.send _).playerSockets from known), send_send, send_send,
      List.append_assoc]
    rfl
  · rw [send_send, List.append_nil]

/-- How a player leaves: it plays no game, its game is closed already, it is the host, or it is not. -/
inductive Leaves (server : Testserver) (playerId : Int) : Testserver → Prop
  | idle (noHost : server.games[playerId]? = none) (noGame : server.playersGames[playerId]? = none) :
      Leaves server playerId server
  | closed (gameId : Int) (noHost : server.games[playerId]? = none)
      (plays : server.playersGames[playerId]? = some gameId) (gone : server.games[gameId]? = none) :
      Leaves server playerId { server with playersGames := server.playersGames.erase playerId }
  | host (players : Std.ExtTreeSet Int) (gamelist : Value) (game : server.games[playerId]? = some players) :
      Leaves server playerId { server with
        games := server.games.erase playerId
        playersGames := server.playersGames.erase playerId
        requests := server.requests ++
          (players.toList.map (server.hostLeft playerId) ++ [⟨none, "onGamelist", [gamelist]⟩]) }
  | fellow (gameId : Int) (players : Std.ExtTreeSet Int) (noHost : server.games[playerId]? = none)
      (plays : server.playersGames[playerId]? = some gameId) (game : server.games[gameId]? = some players) :
      Leaves server playerId { server with
        games := server.games.insert gameId (players.erase playerId)
        playersGames := server.playersGames.erase playerId
        requests := server.requests ++ players.toList.flatMap (server.farewells playerId) }

theorem leavePlayersGame_closed {server : Testserver} {playerId gameId : Int}
    (plays : server.playersGames[playerId]? = some gameId) (gone : server.games[gameId]? = none) :
    server.leavePlayersGame playerId = { server with playersGames := server.playersGames.erase playerId } := by
  rw [leavePlayersGame, plays]
  simp only [gone]

/-- The list of the games is complete when every host has a login. -/
theorem gamelistJson_total {server : Testserver}
    (named : ∀ host : Int, host ∈ server.games → host ∈ server.playersLogins) :
    ∃ gamelist, server.gamelistJson = some gamelist := by
  have total : ∀ (hosts : List Int) (start : Value), (∀ host ∈ hosts, host ∈ server.playersLogins) →
      ∃ gamelist, hosts.foldlM (fun result host => do
        let login ← server.playersLogins[host]?
        return result.set login (.intValue host)) start = some gamelist := by
    intro hosts start known
    induction hosts generalizing start with
    | nil => exact ⟨start, rfl⟩
    | cons host rest ih =>
        obtain ⟨login, named⟩ := TreeMap.mem_iff.mp (known host List.mem_cons_self)
        rw [List.foldlM_cons, named]
        exact ih _ fun later member => known later (List.mem_cons_of_mem host member)
  exact total server.games.keys _ fun host member => named host (Std.ExtTreeMap.mem_keys.mp member)

theorem sendGamelist_some {server : Testserver} {gamelist : Value} (listed : server.gamelistJson = some gamelist) :
    server.sendGamelist = .ok (server.sendRequest "onGamelist" [gamelist] none) := by
  rw [sendGamelist, listed]

section Operations

variable {server : Testserver} {sockets : Finset Nat} (consistent : Consistent server sockets)
include consistent

theorem leavePlayersGame_leaves {playerId : Int} (known : playerId ∈ server.playerSockets)
    (noHost : server.games[playerId]? = none) : Leaves server playerId (server.leavePlayersGame playerId) := by
  unfold leavePlayersGame
  split
  · rename_i noGame
    exact .idle noHost noGame
  · rename_i gameId plays
    split
    · rename_i gone
      exact .closed gameId noHost plays gone
    · rename_i players game
      have told := @foldl_send server Int (disconnectFellow playerId) _ players.toList (fun fellow member sent =>
        disconnectFellow_send known (consistent.member game (Std.ExtTreeSet.mem_toList.mp member)) sent) []
      rw [send_nil, List.nil_append] at told
      rw [told]
      exact .fellow gameId players noHost plays game

theorem disconnectPlayerFromGame_leaves {playerId : Int} (known : playerId ∈ server.playerSockets) :
    ∃ next, server.disconnectPlayerFromGame playerId = .ok next ∧ Leaves server playerId next := by
  unfold disconnectPlayerFromGame
  split
  · rename_i noHost
    exact ⟨_, rfl, leavePlayersGame_leaves consistent known noHost⟩
  · rename_i players game
    have told := @foldl_send server Int (fun server fellowPlayerId =>
      server.sendToPlayer fellowPlayerId "onHostLeft" [.intValue playerId])
      (fun fellow => [server.hostLeft playerId fellow])
      players.toList (fun fellow member sent =>
        sendToPlayer_known (show fellow ∈ (server.send sent).playerSockets from
          consistent.member game (Std.ExtTreeSet.mem_toList.mp member)) _ _) []
    rw [send_nil, List.nil_append, ← List.map_eq_flatMap] at told
    let closed : Testserver := { server with
      games := server.games.erase playerId
      requests := server.requests ++ players.toList.map (server.hostLeft playerId) }
    obtain ⟨gamelist, listed⟩ := @gamelistJson_total closed fun host member =>
      consistent.hostNamed (Std.ExtTreeMap.mem_of_mem_erase member)
    have plays := consistent.plays playerId players game playerId (consistent.hosts playerId players game)
    refine ⟨_, ?_, .host players gamelist game⟩
    rw [told]
    change closed.sendGamelist.bind _ = _
    rw [sendGamelist_some listed]
    change Except.ok (leavePlayersGame playerId _) = _
    rw [@leavePlayersGame_closed (closed.sendRequest "onGamelist" [gamelist] none) playerId playerId plays
      Std.ExtTreeMap.getElem?_erase_self, sendRequest, List.append_assoc]

end Operations

/-- The tables after a player has left its game. -/
structure Left (server : Testserver) (playerId : Int) (next : Testserver) : Prop where
  currentPlayerId : next.currentPlayerId = server.currentPlayerId
  playerSockets : next.playerSockets = server.playerSockets
  socketPlayers : next.socketPlayers = server.socketPlayers
  playersLogins : next.playersLogins = server.playersLogins
  playersGames : ∀ other : Int,
    next.playersGames[other]? = if playerId = other then none else server.playersGames[other]?
  games : ∀ host : Int,
    next.games[host]? = if playerId = host then none else server.games[host]?.map (·.erase playerId)

section Leaving

variable {server next : Testserver} {sockets : Finset Nat} {playerId : Int}

/-- Leaving a game that one does not play changes nothing. -/
theorem games_erase (consistent : Consistent server sockets) {host : Int}
    (elsewhere : server.playersGames[playerId]? = some host → server.games[host]? = none) :
    server.games[host]? = server.games[host]?.map (·.erase playerId) := by
  cases game : server.games[host]? with
  | none => rfl
  | some players =>
      have absent : playerId ∉ players := by
        intro member
        rw [elsewhere (consistent.plays host players game playerId member)] at game
        contradiction
      rw [Option.map_some]
      congr 1
      apply Std.ExtTreeSet.ext_mem
      intro other
      rw [TreeMap.mem_erase]
      constructor
      · exact fun member => ⟨fun same => absent (same ▸ member), member⟩
      · exact And.right

theorem Leaves.left (leaves : Leaves server playerId next) (consistent : Consistent server sockets) :
    Left server playerId next := by
  cases leaves with
  | idle noHost noGame =>
      refine ⟨rfl, rfl, rfl, rfl, ?_, ?_⟩
      · intro other
        split
        · rename_i same
          rw [← same, noGame]
        · rfl
      · intro host
        split
        · rename_i same
          rw [← same, noHost]
        · exact games_erase consistent fun plays => by rw [noGame] at plays; contradiction
  | closed gameId noHost plays gone =>
      refine ⟨rfl, rfl, rfl, rfl, TreeMap.get_erase playerId, ?_⟩
      intro host
      split
      · rename_i same
        rw [← same]
        exact noHost
      · exact games_erase consistent fun other => Option.some.inj (plays.symm.trans other) ▸ gone
  | host players gamelist game =>
      refine ⟨rfl, rfl, rfl, rfl, TreeMap.get_erase playerId, ?_⟩
      intro host
      have own := consistent.plays playerId players game playerId (consistent.hosts playerId players game)
      change (server.games.erase playerId)[host]? = _
      rw [TreeMap.get_erase]
      split
      · rfl
      · rename_i different
        exact games_erase consistent fun plays => absurd (Option.some.inj (own.symm.trans plays)) different
  | fellow gameId players noHost plays game =>
      refine ⟨rfl, rfl, rfl, rfl, TreeMap.get_erase playerId, ?_⟩
      intro host
      change (server.games.insert gameId (players.erase playerId))[host]? = _
      rw [TreeMap.get_insert]
      by_cases own : gameId = host
      · subst own
        have different : playerId ≠ gameId := by
          intro same
          rw [same, game] at noHost
          contradiction
        rw [if_pos rfl, if_neg different, game, Option.map_some]
      · rw [if_neg own]
        split
        · rename_i same
          rw [← same, noHost]
        · exact games_erase consistent fun other => absurd (Option.some.inj (plays.symm.trans other)) own

theorem Left.consistent (left : Left server playerId next) (consistent : Consistent server sockets) :
    Consistent next sockets where
  owner := by rw [left.playerSockets, left.socketPlayers]; exact consistent.owner
  addressed := by rw [left.playerSockets]; exact consistent.addressed
  connected := by rw [left.socketPlayers]; exact consistent.connected
  named := by rw [left.playersLogins, left.playerSockets]; exact consistent.named
  unique := by rw [left.playersLogins]; exact consistent.unique
  issued := by rw [left.playerSockets, left.currentPlayerId]; exact consistent.issued
  fits := by rw [left.currentPlayerId]; exact consistent.fits
  plays host players game other member := by
    rw [left.games] at game
    obtain ⟨different, before⟩ := Option.ite_none_left_eq_some.mp game
    obtain ⟨former, same, rfl⟩ := Option.map_eq_some_iff.mp before
    obtain ⟨others, member⟩ := TreeMap.mem_erase.mp member
    rw [left.playersGames, if_neg (Ne.symm others)]
    exact consistent.plays host former same other member
  hosts host players game := by
    rw [left.games] at game
    obtain ⟨different, before⟩ := Option.ite_none_left_eq_some.mp game
    obtain ⟨former, same, rfl⟩ := Option.map_eq_some_iff.mp before
    exact TreeMap.mem_erase.mpr ⟨Ne.symm different, consistent.hosts host former same⟩
  known other gameId plays := by
    rw [left.playersGames] at plays
    rw [left.playerSockets]
    exact consistent.known other gameId (Option.ite_none_left_eq_some.mp plays).2

end Leaving

/-- The request that makes a player connect to another one. -/
def introduction (server : Testserver) (receiver playerId : Int) (createOffer : Bool) : LobbyRequest :=
  server.addressed receiver "sendToIceAdapter" (LobbyRequest.command "connectToPeer"
    [.stringValue (server.playersLogins[playerId]?.getD []), .intValue playerId, .booleanValue createOffer])

/-- The player that is in the game already makes the offer. -/
def greetings (server : Testserver) (joiningPlayerId hostingPlayerId existingPlayerId : Int) : List LobbyRequest :=
  if existingPlayerId = joiningPlayerId then []
  else if existingPlayerId = hostingPlayerId then []
  else [server.introduction existingPlayerId joiningPlayerId true,
    server.introduction joiningPlayerId existingPlayerId false]

def invitation (server : Testserver) (joiningPlayerId hostingPlayerId : Int) : LobbyRequest :=
  server.addressed joiningPlayerId "sendToIceAdapter" (LobbyRequest.command "joinGame"
    [.stringValue (server.playersLogins[hostingPlayerId]?.getD []), .intValue hostingPlayerId])

/-- What the players of a game are told when a player joins it. -/
def introductions (server : Testserver) (joiningPlayerId hostingPlayerId : Int) (players : Std.ExtTreeSet Int) :
    List LobbyRequest :=
  [server.introduction hostingPlayerId joiningPlayerId true, server.invitation joiningPlayerId hostingPlayerId] ++
    players.toList.flatMap (server.greetings joiningPlayerId hostingPlayerId)

/-- What a call of a client does. -/
inductive Handles (jsonCpp : JsonCpp) (server : Testserver) (socket : Nat) (params : List Value) :
    LobbyMethod → Testserver → Prop
  | same (method : LobbyMethod) (stays : method = .leaveGame → socket ∉ server.socketPlayers) :
      Handles jsonCpp server socket params method server
  | login (login : Bytes) (free : socket ∉ server.socketPlayers) (unused : login ∉ server.logins) :
      Handles jsonCpp server socket params .login
        { server.enterPlayer login socket with currentPlayerId := server.currentPlayerId + 1 }
  | reconnect (id : Int) (former : Nat) (free : socket ∉ server.socketPlayers)
      (known : server.playerSockets[id]? = some (some former)) :
      Handles jsonCpp server socket params .reconnect { server with
        socketPlayers := (server.socketPlayers.erase former).insertIfNew socket id
        playerSockets := (server.playerSockets.erase id).insertIfNew id (some socket) }
  | left (method : LobbyMethod) (leaving : method = .leaveGame ∨ method = .joinGame) (playerId : Int)
      (next : Testserver) (owner : server.socketPlayers[socket]? = some playerId)
      (leaves : Leaves server playerId next) : Handles jsonCpp server socket params method next
  | hosted (playerId : Int) (next : Testserver) (gamelist : Value)
      (owner : server.socketPlayers[socket]? = some playerId) (leaves : Leaves server playerId next) :
      Handles jsonCpp server socket params .hostGame { next with
        games := next.games.insert playerId ((∅ : Std.ExtTreeSet Int).insert playerId)
        playersGames := next.playersGames.insert playerId playerId
        requests := next.requests ++ [⟨some socket, "sendToIceAdapter", [.stringValue (bytes "hostGame")]⟩,
          ⟨none, "onGamelist", [gamelist]⟩] }
  | joined (playerId host : Int) (players : Std.ExtTreeSet Int) (next : Testserver)
      (owner : server.socketPlayers[socket]? = some playerId) (leaves : Leaves server playerId next)
      (asked : jsonCpp.asInt (params.getD 0 .nullValue) = .ok host) (game : next.games[host]? = some players) :
      Handles jsonCpp server socket params .joinGame { next with
        games := next.games.insert host (players.insert playerId)
        playersGames := next.playersGames.insert playerId host
        requests := next.requests ++ next.introductions playerId host (players.insert playerId) }
  | iceMsg (sender remoteId : Int) (msg : Value) (owner : server.socketPlayers[socket]? = some sender)
      (known : remoteId ∈ server.playerSockets) :
      Handles jsonCpp server socket params .sendIceMsg (server.send
        [server.addressed remoteId "sendToIceAdapter" (LobbyRequest.command "iceMsg" [.intValue sender, msg])])

section Calls

variable {server : Testserver} {sockets : Finset Nat} {socket : Nat}

/-- A request to the socket of a player is one that is addressed to it. -/
theorem request_owner {playerId : Int} (owned : server.playerSockets[playerId]? = some (some socket))
    (method : String) (params : List Value) :
    (⟨some socket, method, params⟩ : LobbyRequest) = server.addressed playerId method params := by
  rw [addressed, owned]
  rfl

theorem connectToPeer_login {playerId : Int} {login : Bytes} (named : server.playersLogins[playerId]? = some login)
    (createOffer : Bool) (send : List Value → Testserver → Testserver) :
    server.connectToPeer playerId createOffer send =
      .ok (send (LobbyRequest.command "connectToPeer"
        [.stringValue login, .intValue playerId, .booleanValue createOffer]) server) := by
  rw [connectToPeer, named]

theorem connectFellow_send {joining hosting existing : Int} {own other : Bytes}
    (owned : server.playerSockets[joining]? = some (some socket)) (known : existing ∈ server.playerSockets)
    (ownNamed : server.playersLogins[joining]? = some own) (otherNamed : server.playersLogins[existing]? = some other)
    (sent : List LobbyRequest) :
    connectFellow joining hosting socket (server.send sent) existing =
      .ok ((server.send sent).send (server.greetings joining hosting existing)) := by
  unfold connectFellow greetings
  split
  · rw [send_nil]
  · split
    · rw [send_nil]
    · have first := @connectToPeer_login (server.send sent) joining own ownNamed true
        (sendToPlayer existing "sendToIceAdapter")
      rw [sendToPlayer_known (show existing ∈ (server.send sent).playerSockets from known), send_send] at first
      refine Fallible.bind_ok.mpr ⟨_, first, ?_⟩
      rw [@connectToPeer_login (server.send _) existing other otherNamed, introduction, introduction, ownNamed,
        otherNamed, ← request_owner owned]
      change Except.ok ((server.send _).send _) = _
      rw [send_send, send_send, List.append_assoc]
      rfl

/-- Every player of the game is introduced to the joining player. -/
theorem enterGame_send (consistent : Consistent server sockets) {joining hosting : Int}
    {players : Std.ExtTreeSet Int} (owner : server.socketPlayers[socket]? = some joining)
    (host : hosting ∈ server.playerSockets) (known : ∀ playerId ∈ players, playerId ∈ server.playerSockets) :
    server.enterGame joining hosting socket players = .ok { server with
      games := server.games.insert hosting players
      playersGames := server.playersGames.insert joining hosting
      requests := server.requests ++ server.introductions joining hosting players } := by
  obtain ⟨own, ownNamed⟩ := consistent.login (consistent.owned owner)
  have owned := (consistent.owner joining socket).mpr owner
  let entered : Testserver := { server with
    games := server.games.insert hosting players
    playersGames := server.playersGames.insert joining hosting }
  have named : hosting ∈ server.playersLogins := (consistent.named hosting).mpr host
  have told : entered.connectToPeer joining true (sendToPlayer hosting "sendToIceAdapter") =
      .ok (entered.send [server.introduction hosting joining true]) := by
    rw [connectToPeer_login (show entered.playersLogins[joining]? = some own from ownNamed),
      sendToPlayer_known (show hosting ∈ entered.playerSockets from host), introduction, ownNamed]
    rfl
  refine Fallible.bind_ok.mpr ⟨_, told, ?_⟩
  have asked : sendRequest "sendToIceAdapter" (LobbyRequest.command "joinGame"
      [.stringValue (entered.playersLogins[hosting]?.getD []), .intValue hosting]) (some socket)
      { entered.send [server.introduction hosting joining true] with
        playersLogins := entered.playersLogins.insertIfNew hosting [] } =
      entered.send [server.introduction hosting joining true, server.invitation joining hosting] := by
    rw [TreeMap.insertIfNew_of_mem named, invitation, ← request_owner owned]
    change (entered.send _).send _ = _
    rw [send_send]
    rfl
  have greeted := @foldlM_send entered Int (connectFellow joining hosting socket)
    (entered.greetings joining hosting) players.toList (fun existing member sent => by
      have present := known existing (Std.ExtTreeSet.mem_toList.mp member)
      obtain ⟨other, otherNamed⟩ := consistent.login present
      exact @connectFellow_send entered socket joining hosting existing own other owned present ownNamed otherNamed
        sent)
    [server.introduction hosting joining true, server.invitation joining hosting]
  rw [← asked] at greeted
  exact greeted

/-- A new game has the host as its only player. -/
theorem openGame_total (consistent : Consistent server sockets) {playerId : Int}
    (owner : server.socketPlayers[socket]? = some playerId) (noHost : server.games[playerId]? = none) :
    ∃ gamelist, server.openGame playerId socket = .ok { server with
      games := server.games.insert playerId ((∅ : Std.ExtTreeSet Int).insert playerId)
      playersGames := server.playersGames.insert playerId playerId
      requests := server.requests ++ [⟨some socket, "sendToIceAdapter", [.stringValue (bytes "hostGame")]⟩,
        ⟨none, "onGamelist", [gamelist]⟩] } := by
  let entered : Testserver := { server with
    games := server.games.insert playerId ((∅ : Std.ExtTreeSet Int).insert playerId)
    playersGames := server.playersGames.insert playerId playerId }
  let hosted := entered.sendRequest "sendToIceAdapter" [.stringValue (bytes "hostGame")] (some socket)
  obtain ⟨gamelist, listed⟩ := @gamelistJson_total hosted fun host member => by
    rcases Std.ExtTreeMap.mem_insert.mp member with same | former
    · rw [← compare_eq_iff_eq.mp same]
      exact (consistent.named playerId).mpr (consistent.owned owner)
    · exact consistent.hostNamed former
  refine ⟨gamelist, ?_⟩
  rw [openGame, noHost, Option.getD_none]
  change hosted.sendGamelist = _
  rw [sendGamelist_some listed]
  simp only [hosted, entered, sendRequest, List.append_assoc, List.cons_append, List.nil_append]

theorem login_handles (consistent : Consistent server sockets) (jsonCpp : JsonCpp) (params : List Value) :
    Handles jsonCpp server socket params .login (server.login jsonCpp params socket).1 := by
  have same : Handles jsonCpp server socket params .login server := .same .login fun other => by contradiction
  rw [login]
  split
  · exact same
  · rename_i free
    split
    · exact same
    · split
      · exact same
      · rename_i name _
        let entered := server.enterPlayer (unusedLogin server.logins name) socket
        obtain ⟨gamelist, listed⟩ := @gamelistJson_total entered fun host member =>
          Std.ExtTreeMap.mem_insertIfNew.mpr (.inr (consistent.hostNamed member))
        dsimp only
        rw [show (server.enterPlayer (unusedLogin server.logins name) socket).gamelistJson = _ from listed]
        exact .login _ free (unusedLogin_not_mem server.logins name)

theorem reconnect_handles (consistent : Consistent server sockets) (jsonCpp : JsonCpp) (params : List Value) :
    Handles jsonCpp server socket params .reconnect (server.reconnect jsonCpp params socket).1 := by
  have same : Handles jsonCpp server socket params .reconnect server :=
    .same .reconnect fun other => by contradiction
  rw [reconnect]
  split
  · exact same
  · rename_i free
    split
    · exact same
    · split
      · exact same
      · rename_i id _
        split
        · exact same
        · rename_i former known
          cases former with
          | none => exact absurd known (consistent.addressed id)
          | some former => exact .reconnect id former free known

theorem hostGame_handles (consistent : Consistent server sockets) (jsonCpp : JsonCpp) (params : List Value) :
    Handles jsonCpp server socket params .hostGame (settle (server.hostGame socket)) := by
  rw [hostGame]
  split
  · exact .same .hostGame fun other => by contradiction
  · rename_i playerId owner
    obtain ⟨next, left, leaves⟩ := disconnectPlayerFromGame_leaves consistent (consistent.owned owner)
    have moved := leaves.left consistent
    have noHost := (moved.games playerId).trans (if_pos rfl)
    obtain ⟨gamelist, hosted⟩ := openGame_total (moved.consistent consistent)
      (by rw [moved.socketPlayers]; exact owner) noHost
    rw [left]
    change Handles jsonCpp server socket params .hostGame (settle (next.openGame playerId socket))
    rw [hosted]
    exact .hosted playerId next gamelist owner leaves

theorem leaveGame_handles (consistent : Consistent server sockets) (jsonCpp : JsonCpp) (params : List Value) :
    Handles jsonCpp server socket params .leaveGame (settle (server.leaveGame socket)) := by
  rw [leaveGame]
  split
  · rename_i free
    exact .same .leaveGame fun _ => TreeMap.eq_none_iff.mp free
  · rename_i playerId owner
    obtain ⟨next, left, leaves⟩ := disconnectPlayerFromGame_leaves consistent (consistent.owned owner)
    rw [left]
    exact .left .leaveGame (.inl rfl) playerId next owner leaves

theorem joinGame_handles (consistent : Consistent server sockets) (jsonCpp : JsonCpp) (params : List Value) :
    Handles jsonCpp server socket params .joinGame (server.joinGame jsonCpp params socket).1 := by
  have same : Handles jsonCpp server socket params .joinGame server :=
    .same .joinGame fun other => by contradiction
  rw [joinGame]
  split
  · exact same
  · split
    · exact same
    · rename_i playerId owner
      obtain ⟨next, left, leaves⟩ := disconnectPlayerFromGame_leaves consistent (consistent.owned owner)
      rw [left]
      dsimp only
      split
      · exact .left .joinGame (.inr rfl) playerId next owner leaves
      · rename_i host asked
        split
        · exact .left .joinGame (.inr rfl) playerId next owner leaves
        · rename_i players game
          have moved := leaves.left consistent
          have after := moved.consistent consistent
          have known : ∀ other ∈ players.insert playerId, other ∈ next.playerSockets := by
            intro other member
            rcases TreeMap.mem_insert.mp member with same | former
            · rw [same, moved.playerSockets]
              exact consistent.owned owner
            · exact after.member game former
          rw [enterGame_send after (by rw [moved.socketPlayers]; exact owner)
            (after.member game (after.hosts host players game)) known]
          exact .joined playerId host players next owner leaves asked game

theorem sendIceMsg_handles (jsonCpp : JsonCpp) (params : List Value) (present : socket ∈ server.socketPlayers) :
    Handles jsonCpp server socket params .sendIceMsg (server.sendIceMsg jsonCpp params socket).1 := by
  have same : Handles jsonCpp server socket params .sendIceMsg server :=
    .same .sendIceMsg fun other => by contradiction
  obtain ⟨sender, owner⟩ := TreeMap.mem_iff.mp present
  rw [sendIceMsg]
  split
  · exact same
  · split
    · exact same
    · rename_i remoteId _
      split
      · exact same
      · rename_i remoteSocket known
        rw [TreeMap.insertIfNew_of_mem present, owner, Option.getD_some]
        have routed := @Handles.iceMsg jsonCpp server socket params sender remoteId
          (params.getD 2 .nullValue) owner (TreeMap.mem_iff.mpr ⟨remoteSocket, known⟩)
        rw [addressed, known] at routed
        exact routed

theorem call_handles (consistent : Consistent server sockets) (jsonCpp : JsonCpp) (params : List Value)
    (method : LobbyMethod) (loggedIn : method = .sendIceMsg → socket ∈ server.socketPlayers) :
    Handles jsonCpp server socket params method (server.call jsonCpp params socket method).1 := by
  cases method with
  | login => exact login_handles consistent jsonCpp params
  | reconnect => exact reconnect_handles consistent jsonCpp params
  | hostGame => exact hostGame_handles consistent jsonCpp params
  | leaveGame => exact leaveGame_handles consistent jsonCpp params
  | joinGame => exact joinGame_handles consistent jsonCpp params
  | sendIceMsg => exact sendIceMsg_handles jsonCpp params (loggedIn rfl)

end Calls
end Testserver
end Faf
