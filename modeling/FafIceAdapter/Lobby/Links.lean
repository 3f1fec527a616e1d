import FafIceAdapter.Lobby.Changes
import FafIceAdapter.Lobby.Games

namespace Faf
open Json JsonRpc Mesh

namespace Testserver

/-- The players of each game are linked, and their clients play it. -/
structure Meshed (present : Int → Prop) (server : Testserver) (clients : Int → Testclient) : Prop where
  linked : Linked present server.Together fun playerId => (clients playerId).roles
  plays : ∀ (host : Int) (players : Std.ExtTreeSet Int), server.games[host]? = some players →
    ∀ playerId ∈ players, (clients playerId).gameId = host ∧ (clients playerId).playing = true

/-- The client of the player with a socket makes a call. -/
def clicked (jsonCpp : JsonCpp) (server : Testserver) (socket : Nat) (params : List Value) (method : LobbyMethod)
    (clients : Int → Testclient) (playerId : Int) : Testclient :=
  if server.socketPlayers[socket]? = some playerId then (clients playerId).click jsonCpp playerId params method
  else clients playerId

/-- One client prepares to leave its game. It keeps no new relay, and none at all once it hears that its own game is
closed. -/
structure Departs (environment : RpcEnvironment) (server : Testserver) (playerId : Int)
    (clients start : Int → Testclient) : Prop where
  others : ∀ other, other ≠ playerId → start other = clients other
  fewer : ∀ other, (start playerId).roles other = none ∨ (start playerId).roles other = (clients playerId).roles other
  closes : playerId ∈ server.games →
    ((start playerId).hear environment (server.hostLeft playerId playerId)).roles = fun _ => none

section Requests

variable {environment : RpcEnvironment} {server next : Testserver} {sockets : Finset Nat} {playerId : Int}
  {clients start : Int → Testclient} {present : Int → Prop}

theorem Meshed.of_games (meshed : Meshed present server clients) (same : next.games = server.games) :
    Meshed present next clients := by
  constructor
  · apply meshed.linked.regroup
    intro first second
    unfold Together
    rw [same]
  · rw [same]
    exact meshed.plays

/-- A player whose client plays no game is in none. -/
theorem Meshed.still (meshed : Meshed present server clients) (still : (clients playerId).playing = false)
    {host : Int} {players : Std.ExtTreeSet Int} (game : server.games[host]? = some players) : playerId ∉ players := by
  intro member
  rw [(meshed.plays host players game playerId member).2] at still
  contradiction

theorem Meshed.own (meshed : Meshed present server clients) (consistent : Consistent server sockets)
    (host : playerId ∈ server.games) : (clients playerId).gameId = playerId ∧ (clients playerId).playing = true := by
  obtain ⟨players, game⟩ := TreeMap.mem_iff.mp host
  exact meshed.plays playerId players game playerId (consistent.hosts playerId players game)

theorem hear_ownHostLeft (consistent : Consistent server sockets) (known : playerId ∈ server.playerSockets)
    (client : Testclient) : client.hear environment (server.hostLeft playerId playerId) =
      if client.gameId = playerId then client.leave else client :=
  Testclient.hear_hostLeft (consistent.fitsId known)

theorem departs_leave {socket : Nat} (params : List Value) (consistent : Consistent server sockets)
    (owner : server.socketPlayers[socket]? = some playerId) (meshed : Meshed present server clients) :
    Departs environment server playerId clients
      (clicked environment.jsonCpp server socket params .leaveGame clients) := by
  have left : clicked environment.jsonCpp server socket params .leaveGame clients playerId =
      (clients playerId).leave := if_pos owner
  refine ⟨fun other different => if_neg fun same => different (Option.some.inj (same.symm.trans owner)), ?_, ?_⟩
  · rw [left]
    intro other
    cases playing : (clients playerId).playing with
    | true => exact .inl (congrFun (Testclient.roles_leave playing) other)
    | false =>
        right
        rw [Testclient.leave, Testclient.roles, playing]
        simp [Testclient.roles]
  · intro host
    have issued := (consistent.issued playerId (consistent.owned owner)).1
    have away : (clients playerId).leave.gameId ≠ playerId := by
      change (-1 : Int) ≠ playerId
      omega
    rw [left, hear_ownHostLeft consistent (consistent.owned owner), if_neg away]
    exact Testclient.roles_leave (meshed.own consistent host).2

theorem departs_still (consistent : Consistent server sockets) (meshed : Meshed present server clients)
    (still : (clients playerId).playing = false) (others : ∀ other, other ≠ playerId → start other = clients other)
    (same : (start playerId).changes = (clients playerId).changes) :
    Departs environment server playerId clients start := by
  refine ⟨others, fun other => .inr ?_, ?_⟩
  · rw [Testclient.roles, same]
    rfl
  · intro host
    rw [(meshed.own consistent host).2] at still
    contradiction

theorem departs_gone (consistent : Consistent server sockets) (known : playerId ∈ server.playerSockets)
    (meshed : Meshed present server clients) : Departs environment server playerId clients clients := by
  refine ⟨fun _ _ => rfl, fun _ => .inr rfl, ?_⟩
  intro host
  obtain ⟨own, playing⟩ := meshed.own consistent host
  rw [hear_ownHostLeft consistent known, if_pos own]
  exact Testclient.roles_leave playing

/-- A player that is in no game stays in none. -/
theorem Departs.alone (departs : Departs environment server playerId clients start)
    (meshed : Meshed present server clients)
    (outside : ∀ (host : Int) (players : Std.ExtTreeSet Int), server.games[host]? = some players →
      playerId ∉ players) : Meshed present server start := by
  have alone : ∀ other, ¬ server.Together playerId other ∧ ¬ server.Together other playerId := by
    intro other
    constructor
    · rintro ⟨host, players, game, one, _⟩
      exact outside host players game one
    · rintro ⟨host, players, game, _, two⟩
      exact outside host players game two
  constructor
  · refine meshed.linked.leave (List.not_mem_nil : playerId ∉ []) ?_ ?_ ?_ departs.fewer
    · intro other _ together
      exact absurd together (not_or.mpr (alone other))
    · intro first second
      refine ⟨fun together => ⟨together, ?_, ?_⟩, fun both => both.1⟩
      · rintro rfl
        exact (alone second).1 together
      · rintro rfl
        exact (alone first).2 together
    · exact fun node different => congrArg Testclient.roles (departs.others node different)
  · intro host players game other member
    have different : other ≠ playerId := fun same => outside host players game (same ▸ member)
    rw [departs.others other different]
    exact meshed.plays host players game other member

theorem heard_silent {request : LobbyRequest}
    (silent : ∀ client : Testclient, client.hear environment request = client) :
    heard environment server sockets [request] clients = clients := by
  funext playerId
  unfold heard
  rcases server.playerSockets[playerId]? with _ | _ | socket
  · rfl
  · rfl
  · dsimp only
    by_cases reached : Lobby.reaches sockets socket request
    · rw [List.filter_cons_of_pos reached]
      exact silent _
    · rw [List.filter_cons_of_neg reached]
      rfl

theorem represents_farewells (consistent : Consistent server sockets) (known : playerId ∈ server.playerSockets)
    {players : Std.ExtTreeSet Int} (members : ∀ other ∈ players, other ∈ server.playerSockets) :
    Represents environment server sockets (players.toList.flatMap (server.farewells playerId))
      ((players.toList.filter (· ≠ playerId)).flatMap (farewell playerId)) := by
  rw [Sequence.flatMap_filter]
  apply represents_flatMap
  intro fellow within
  have present := members fellow (Std.ExtTreeSet.mem_toList.mp within)
  unfold farewells
  by_cases other : fellow ≠ playerId
  · rw [if_pos other, if_pos (decide_eq_true other)]
    exact (represents_addressed consistent present fun _ => Testclient.hear_disconnect (consistent.fitsId known)).append
      (represents_addressed consistent known fun _ => Testclient.hear_disconnect (consistent.fitsId present))
  · rw [if_neg other, if_neg fun same => other (of_decide_eq_true same)]
    exact represents_nil

/-- What the clients of a closed game do. -/
theorem heard_hostLeft (consistent : Consistent server sockets) {host : Int} {players : Std.ExtTreeSet Int}
    (game : server.games[host]? = some players) (gamelist : Value) {other : Int}
    (known : other ∈ server.playerSockets) :
    heard environment server sockets
        (players.toList.map (server.hostLeft host) ++ [⟨none, "onGamelist", [gamelist]⟩]) start other =
      if other ∈ players then (start other).hear environment (server.hostLeft host other) else start other := by
  obtain ⟨socket, owner, _⟩ := consistent.socket known
  have hosting := consistent.member game (consistent.hosts host players game)
  rw [heard_append, heard_silent fun _ => rfl, heard_known owner,
    foldl_hostLeft consistent hosting (fun fellow member =>
      consistent.member game (Std.ExtTreeSet.mem_toList.mp member)) owner (consistent.fitsId hosting)]
  simp only [Std.ExtTreeSet.mem_toList]

/-- The players of a closed game have dropped their links. -/
theorem Meshed.dissolve (meshed : Meshed (· ∈ server.playerSockets) server clients)
    (consistent : Consistent server sockets) {players : Std.ExtTreeSet Int}
    (game : server.games[playerId]? = some players) (left : Left server playerId next)
    (games : next.games = server.games.erase playerId) (gamelist : Value)
    (departs : Departs environment server playerId clients start) :
    Meshed (· ∈ server.playerSockets) next (heard environment server sockets
      (players.toList.map (server.hostLeft playerId) ++ [⟨none, "onGamelist", [gamelist]⟩]) start) := by
  have own := consistent.hosts playerId players game
  have known := consistent.member game own
  have told := fun {other : Int} (member : other ∈ server.playerSockets) =>
    @heard_hostLeft environment server sockets start consistent playerId players game gamelist other member
  constructor
  · refine meshed.linked.close together_symm ?_ (left.together_host consistent game) ?_ ?_
    · intro first second member together
      exact Std.ExtTreeSet.mem_toList.mpr
        ((together_iff consistent game (Std.ExtTreeSet.mem_toList.mp member) second).mp together)
    · intro other present member
      have within := Std.ExtTreeSet.mem_toList.mp member
      rw [told present, if_pos within]
      by_cases same : other = playerId
      · rw [same]
        exact departs.closes (TreeMap.mem_iff.mpr ⟨players, game⟩)
      · obtain ⟨plays, playing⟩ := meshed.plays playerId players game other within
        rw [departs.others other same]
        change (Testclient.hear environment (clients other) ⟨_, "onHostLeft", [.intValue playerId]⟩).roles = _
        rw [Testclient.hear_hostLeft (consistent.fitsId known), if_pos plays]
        exact Testclient.roles_leave playing
    · intro other present outside
      have stranger := mt Std.ExtTreeSet.mem_toList.mpr outside
      rw [told present, if_neg stranger, departs.others other fun same => stranger (same ▸ own)]
  · intro host others found other member
    rw [games, TreeMap.get_erase] at found
    obtain ⟨elsewhere, before⟩ := Option.ite_none_left_eq_some.mp found
    have stranger : other ∉ players := by
      intro within
      have same := (consistent.plays playerId players game other within).symm.trans
        (consistent.plays host others before other member)
      exact elsewhere (Option.some.inj same)
    rw [told (consistent.member before member), if_neg stranger,
      departs.others other fun same => stranger (same ▸ own)]
    exact meshed.plays host others before other member

/-- A player that has left the game of another one and the players of this game have removed each other. -/
theorem Meshed.withdraw (meshed : Meshed (· ∈ server.playerSockets) server clients)
    (consistent : Consistent server sockets) (known : playerId ∈ server.playerSockets) {gameId : Int}
    {players : Std.ExtTreeSet Int} (noHost : server.games[playerId]? = none)
    (plays : server.playersGames[playerId]? = some gameId) (game : server.games[gameId]? = some players)
    (left : Left server playerId next) (departs : Departs environment server playerId clients start) :
    Meshed (· ∈ server.playerSockets) next
      (heard environment server sockets (players.toList.flatMap (server.farewells playerId)) start) := by
  have members : ∀ other ∈ players, other ∈ server.playerSockets := fun other => consistent.member game
  have represents := @represents_farewells environment server sockets playerId consistent known players members
  constructor
  · have apart := meshed.linked.leave (by simp : playerId ∉ players.toList.filter (· ≠ playerId)) ?_
      (left.together_fellow noHost)
      (fun node different => congrArg Testclient.roles (departs.others node different)) departs.fewer
    · exact apart.congr fun other present => represents.roles consistent present
    · intro other different together
      have joined : server.Together playerId other := together.elim id (together_symm other playerId)
      obtain ⟨host, found, opened, one, two⟩ := joined
      have same := plays.symm.trans (consistent.plays host found opened playerId one)
      rw [← Option.some.inj same, game] at opened
      rw [List.mem_filter, Std.ExtTreeSet.mem_toList]
      exact ⟨Option.some.inj opened ▸ two, decide_eq_true different⟩
  · intro host others found other member
    rw [left.games] at found
    obtain ⟨_, before⟩ := Option.ite_none_left_eq_some.mp found
    obtain ⟨former, same, rfl⟩ := Option.map_eq_some_iff.mp before
    obtain ⟨different, member⟩ := TreeMap.mem_erase.mp member
    rw [represents.heard consistent (consistent.member same member), departs.others other different]
    exact meshed.plays host former same other member

/-- The players that have left a game have no links to it. -/
theorem Leaves.meshed (leaves : Leaves server playerId next) (consistent : Consistent server sockets)
    (known : playerId ∈ server.playerSockets) (silent : server.requests = [])
    (meshed : Meshed (· ∈ server.playerSockets) server clients)
    (departs : Departs environment server playerId clients start) :
    Meshed (· ∈ server.playerSockets) next (heard environment server sockets next.requests start) := by
  have left := leaves.left consistent
  cases leaves with
  | idle noHost noGame =>
      rw [silent, heard_nil]
      apply departs.alone meshed
      intro host players game member
      rw [consistent.plays host players game playerId member] at noGame
      contradiction
  | closed gameId noHost plays gone =>
      have outside : Meshed (· ∈ server.playerSockets) server start := by
        apply departs.alone meshed
        intro host players game member
        have same := (consistent.plays host players game playerId member).symm.trans plays
        rw [Option.some.inj same, gone] at game
        contradiction
      change Meshed _ _ (heard environment server sockets server.requests start)
      rw [silent, heard_nil]
      exact outside.of_games rfl
  | host players gamelist game =>
      rw [silent, List.nil_append]
      rw [silent, List.nil_append] at left
      exact meshed.dissolve consistent game left rfl gamelist departs
  | fellow gameId players noHost plays game =>
      rw [silent, List.nil_append]
      rw [silent, List.nil_append] at left
      exact meshed.withdraw consistent known noHost plays game left departs

/-- A player that hosts no game plays on what it has started. -/
theorem Leaves.keeps (leaves : Leaves server playerId next) (consistent : Consistent server sockets)
    (known : playerId ∈ server.playerSockets) (silent : server.requests = [])
    (noHost : server.games[playerId]? = none) :
    ∃ changes, heard environment server sockets next.requests start playerId = (start playerId).change changes := by
  cases leaves with
  | idle _ noGame => exact ⟨[], by rw [silent, heard_nil, Testclient.change_nil]⟩
  | closed gameId _ plays gone =>
      refine ⟨[], ?_⟩
      change heard environment server sockets server.requests start playerId = _
      rw [silent, heard_nil, Testclient.change_nil]
  | host players gamelist game =>
      rw [noHost] at game
      contradiction
  | fellow gameId players _ plays game =>
      have members : ∀ other ∈ players, other ∈ server.playerSockets := fun other => consistent.member game
      have represents := @represents_farewells environment server sockets playerId consistent known players members
      rw [silent, List.nil_append]
      exact ⟨_, represents.heard consistent known⟩

theorem represents_introductions (asBool : ∀ value, environment.asBool (.booleanValue value) = .ok value)
    (consistent : Consistent server sockets) (known : playerId ∈ server.playerSockets) {host : Int}
    {players : Std.ExtTreeSet Int} (game : server.games[host]? = some players) :
    Represents environment server sockets (server.introductions playerId host (players.insert playerId))
      ((host :: ((players.insert playerId).toList.filter fun other => other ≠ playerId ∧ other ≠ host)).flatMap
        (greeting playerId)) := by
  have hosting := consistent.member game (consistent.hosts host players game)
  have invites := fun {receiver other : Int} (present : other ∈ server.playerSockets) (createOffer : Bool)
      (client : Testclient) =>
    @Testclient.hear_connect environment client (server.playerSockets[receiver]?.join) other
      (server.playersLogins[other]?.getD []) createOffer (consistent.fitsId present) (asBool createOffer)
  rw [List.flatMap_cons, Sequence.flatMap_filter]
  apply Represents.append
  · exact (represents_addressed consistent hosting (invites known true)).append
      (represents_addressed consistent known fun _ => Testclient.hear_join (consistent.fitsId hosting))
  · apply represents_flatMap
    intro existing within
    unfold greetings
    by_cases own : existing = playerId
    · rw [if_pos own, if_neg (by simp [own])]
      exact represents_nil
    · by_cases first : existing = host
      · rw [if_neg own, if_pos first, if_neg (by simp [first])]
        exact represents_nil
      · have present : existing ∈ server.playerSockets :=
          consistent.member game ((TreeMap.mem_insert.mp (Std.ExtTreeSet.mem_toList.mp within)).resolve_left own)
        rw [if_neg own, if_neg first, if_pos (by simp [own, first])]
        exact (represents_addressed consistent present (invites known true)).append
          (represents_addressed consistent known (invites present false))

/-- A player that plays no game joins the players of one. -/
theorem Meshed.enter {after : Testserver} (meshed : Meshed (· ∈ server.playerSockets) after clients)
    (consistent : Consistent server sockets) (moved : Consistent after sockets)
    (same : after.playerSockets = server.playerSockets) (idle : after.playersGames[playerId]? = none)
    (known : playerId ∈ server.playerSockets) {host : Int} {former players : Std.ExtTreeSet Int}
    (game : after.games[host]?.getD ∅ = former) (grown : ∀ other, other ∈ players ↔ other = playerId ∨ other ∈ former)
    {fellows : List Int} (all : ∀ other, other ∈ fellows ↔ other ∈ former) {requests : List LobbyRequest}
    (represents : Represents environment server sockets requests (fellows.flatMap (greeting playerId)))
    (plays : (clients playerId).gameId = host ∧ (clients playerId).playing = true) (sent : List LobbyRequest) :
    Meshed (· ∈ server.playerSockets) { after with
      games := after.games.insert host players
      playersGames := after.playersGames.insert playerId host
      requests := sent } (heard environment server sockets requests clients) := by
  have found : ∀ other ∈ former, after.games[host]? = some former := by
    intro other member
    cases held : after.games[host]? with
    | none =>
        rw [held, Option.getD_none] at game
        exact absurd (game ▸ member) Std.ExtTreeSet.not_mem_empty
    | some found =>
        rw [held, Option.getD_some] at game
        rw [game]
  have outside : playerId ∉ fellows := by
    intro member
    have within := (all playerId).mp member
    rw [moved.plays host former (found playerId within) playerId within] at idle
    contradiction
  constructor
  · have joined := meshed.linked.join outside (together_idle moved idle) fun _ _ => Iff.rfl
    refine (joined.congr fun other present => represents.roles consistent present).regroup ?_
    intro first second
    rw [together_enter game grown]
    simp only [all]
  · intro gameId members inserted other member
    change (after.games.insert host players)[gameId]? = some members at inserted
    rw [TreeMap.get_insert] at inserted
    have present : other ∈ server.playerSockets := by
      split at inserted
      · obtain rfl := Option.some.inj inserted
        rcases (grown other).mp member with rfl | before
        · exact known
        · exact same ▸ moved.member (found other before) before
      · exact same ▸ moved.member inserted member
    rw [represents.heard consistent present]
    split at inserted
    · rename_i equal
      obtain rfl := Option.some.inj inserted
      rcases (grown other).mp member with rfl | before
      · exact equal ▸ plays
      · exact equal ▸ meshed.plays host former (found other before) other before
    · exact meshed.plays gameId members inserted other member

/-- A call that hosts or joins a game is made by a client that plays none, and changes no role. -/
theorem departs_enter {socket : Nat} {params : List Value} {method : LobbyMethod}
    (enters : method = .hostGame ∨ method = .joinGame) (consistent : Consistent server sockets)
    (owner : server.socketPlayers[socket]? = some playerId) (meshed : Meshed present server clients)
    (still : (clients playerId).playing = false) :
    Departs environment server playerId clients
      (clicked environment.jsonCpp server socket params method clients) := by
  apply departs_still consistent meshed still
  · exact fun other different => if_neg fun same => different (Option.some.inj (same.symm.trans owner))
  · rw [clicked, if_pos owner]
    rcases enters with rfl | rfl
    · rfl
    · rw [Testclient.click]
      split
      · rfl
      · rfl

theorem clicked_unowned {socket : Nat} (params : List Value) (method : LobbyMethod)
    (free : server.socketPlayers[socket]? = none) :
    clicked environment.jsonCpp server socket params method clients = clients := by
  funext other
  rw [clicked, free]
  rfl

theorem clicked_idle {socket : Nat} (params : List Value) {method : LobbyMethod}
    (idle : method ≠ .hostGame ∧ method ≠ .joinGame ∧ method ≠ .leaveGame) :
    clicked environment.jsonCpp server socket params method clients = clients := by
  funext other
  unfold clicked
  split
  · cases method with
    | hostGame => exact absurd rfl idle.1
    | joinGame => exact absurd rfl idle.2.1
    | leaveGame => exact absurd rfl idle.2.2
    | _ => rfl
  · rfl

/-- A client that is about to enter a game has left the one that the server knew it in. -/
theorem Leaves.enters {after : Testserver} {socket : Nat} {params : List Value} {method : LobbyMethod}
    (leaves : Leaves server playerId after) (enters : method = .hostGame ∨ method = .joinGame)
    (consistent : Consistent server sockets) (owner : server.socketPlayers[socket]? = some playerId)
    (silent : server.requests = []) (meshed : Meshed (· ∈ server.playerSockets) server clients)
    (still : (clients playerId).playing = false) :
    let clicks := clicked environment.jsonCpp server socket params method clients
    let heard := heard environment server sockets after.requests clicks
    Meshed (· ∈ server.playerSockets) after heard ∧ (heard playerId).gameId = (clicks playerId).gameId ∧
      (heard playerId).playing = (clicks playerId).playing := by
  have known := consistent.owned owner
  have departs := @departs_enter environment server sockets playerId clients _ socket params method enters consistent
    owner meshed still
  have noHost : server.games[playerId]? = none := TreeMap.eq_none_iff.mpr fun host => by
    rw [(meshed.own consistent host).2] at still
    contradiction
  obtain ⟨changes, kept⟩ := @Leaves.keeps environment server after sockets playerId
    (clicked environment.jsonCpp server socket params method clients) leaves consistent known silent noHost
  refine ⟨leaves.meshed consistent known silent meshed departs, ?_, ?_⟩
  · rw [kept]
    rfl
  · rw [kept]
    rfl

/-- A host plays its new game alone. -/
theorem Leaves.opens {after : Testserver} {socket : Nat} (leaves : Leaves server playerId after)
    (consistent : Consistent server sockets) (owner : server.socketPlayers[socket]? = some playerId)
    (silent : server.requests = []) (meshed : Meshed (· ∈ server.playerSockets) server clients)
    (still : (clients playerId).playing = false) (params : List Value) (gamelist : Value) :
    let opened := after.requests ++ [⟨some socket, "sendToIceAdapter", [.stringValue (bytes "hostGame")]⟩,
      ⟨none, "onGamelist", [gamelist]⟩]
    Meshed (· ∈ server.playerSockets) { after with
      games := after.games.insert playerId ((∅ : Std.ExtTreeSet Int).insert playerId)
      playersGames := after.playersGames.insert playerId playerId
      requests := opened } (heard environment server sockets opened
        (clicked environment.jsonCpp server socket params .hostGame clients)) := by
  have left := leaves.left consistent
  obtain ⟨apart, gameId, playing⟩ := @Leaves.enters environment server sockets playerId clients after socket params
    .hostGame leaves (.inl rfl) consistent owner silent meshed still
  have own : clicked environment.jsonCpp server socket params .hostGame clients playerId =
      { clients playerId with gameId := playerId, playing := true } := if_pos owner
  have nobody : ∀ other, other ∈ ([] : List Int) ↔ other ∈ (∅ : Std.ExtTreeSet Int) := fun other =>
    ⟨fun member => absurd member List.not_mem_nil, fun member => absurd member Std.ExtTreeSet.not_mem_empty⟩
  intro opened
  rw [heard_append]
  refine apart.enter consistent (left.consistent consistent) left.playerSockets
    ((left.playersGames playerId).trans (if_pos rfl)) (consistent.owned owner) ?_ (fun other => TreeMap.mem_insert)
    nobody ?_ ?_ _
  · rw [(left.games playerId).trans (if_pos rfl)]
    rfl
  · refine (represents_silent fun client => ?_).append (represents_silent fun _ => rfl)
    rw [Testclient.hear, if_pos rfl]
    exact Testclient.change_nil
  · rw [gameId, playing, own]
    exact ⟨rfl, rfl⟩

/-- A player that has joined a game is linked to all of its players. -/
theorem Leaves.joins {after : Testserver} {socket : Nat} {params : List Value} {host : Int}
    {players : Std.ExtTreeSet Int} (leaves : Leaves server playerId after)
    (asBool : ∀ value, environment.asBool (.booleanValue value) = .ok value) (consistent : Consistent server sockets)
    (owner : server.socketPlayers[socket]? = some playerId) (silent : server.requests = [])
    (meshed : Meshed (· ∈ server.playerSockets) server clients) (still : (clients playerId).playing = false)
    (asked : environment.jsonCpp.asInt (params.getD 0 .nullValue) = .ok host)
    (game : after.games[host]? = some players) :
    let introduced := after.requests ++ after.introductions playerId host (players.insert playerId)
    Meshed (· ∈ server.playerSockets) { after with
      games := after.games.insert host (players.insert playerId)
      playersGames := after.playersGames.insert playerId host
      requests := introduced } (heard environment server sockets introduced
        (clicked environment.jsonCpp server socket params .joinGame clients)) := by
  have known := consistent.owned owner
  have left := leaves.left consistent
  have moved := left.consistent consistent
  have idle := (left.playersGames playerId).trans (if_pos rfl)
  obtain ⟨apart, gameId, playing⟩ := @Leaves.enters environment server sockets playerId clients after socket params
    .joinGame leaves (.inr rfl) consistent owner silent meshed still
  have own : clicked environment.jsonCpp server socket params .joinGame clients playerId =
      { clients playerId with gameId := host, playing := true } := by
    rw [clicked, if_pos owner, Testclient.click, asked]
  have outside : playerId ∉ players := by
    intro member
    rw [moved.plays host players game playerId member] at idle
    contradiction
  intro introduced
  rw [heard_append]
  refine apart.enter consistent moved left.playerSockets idle known ?_ (fun other => TreeMap.mem_insert) ?_
    ((represents_introductions asBool moved (left.playerSockets ▸ known) game).of_sockets left.playerSockets) ?_ _
  · rw [game]
    rfl
  · intro other
    rw [List.mem_cons, List.mem_filter, Std.ExtTreeSet.mem_toList, TreeMap.mem_insert, decide_eq_true_eq]
    constructor
    · rintro (rfl | ⟨rfl | member, others⟩)
      · exact moved.hosts other players game
      · exact absurd rfl others.1
      · exact member
    · intro member
      by_cases first : other = host
      · exact .inl first
      · exact .inr ⟨.inr member, fun same => outside (same ▸ member), first⟩
  · rw [gameId, playing, own]
    exact ⟨rfl, rfl⟩

/-- A call keeps the links of the players to their games. -/
theorem Handles.meshed {socket : Nat} {params : List Value} {method : LobbyMethod}
    (handles : Handles environment.jsonCpp server socket params method next)
    (asBool : ∀ value, environment.asBool (.booleanValue value) = .ok value) (consistent : Consistent server sockets)
    (silent : server.requests = []) (meshed : Meshed (· ∈ server.playerSockets) server clients)
    (still : method = .hostGame ∨ method = .joinGame → ∀ playerId,
      server.socketPlayers[socket]? = some playerId → (clients playerId).playing = false) :
    Meshed (· ∈ server.playerSockets) next (heard environment server sockets next.requests
      (clicked environment.jsonCpp server socket params method clients)) := by
  cases handles with
  | same method stays =>
      rw [silent, heard_nil]
      cases owner : server.socketPlayers[socket]? with
      | none =>
          rw [clicked_unowned params method owner]
          exact meshed
      | some playerId =>
          by_cases enters : method = .hostGame ∨ method = .joinGame
          · have plays := still enters playerId owner
            exact (departs_enter enters consistent owner meshed plays).alone meshed fun _ _ game =>
              meshed.still plays game
          · have idle : method ≠ .leaveGame := by
              intro same
              rw [TreeMap.eq_none_iff.mpr (stays same)] at owner
              contradiction
            rw [not_or] at enters
            rw [clicked_idle params ⟨enters.1, enters.2, idle⟩]
            exact meshed
  | login login free unused =>
      rw [clicked_unowned params .login (TreeMap.eq_none_iff.mpr free)]
      change Meshed _ _ (heard environment server sockets server.requests clients)
      rw [silent, heard_nil]
      exact meshed.of_games rfl
  | reconnect id former free known =>
      rw [clicked_unowned params .reconnect (TreeMap.eq_none_iff.mpr free)]
      change Meshed _ _ (heard environment server sockets server.requests clients)
      rw [silent, heard_nil]
      exact meshed.of_games rfl
  | left method leaving playerId _ owner leaves =>
      apply leaves.meshed consistent (consistent.owned owner) silent meshed
      rcases leaving with rfl | rfl
      · exact departs_leave params consistent owner meshed
      · exact departs_enter (.inr rfl) consistent owner meshed (still (.inr rfl) playerId owner)
  | hosted playerId after gamelist owner leaves =>
      exact leaves.opens consistent owner silent meshed (still (.inl rfl) playerId owner) params gamelist
  | joined playerId host players after owner leaves asked game =>
      exact leaves.joins asBool consistent owner silent meshed (still (.inr rfl) playerId owner) asked game
  | iceMsg sender remoteId msg owner known =>
      rw [@clicked_idle environment server clients socket params .sendIceMsg ⟨by decide, by decide, by decide⟩]
      change Meshed _ _ (heard environment server sockets (server.requests ++ [_]) clients)
      have quiet := @heard_silent environment server sockets clients (server.addressed remoteId "sendToIceAdapter"
        (LobbyRequest.command "iceMsg" [.intValue sender, msg])) fun _ => Testclient.hear_iceMsg _
      rw [silent, List.nil_append, quiet]
      exact meshed.of_games rfl

theorem Forgets.meshed {socket : Nat} (forgets : Forgets server socket next) (consistent : Consistent server sockets)
    (silent : server.requests = []) (meshed : Meshed (· ∈ server.playerSockets) server clients) :
    Meshed (· ∈ server.playerSockets) next (heard environment server sockets next.requests clients) := by
  cases forgets with
  | unknown free =>
      rw [silent, heard_nil]
      exact meshed
  | player playerId left owner leaves =>
      have known := consistent.owned owner
      exact (leaves.meshed consistent known silent meshed (departs_gone consistent known meshed)).of_games rfl

/-- The player ids are given out in order, and only a new player is added to those with a socket. -/
theorem Handles.grows {socket : Nat} {params : List Value} {method : LobbyMethod}
    (handles : Handles environment.jsonCpp server socket params method next) (consistent : Consistent server sockets) :
    server.currentPlayerId ≤ next.currentPlayerId ∧
      ∀ playerId ∈ next.playerSockets, playerId ∈ server.playerSockets ∨
        (playerId = server.currentPlayerId ∧ next.requests = server.requests ∧ next.games = server.games) := by
  cases handles with
  | same method stays => exact ⟨le_rfl, fun _ => .inl⟩
  | login login free unused =>
      refine ⟨Int.le_of_lt (Int.lt_succ _), fun other member => ?_⟩
      rcases Std.ExtTreeMap.mem_insertIfNew.mp member with same | former
      · exact .inr ⟨(compare_eq_iff_eq.mp same).symm, rfl, rfl⟩
      · exact .inl former
  | reconnect id former free known =>
      refine ⟨le_rfl, fun other member => .inl ?_⟩
      rcases Std.ExtTreeMap.mem_insertIfNew.mp member with same | present
      · rw [← compare_eq_iff_eq.mp same]
        exact TreeMap.mem_iff.mpr ⟨_, known⟩
      · exact Std.ExtTreeMap.mem_of_mem_erase present
  | left method leaving playerId _ owner leaves =>
      have left := leaves.left consistent
      exact ⟨left.currentPlayerId.ge, fun _ member => .inl (left.playerSockets ▸ member)⟩
  | hosted playerId after gamelist owner leaves =>
      have left := leaves.left consistent
      exact ⟨left.currentPlayerId.ge, fun _ member => .inl (left.playerSockets ▸ member)⟩
  | joined playerId host players after owner leaves asked game =>
      have left := leaves.left consistent
      exact ⟨left.currentPlayerId.ge, fun _ member => .inl (left.playerSockets ▸ member)⟩
  | iceMsg sender remoteId msg owner known => exact ⟨le_rfl, fun _ => .inl⟩

end Requests
end Testserver
end Faf
