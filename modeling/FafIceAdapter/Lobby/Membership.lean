import FafIceAdapter.Lobby.Handling

namespace Faf
open Json Transition

namespace Testserver
namespace Consistent

variable {server : Testserver} {sockets : Finset Nat} {socket : Nat}

/-- A player that plays no game enters one. -/
theorem enter (consistent : Consistent server sockets) {playerId host : Int} {players : Std.ExtTreeSet Int}
    (known : playerId ∈ server.playerSockets) (idle : server.playersGames[playerId]? = none)
    (own : host ∈ players)
    (others : ∀ other ∈ players, other = playerId ∨ server.playersGames[other]? = some host)
    (requests : List LobbyRequest) :
    Consistent { server with
      games := server.games.insert host players
      playersGames := server.playersGames.insert playerId host
      requests := requests } sockets :=
  { consistent with
    plays := by
      intro game members found other member
      change (server.games.insert host players)[game]? = some members at found
      change (server.playersGames.insert playerId host)[other]? = some game
      rw [TreeMap.get_insert] at found ⊢
      by_cases same : host = game
      · rw [if_pos same] at found
        obtain rfl := Option.some.inj found
        subst same
        rcases others other member with rfl | plays
        · exact if_pos rfl
        · split
          · rfl
          · exact plays
      · rw [if_neg same] at found
        have plays := consistent.plays game members found other member
        rw [if_neg, plays]
        intro equal
        rw [← equal, idle] at plays
        contradiction
    hosts := by
      intro game members found
      change (server.games.insert host players)[game]? = some members at found
      rw [TreeMap.get_insert] at found
      split at found
      · rename_i same
        obtain rfl := Option.some.inj found
        exact same ▸ own
      · exact consistent.hosts game members found
    known := by
      intro other game plays
      change (server.playersGames.insert playerId host)[other]? = some game at plays
      rw [TreeMap.get_insert] at plays
      split at plays
      · rename_i same
        exact same ▸ known
      · exact consistent.known other game plays }

/-- A socket without a player gets a new one. -/
theorem enterPlayer (consistent : Consistent server sockets) {login : Bytes} (connected : socket ∈ sockets)
    (free : socket ∉ server.socketPlayers) (unused : login ∉ server.logins)
    (fits : FitsInt32 (server.currentPlayerId + 1)) :
    Consistent { server.enterPlayer login socket with currentPlayerId := server.currentPlayerId + 1 } sockets := by
  have fresh : server.currentPlayerId ∉ server.playerSockets := fun known =>
    absurd (consistent.issued _ known).2 (lt_irrefl _)
  have unnamed : server.currentPlayerId ∉ server.playersLogins := fun named =>
    fresh ((consistent.named _).mp named)
  have range := consistent.fits
  unfold Testserver.enterPlayer
  rw [TreeMap.insertIfNew_of_notMem fresh, TreeMap.insertIfNew_of_notMem free,
    TreeMap.insertIfNew_of_notMem unnamed]
  constructor
  · intro playerId other
    change (server.playerSockets.insert _ _)[playerId]? = _ ↔ (server.socketPlayers.insert _ _)[other]? = _
    rw [TreeMap.get_insert, TreeMap.get_insert]
    by_cases player : server.currentPlayerId = playerId
    · rw [if_pos player]
      by_cases same : socket = other
      · rw [if_pos same, same, player]
        simp
      · rw [if_neg same, ← consistent.owner, ← player, TreeMap.eq_none_iff.mpr fresh]
        simp [same]
    · rw [if_neg player]
      by_cases same : socket = other
      · rw [if_pos same, consistent.owner, ← same, TreeMap.eq_none_iff.mpr free]
        simp [player]
      · rw [if_neg same]
        exact consistent.owner playerId other
  · intro playerId
    change (server.playerSockets.insert _ _)[playerId]? ≠ _
    rw [TreeMap.get_insert]
    split
    · simp
    · exact consistent.addressed playerId
  · intro other playerId owner
    change (server.socketPlayers.insert _ _)[other]? = _ at owner
    rw [TreeMap.get_insert] at owner
    split at owner
    · rename_i same
      exact same ▸ connected
    · exact consistent.connected other playerId owner
  · intro playerId
    change playerId ∈ server.playersLogins.insert _ _ ↔ playerId ∈ server.playerSockets.insert _ _
    rw [Std.ExtTreeMap.mem_insert, Std.ExtTreeMap.mem_insert, consistent.named]
  · intro first second name firstNamed secondNamed
    change (server.playersLogins.insert _ _)[first]? = _ at firstNamed
    change (server.playersLogins.insert _ _)[second]? = _ at secondNamed
    rw [TreeMap.get_insert] at firstNamed secondNamed
    by_cases one : server.currentPlayerId = first
    · rw [if_pos one] at firstNamed
      obtain rfl := Option.some.inj firstNamed
      by_contra different
      rw [if_neg fun two => different (one.symm.trans two)] at secondNamed
      exact unused (mem_logins.mpr ⟨second, secondNamed⟩)
    · rw [if_neg one] at firstNamed
      by_cases two : server.currentPlayerId = second
      · rw [if_pos two] at secondNamed
        obtain rfl := Option.some.inj secondNamed
        exact absurd (mem_logins.mpr ⟨first, firstNamed⟩) unused
      · rw [if_neg two] at secondNamed
        exact consistent.unique first second name firstNamed secondNamed
  · intro playerId known
    change playerId ∈ server.playerSockets.insert _ _ at known
    rcases Std.ExtTreeMap.mem_insert.mp known with same | former
    · rw [← compare_eq_iff_eq.mp same]
      exact ⟨range.1, Int.lt_succ _⟩
    · have before := consistent.issued playerId former
      change 0 ≤ playerId ∧ playerId < server.currentPlayerId + 1
      omega
  · exact ⟨by have := range.1; change 0 ≤ server.currentPlayerId + 1; omega, fits⟩
  · exact consistent.plays
  · exact consistent.hosts
  · exact fun playerId gameId plays => Std.ExtTreeMap.mem_insert.mpr (.inr (consistent.known playerId gameId plays))

/-- A player comes back with another socket. -/
theorem reconnect (consistent : Consistent server sockets) {id : Int} {former : Nat} (connected : socket ∈ sockets)
    (free : socket ∉ server.socketPlayers) (known : server.playerSockets[id]? = some (some former)) :
    Consistent { server with
      socketPlayers := (server.socketPlayers.erase former).insertIfNew socket id
      playerSockets := (server.playerSockets.erase id).insertIfNew id (some socket) } sockets := by
  have gone : id ∉ server.playerSockets.erase id := by
    rw [Std.ExtTreeMap.mem_erase]
    simp
  have still : socket ∉ server.socketPlayers.erase former := mt Std.ExtTreeMap.mem_of_mem_erase free
  have owned := (consistent.owner id former).mp known
  have players : ∀ playerId : Int, ((server.playerSockets.erase id).insert id (some socket))[playerId]? =
      if id = playerId then some (some socket) else server.playerSockets[playerId]? := by
    intro playerId
    rw [TreeMap.get_insert, TreeMap.get_erase]
    split
    · rfl
    · rfl
  rw [TreeMap.insertIfNew_of_notMem gone, TreeMap.insertIfNew_of_notMem still]
  have members : ∀ playerId : Int, playerId ∈ (server.playerSockets.erase id).insert id (some socket) ↔
      playerId ∈ server.playerSockets := by
    intro playerId
    rw [TreeMap.mem_iff, TreeMap.mem_iff, players]
    by_cases same : id = playerId
    · rw [if_pos same, ← same, known]
      simp
    · rw [if_neg same]
  exact
    { consistent with
      owner := by
        intro playerId other
        change ((server.playerSockets.erase id).insert id (some socket))[playerId]? = _ ↔
          ((server.socketPlayers.erase former).insert socket id)[other]? = _
        rw [players, TreeMap.get_insert, TreeMap.get_erase]
        by_cases player : id = playerId
        · rw [if_pos player]
          by_cases same : socket = other
          · rw [if_pos same, same, player]
            simp
          · rw [if_neg same]
            by_cases old : former = other
            · rw [if_pos old]
              simp [same]
            · rw [if_neg old, ← consistent.owner, ← player, known]
              simp [same, old]
        · rw [if_neg player]
          by_cases same : socket = other
          · rw [if_pos same, consistent.owner, ← same, TreeMap.eq_none_iff.mpr free]
            simp [player]
          · rw [if_neg same]
            by_cases old : former = other
            · rw [if_pos old, consistent.owner, ← old, owned]
              simp [player]
            · rw [if_neg old]
              exact consistent.owner playerId other
      addressed := by
        intro playerId
        change ((server.playerSockets.erase id).insert id (some socket))[playerId]? ≠ _
        rw [players]
        split
        · simp
        · exact consistent.addressed playerId
      connected := by
        intro other playerId owner
        change ((server.socketPlayers.erase former).insert socket id)[other]? = _ at owner
        rw [TreeMap.get_insert, TreeMap.get_erase] at owner
        split at owner
        · rename_i same
          exact same ▸ connected
        · exact consistent.connected other playerId (Option.ite_none_left_eq_some.mp owner).2
      named := fun playerId => (consistent.named playerId).trans (members playerId).symm
      issued := fun playerId known => consistent.issued playerId ((members playerId).mp known)
      known := fun playerId gameId plays => (members playerId).mpr (consistent.known playerId gameId plays) }

/-- A player that plays no game is forgotten. -/
theorem forget (consistent : Consistent server sockets) {playerId : Int}
    (owner : server.socketPlayers[socket]? = some playerId) (idle : server.playersGames[playerId]? = none) :
    Consistent { server with
      playerSockets := server.playerSockets.erase playerId
      socketPlayers := server.socketPlayers.erase socket
      playersLogins := server.playersLogins.erase playerId } (sockets.erase socket) := by
  have owned := (consistent.owner playerId socket).mpr owner
  exact
    { consistent with
      owner := by
        intro other pointer
        change (server.playerSockets.erase playerId)[other]? = _ ↔ (server.socketPlayers.erase socket)[pointer]? = _
        rw [TreeMap.get_erase, TreeMap.get_erase]
        by_cases player : playerId = other
        · rw [if_pos player]
          by_cases same : socket = pointer
          · rw [if_pos same]
            simp
          · rw [if_neg same, ← consistent.owner, ← player, owned]
            simp [same]
        · rw [if_neg player]
          by_cases same : socket = pointer
          · rw [if_pos same, consistent.owner, ← same, owner]
            simp [player]
          · rw [if_neg same]
            exact consistent.owner other pointer
      addressed := by
        intro other
        change (server.playerSockets.erase playerId)[other]? ≠ _
        rw [TreeMap.get_erase]
        split
        · simp
        · exact consistent.addressed other
      connected := by
        intro pointer other owner
        change (server.socketPlayers.erase socket)[pointer]? = _ at owner
        rw [TreeMap.get_erase] at owner
        obtain ⟨different, before⟩ := Option.ite_none_left_eq_some.mp owner
        exact Finset.mem_erase.mpr ⟨Ne.symm different, consistent.connected pointer other before⟩
      named := by
        intro other
        change other ∈ server.playersLogins.erase playerId ↔ other ∈ server.playerSockets.erase playerId
        rw [Std.ExtTreeMap.mem_erase, Std.ExtTreeMap.mem_erase, consistent.named]
      unique := by
        intro first second login firstNamed secondNamed
        change (server.playersLogins.erase playerId)[first]? = _ at firstNamed
        change (server.playersLogins.erase playerId)[second]? = _ at secondNamed
        rw [TreeMap.get_erase] at firstNamed secondNamed
        exact consistent.unique first second login (Option.ite_none_left_eq_some.mp firstNamed).2
          (Option.ite_none_left_eq_some.mp secondNamed).2
      issued := fun other known => consistent.issued other (Std.ExtTreeMap.mem_of_mem_erase known)
      known := by
        intro other gameId plays
        change server.playersGames[other]? = some gameId at plays
        change other ∈ server.playerSockets.erase playerId
        rw [Std.ExtTreeMap.mem_erase]
        refine ⟨?_, consistent.known other gameId plays⟩
        intro same
        rw [← compare_eq_iff_eq.mp same, idle] at plays
        contradiction }

end Consistent

section Events

variable {jsonCpp : JsonCpp} {server next : Testserver} {sockets : Finset Nat} {socket : Nat} {params : List Value}
  {method : LobbyMethod}

theorem Handles.consistent (handles : Handles jsonCpp server socket params method next)
    (consistent : Consistent server sockets) (connected : socket ∈ sockets)
    (fits : FitsInt32 next.currentPlayerId) : Consistent next sockets := by
  cases handles with
  | same method stays => exact consistent
  | login login free unused => exact consistent.enterPlayer connected free unused fits
  | reconnect id former free known => exact consistent.reconnect connected free known
  | left method leaving playerId _ owner leaves => exact (leaves.left consistent).consistent consistent
  | hosted playerId after gamelist owner leaves =>
      have left := leaves.left consistent
      have idle := (left.playersGames playerId).trans (if_pos rfl)
      refine (left.consistent consistent).enter ?_ idle (TreeMap.mem_insert.mpr (.inl rfl)) ?_ _
      · rw [left.playerSockets]
        exact consistent.owned owner
      · intro other member
        rcases TreeMap.mem_insert.mp member with same | absent
        · exact .inl same
        · exact absurd absent Std.ExtTreeSet.not_mem_empty
  | joined playerId host players after owner leaves asked game =>
      have left := leaves.left consistent
      have moved := left.consistent consistent
      have idle := (left.playersGames playerId).trans (if_pos rfl)
      refine moved.enter ?_ idle (TreeMap.mem_insert.mpr (.inr (moved.hosts host players game))) ?_ _
      · rw [left.playerSockets]
        exact consistent.owned owner
      · intro other member
        rcases TreeMap.mem_insert.mp member with same | former
        · exact .inl same
        · exact .inr (moved.plays host players game other former)
  | iceMsg sender remoteId msg owner known => exact consistent.sent _

/-- A socket that is gone takes its player with it. -/
inductive Forgets (server : Testserver) (socket : Nat) : Testserver → Prop
  | unknown (free : server.socketPlayers[socket]? = none) : Forgets server socket server
  | player (playerId : Int) (left : Testserver) (owner : server.socketPlayers[socket]? = some playerId)
      (leaves : Leaves server playerId left) :
      Forgets server socket { left with
        playerSockets := left.playerSockets.erase playerId
        socketPlayers := left.socketPlayers.erase socket
        playersLogins := left.playersLogins.erase playerId }

theorem onDisconnected_forgets (consistent : Consistent server sockets) :
    ∃ next, server.onDisconnected socket = .ok next ∧ Forgets server socket next := by
  unfold onDisconnected
  split
  · rename_i free
    exact ⟨server, rfl, .unknown free⟩
  · rename_i playerId owner
    obtain ⟨left, leaving, leaves⟩ := disconnectPlayerFromGame_leaves consistent (consistent.owned owner)
    rw [leaving]
    exact ⟨_, rfl, .player playerId left owner leaves⟩

theorem Forgets.consistent (forgets : Forgets server socket next) (consistent : Consistent server sockets) :
    Consistent next (sockets.erase socket) := by
  cases forgets with
  | unknown free =>
      refine { consistent with connected := ?_ }
      intro other playerId owner
      refine Finset.mem_erase.mpr ⟨?_, consistent.connected other playerId owner⟩
      intro same
      rw [same, free] at owner
      contradiction
  | player playerId left owner leaves =>
      have moved := leaves.left consistent
      exact (moved.consistent consistent).forget (by rw [moved.socketPlayers]; exact owner)
        ((moved.playersGames playerId).trans (if_pos rfl))

end Events
end Testserver

namespace Lobby

/-- Only a client that is logged in passes ICE messages on. -/
def KnownSender (lobby : Lobby) : Event → Prop
  | .called socket .sendIceMsg _ => socket ∈ lobby.server.socketPlayers
  | _ => True

instance (lobby : Lobby) (event : Event) : Decidable (lobby.KnownSender event) := by
  unfold KnownSender
  split
  · infer_instance
  · infer_instance

/-- What a step does to the server and to the sockets. -/
inductive Steps (jsonCpp : JsonCpp) (lobby : Lobby) : Event → Testserver → Finset Nat → Prop
  | connected (socket : Nat) (fresh : socket ∉ lobby.sockets) :
      Steps jsonCpp lobby (.connected socket) lobby.server (insert socket lobby.sockets)
  | disconnected (socket : Nat) (next : Testserver) (connected : socket ∈ lobby.sockets)
      (forgets : lobby.server.Forgets socket next) :
      Steps jsonCpp lobby (.disconnected socket) next (lobby.sockets.erase socket)
  | called (socket : Nat) (method : LobbyMethod) (params : List Value) (next : Testserver)
      (connected : socket ∈ lobby.sockets) (handles : lobby.server.Handles jsonCpp socket params method next)
      (fits : FitsInt32 next.currentPlayerId) :
      Steps jsonCpp lobby (.called socket method params) next lobby.sockets

section Runs

variable {jsonCpp : JsonCpp} {lobby next : Lobby} {event : Event}

theorem clear_consistent (consistent : lobby.server.Consistent lobby.sockets) :
    lobby.clear.server.Consistent lobby.clear.sockets := consistent.sent []

theorem step_steps (consistent : lobby.server.Consistent lobby.sockets) (permits : lobby.KnownSender event)
    (steps : lobby.step jsonCpp event = some next) :
    ∃ server sockets, next = { (lobby.clear.act event).hand server with sockets := sockets } ∧
      lobby.clear.Steps jsonCpp event server sockets := by
  unfold step handle at steps
  cases event with
  | connected socket =>
      obtain ⟨fresh, same⟩ := Option.ite_none_left_eq_some.mp steps
      obtain rfl := Option.some.inj same
      refine ⟨lobby.clear.server, insert socket lobby.clear.sockets, ?_, .connected socket fresh⟩
      have kept : (lobby.clear.hand lobby.clear.server).history = lobby.clear.history := by
        funext playerId
        exact history_hand_silent rfl playerId
      exact congrArg (fun history => (⟨lobby.clear.server, insert socket lobby.clear.sockets, history⟩ : Lobby))
        kept.symm
  | disconnected socket =>
      obtain ⟨connected, moves⟩ := Option.ite_none_right_eq_some.mp steps
      obtain ⟨server, gone, forgets⟩ := @Testserver.onDisconnected_forgets _ _ socket (clear_consistent consistent)
      rw [gone] at moves
      obtain rfl := Option.some.inj moves
      exact ⟨server, _, rfl, .disconnected socket server connected forgets⟩
  | called socket method params =>
      obtain ⟨connected, moves⟩ := Option.ite_none_right_eq_some.mp steps
      obtain ⟨fits, last⟩ := Option.ite_none_right_eq_some.mp moves
      obtain rfl := Option.some.inj last
      refine ⟨_, _, rfl, .called socket method params _ connected ?_ fits⟩
      apply Testserver.call_handles (clear_consistent consistent)
      intro sends
      subst sends
      exact permits

theorem Steps.consistent {server : Testserver} {sockets : Finset Nat}
    (steps : lobby.Steps jsonCpp event server sockets) (consistent : lobby.server.Consistent lobby.sockets) :
    server.Consistent sockets := by
  cases steps with
  | connected socket fresh =>
      exact { consistent with
        connected := fun other playerId owner =>
          Finset.mem_insert_of_mem (consistent.connected other playerId owner) }
  | disconnected socket _ connected forgets => exact forgets.consistent consistent
  | called socket method params _ connected handles fits => exact handles.consistent consistent connected fits

theorem consistent_reaches {events : List Event} (run : (machine jsonCpp).Reaches KnownSender events lobby) :
    lobby.server.Consistent lobby.sockets := by
  apply run.invariant fun lobby => lobby.server.Consistent lobby.sockets
  · exact Testserver.Consistent.empty
  · intro lobby event next consistent permits steps
    obtain ⟨server, sockets, same, moves⟩ := step_steps consistent permits steps
    rw [same]
    exact moves.consistent (clear_consistent consistent)

end Runs
end Lobby
end Faf
