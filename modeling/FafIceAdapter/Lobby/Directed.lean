import FafIceAdapter.Json.Sample
import FafIceAdapter.Lobby.Membership

namespace Faf
open Json Transition

namespace Testserver

section Gamelist

variable {server : Testserver}

/-- The members that the hosts add are theirs, and the others are kept. -/
theorem gamelist_fold (unique : ∀ (first second : Int) (login : Bytes), server.playersLogins[first]? = some login →
      server.playersLogins[second]? = some login → first = second)
    {hosts : List Int} {start gamelist : Value} (object : start.isObject)
    (listed : hosts.foldlM (fun result host => do
      let login ← server.playersLogins[host]?
      return result.set login (.intValue host)) start = some gamelist) :
    (∀ host ∈ hosts, ∀ login, server.playersLogins[host]? = some login → gamelist.member login = .intValue host) ∧
      ∀ login, (∀ host ∈ hosts, server.playersLogins[host]? ≠ some login) →
        gamelist.member login = start.member login := by
  induction hosts generalizing start with
  | nil =>
      obtain rfl := Option.some.inj listed
      exact ⟨fun host member => absurd member List.not_mem_nil, fun login _ => rfl⟩
  | cons head rest ih =>
      rw [List.foldlM_cons] at listed
      obtain ⟨after, moves, later⟩ := Option.bind_eq_some_iff.mp listed
      obtain ⟨own, named, same⟩ := Option.bind_eq_some_iff.mp moves
      obtain rfl := Option.some.inj same
      have assigned : start.isNull || start.isObject := by rw [object, Bool.or_true]
      obtain ⟨members, others⟩ := ih (Value.isObject_set assigned own (.intValue head)) later
      constructor
      · intro host member login known
        by_cases again : ∃ other ∈ rest, server.playersLogins[other]? = some login
        · obtain ⟨other, within, also⟩ := again
          rw [unique host other login known also]
          exact members other within login also
        · have first : host = head := by
            rcases List.mem_cons.mp member with same | within
            · exact same
            · exact absurd ⟨host, within, known⟩ again
          rw [others login fun other within also => again ⟨other, within, also⟩]
          subst first
          obtain rfl := Option.some.inj (named.symm.trans known)
          exact Value.member_set_same assigned own (.intValue host)
      · intro login absent
        rw [others login fun host member => absent host (List.mem_cons_of_mem head member)]
        apply Value.member_set_of_ne
        intro same
        exact absent head List.mem_cons_self (same ▸ named)

/-- The list of the games has one member for each game, which is the id of its host under its login. -/
theorem gamelist_member {sockets : Finset Nat} (consistent : Consistent server sockets) {gamelist : Value}
    (listed : server.gamelistJson = some gamelist) (login : Bytes) (id : Int) :
    gamelist.member login = .intValue id ↔ id ∈ server.games ∧ server.playersLogins[id]? = some login := by
  obtain ⟨members, others⟩ := gamelist_fold consistent.unique (show (Value.objectValue []).isObject from rfl) listed
  constructor
  · intro found
    by_cases hosted : ∃ host ∈ server.games.keys, server.playersLogins[host]? = some login
    · obtain ⟨host, member, named⟩ := hosted
      have same := (members host member login named).symm.trans found
      injection same with equal
      exact equal ▸ ⟨Std.ExtTreeMap.mem_keys.mp member, named⟩
    · have absent := others login fun host member named => hosted ⟨host, member, named⟩
      rw [absent] at found
      contradiction
  · intro hosted
    exact members id (Std.ExtTreeMap.mem_keys.mpr hosted.1) login hosted.2

end Gamelist

/-- A request is the list of the games for all clients, or it is for the socket of one player. -/
def Directs (server : Testserver) (request : LobbyRequest) : Prop :=
  (request.socket = none ∧ request.method = "onGamelist") ∨
    ∃ playerId ∈ server.playerSockets, request = server.addressed playerId request.method request.params

section Requests

variable {jsonCpp : JsonCpp} {server next : Testserver} {sockets : Finset Nat} {socket : Nat} {playerId : Int}
  {params : List Value} {method : LobbyMethod}

theorem directs_addressed (known : playerId ∈ server.playerSockets) (method : String) (params : List Value) :
    server.Directs (server.addressed playerId method params) := .inr ⟨playerId, known, rfl⟩

/-- The tables of the sockets are all that matters. -/
theorem Directs.of_sockets {request : LobbyRequest} (directs : next.Directs request)
    (same : next.playerSockets = server.playerSockets) : server.Directs request := by
  rcases directs with list | ⟨playerId, known, equal⟩
  · exact .inl list
  · refine .inr ⟨playerId, same ▸ known, ?_⟩
    rw [addressed, ← same]
    exact equal

theorem Leaves.directs (leaves : Leaves server playerId next) (consistent : Consistent server sockets)
    (known : playerId ∈ server.playerSockets) (silent : server.requests = []) :
    ∀ request ∈ next.requests, server.Directs request := by
  intro request member
  cases leaves with
  | idle noHost noGame => exact absurd (silent ▸ member) List.not_mem_nil
  | closed gameId noHost plays gone => exact absurd (silent ▸ member) List.not_mem_nil
  | host players gamelist game =>
      rw [silent, List.nil_append] at member
      rcases List.mem_append.mp member with told | listed
      · obtain ⟨fellow, within, rfl⟩ := List.mem_map.mp told
        exact directs_addressed (consistent.member game (Std.ExtTreeSet.mem_toList.mp within)) _ _
      · obtain rfl := List.mem_singleton.mp listed
        exact .inl ⟨rfl, rfl⟩
  | fellow gameId players noHost plays game =>
      rw [silent, List.nil_append] at member
      obtain ⟨fellow, within, told⟩ := List.mem_flatMap.mp member
      unfold farewells at told
      split at told
      · rcases List.mem_cons.mp told with rfl | own
        · exact directs_addressed (consistent.member game (Std.ExtTreeSet.mem_toList.mp within)) _ _
        · obtain rfl := List.mem_singleton.mp own
          exact directs_addressed known _ _
      · exact absurd told List.not_mem_nil

theorem Handles.directs (handles : Handles jsonCpp server socket params method next)
    (consistent : Consistent server sockets) (silent : server.requests = []) :
    ∀ request ∈ next.requests, server.Directs request := by
  intro request member
  cases handles with
  | same method stays => exact absurd (silent ▸ member) List.not_mem_nil
  | login login free unused => exact absurd (silent ▸ member) List.not_mem_nil
  | reconnect id former free known => exact absurd (silent ▸ member) List.not_mem_nil
  | left method leaving playerId _ owner leaves =>
      exact leaves.directs consistent (consistent.owned owner) silent request member
  | hosted playerId after gamelist owner leaves =>
      rcases List.mem_append.mp member with told | opened
      · exact leaves.directs consistent (consistent.owned owner) silent request told
      · rcases List.mem_cons.mp opened with rfl | listed
        · rw [request_owner ((consistent.owner playerId socket).mpr owner)]
          exact directs_addressed (consistent.owned owner) _ _
        · obtain rfl := List.mem_singleton.mp listed
          exact .inl ⟨rfl, rfl⟩
  | joined playerId host players after owner leaves asked game =>
      have left := leaves.left consistent
      have moved := left.consistent consistent
      have joining : playerId ∈ after.playerSockets := left.playerSockets ▸ consistent.owned owner
      rcases List.mem_append.mp member with told | introduced
      · exact leaves.directs consistent (consistent.owned owner) silent request told
      · apply Directs.of_sockets _ left.playerSockets
        rcases List.mem_append.mp introduced with first | greeted
        · rcases List.mem_cons.mp first with rfl | second
          · exact directs_addressed (moved.member game (moved.hosts host players game)) _ _
          · obtain rfl := List.mem_singleton.mp second
            exact directs_addressed joining _ _
        · obtain ⟨existing, within, greets⟩ := List.mem_flatMap.mp greeted
          unfold greetings at greets
          split at greets
          · exact absurd greets List.not_mem_nil
          · rename_i other
            split at greets
            · exact absurd greets List.not_mem_nil
            · have former : existing ∈ players :=
                (TreeMap.mem_insert.mp (Std.ExtTreeSet.mem_toList.mp within)).resolve_left other
              rcases List.mem_cons.mp greets with rfl | answer
              · exact directs_addressed (moved.member game former) _ _
              · obtain rfl := List.mem_singleton.mp answer
                exact directs_addressed joining _ _
  | iceMsg sender remoteId msg owner known =>
      change request ∈ server.requests ++ _ at member
      rw [silent, List.nil_append] at member
      obtain rfl := List.mem_singleton.mp member
      exact directs_addressed known _ _

end Requests
end Testserver

namespace Lobby

variable {jsonCpp : JsonCpp} {lobby : Lobby} {event : Event}

theorem Steps.directs {server : Testserver} {sockets : Finset Nat}
    (steps : lobby.Steps jsonCpp event server sockets) (consistent : lobby.server.Consistent lobby.sockets)
    (silent : lobby.server.requests = []) :
    ∀ request ∈ server.requests, lobby.server.Directs request := by
  cases steps with
  | connected socket fresh => exact fun request member => absurd (silent ▸ member) List.not_mem_nil
  | disconnected socket _ connected forgets =>
      cases forgets with
      | unknown free => exact fun request member => absurd (silent ▸ member) List.not_mem_nil
      | player playerId left owner leaves => exact leaves.directs consistent (consistent.owned owner) silent
  | called socket method params _ connected handles fits => exact handles.directs consistent silent

/-- What a player is told in a step are the lists of the games and the requests that are addressed to its socket. -/
theorem Steps.told {server : Testserver} {sockets : Finset Nat}
    (steps : lobby.Steps jsonCpp event server sockets) (consistent : lobby.server.Consistent lobby.sockets)
    (silent : lobby.server.requests = []) {playerId : Int} {socket : Nat}
    (owner : lobby.server.playerSockets[playerId]? = some (some socket)) :
    ((lobby.act event).hand server).told playerId = lobby.told playerId ++
      server.requests.filter fun request => request.socket = none ∨ request.socket = some socket := by
  rw [told_hand_known (show (lobby.act event).server.playerSockets[playerId]? = _ by rw [act_server]; exact owner),
    told_act, act_sockets]
  congr 1
  apply List.filter_congr
  intro request member
  rcases steps.directs consistent silent request member with ⟨all, _⟩ | ⟨receiver, known, directed⟩
  · rw [reaches, all]
    simp
  · obtain ⟨own, found, connected⟩ := consistent.socket known
    have pointer : request.socket = some own := by
      rw [directed, Testserver.addressed, found]
      rfl
    rw [reaches, pointer]
    simp [connected]

/-- In every run in which only clients that are logged in pass ICE messages on, the players and their sockets belong
together, a player of a game is recorded as one, the list of the games is complete and right, and every socket can go.
What the server sends goes to all clients only when it is the list of the games, and to the connected socket of one
player otherwise, and each player is told the lists and what is addressed to its socket. -/
theorem lobby_directed (jsonCpp : JsonCpp) (events : List Event) (lobby : Lobby)
    (run : (machine jsonCpp).Reaches KnownSender events lobby) :
    lobby.server.Consistent lobby.sockets ∧
      (∃ gamelist, lobby.server.gamelistJson = some gamelist ∧ ∀ login id, gamelist.member login = .intValue id ↔
        id ∈ lobby.server.games ∧ lobby.server.playersLogins[id]? = some login) ∧
      (∀ socket ∈ lobby.sockets, (lobby.step jsonCpp (.disconnected socket)).isSome) ∧
      ∀ event next, lobby.KnownSender event → lobby.step jsonCpp event = some next →
        (∀ request ∈ next.server.requests, (request.socket = none ∧ request.method = "onGamelist") ∨
          ∃ (playerId : Int) (socket : Nat), lobby.server.playerSockets[playerId]? = some (some socket) ∧
            socket ∈ lobby.sockets ∧ request.socket = some socket) ∧
        (∀ (playerId : Int) (socket : Nat), lobby.server.playerSockets[playerId]? = some (some socket) →
          next.told playerId = lobby.told playerId ++
            next.server.requests.filter fun request => request.socket = none ∨ request.socket = some socket) ∧
        ∀ playerId ∉ lobby.server.playerSockets, next.told playerId = lobby.told playerId := by
  have consistent := consistent_reaches run
  refine ⟨consistent, ?_, ?_, ?_⟩
  · obtain ⟨gamelist, listed⟩ := Testserver.gamelistJson_total fun host game => consistent.hostNamed game
    exact ⟨gamelist, listed, Testserver.gamelist_member consistent listed⟩
  · intro socket connected
    obtain ⟨server, gone, _⟩ := @Testserver.onDisconnected_forgets _ _ socket (clear_consistent consistent)
    unfold step handle
    dsimp only
    rw [if_pos (show socket ∈ lobby.clear.sockets from connected), gone]
    rfl
  · intro event next permits steps
    obtain ⟨server, sockets, rfl, moves⟩ := step_steps consistent permits steps
    refine ⟨?_, fun playerId socket owner => moves.told (clear_consistent consistent) rfl owner, ?_⟩
    · intro request member
      rcases moves.directs (clear_consistent consistent) rfl request member with list | ⟨playerId, known, directed⟩
      · exact .inl list
      · obtain ⟨socket, found, connected⟩ := consistent.socket known
        refine .inr ⟨playerId, socket, found, connected, ?_⟩
        rw [directed, Testserver.addressed, show lobby.clear.server.playerSockets[playerId]? = _ from found]
        rfl
    · intro playerId unknown
      have free : ∀ socket, (lobby.clear.act event).server.playerSockets[playerId]? ≠ some (some socket) := by
        rw [act_server]
        exact fun socket found => unknown (TreeMap.mem_iff.mpr ⟨_, found⟩)
      exact (told_hand_unknown free).trans (told_act event playerId)

def plainMachine : Machine Lobby Event := machine (Sample.jsonCpp fun _ => (false, .nullValue))

/-- Two players of one name log in, the second one joins the game of the first one and sends an ICE message, and the
host is gone. -/
def visit : List Event :=
  [.connected 7, .connected 5, .called 7 .login [.stringValue (bytes "Rhiza")],
    .called 5 .login [.stringValue (bytes "Rhiza")], .called 7 .hostGame [], .called 5 .joinGame [.intValue 0],
    .called 5 .sendIceMsg [.intValue 1, .intValue 0, .nullValue], .disconnected 7]

theorem lobby_directed_visit :
    ∃ lobby, plainMachine.runWhere KnownSender visit = some lobby ∧
      (lobby.server.playersLogins[(1 : Int)]? = some (bytes "Rhiza1") ∧ (lobby.told 1).length = 4) ∧
      lobby.server.Consistent lobby.sockets ∧
      (∃ gamelist, lobby.server.gamelistJson = some gamelist ∧ ∀ login id, gamelist.member login = .intValue id ↔
        id ∈ lobby.server.games ∧ lobby.server.playersLogins[id]? = some login) ∧
      (∀ socket ∈ lobby.sockets,
        (lobby.step (Sample.jsonCpp fun _ => (false, .nullValue)) (.disconnected socket)).isSome) ∧
      ∀ event next, lobby.KnownSender event →
        lobby.step (Sample.jsonCpp fun _ => (false, .nullValue)) event = some next →
        (∀ request ∈ next.server.requests, (request.socket = none ∧ request.method = "onGamelist") ∨
          ∃ (playerId : Int) (socket : Nat), lobby.server.playerSockets[playerId]? = some (some socket) ∧
            socket ∈ lobby.sockets ∧ request.socket = some socket) ∧
        (∀ (playerId : Int) (socket : Nat), lobby.server.playerSockets[playerId]? = some (some socket) →
          next.told playerId = lobby.told playerId ++
            next.server.requests.filter fun request => request.socket = none ∨ request.socket = some socket) ∧
        ∀ playerId ∉ lobby.server.playerSockets, next.told playerId = lobby.told playerId := by
  have told : (plainMachine.runWhere KnownSender visit).map (fun lobby =>
      (lobby.server.playersLogins[(1 : Int)]?, (lobby.told 1).length)) = some (some (bytes "Rhiza1"), 4) := by
    decide +kernel
  obtain ⟨lobby, run, same⟩ := Option.map_eq_some_iff.mp told
  rw [Prod.mk.injEq] at same
  exact ⟨lobby, run, same, lobby_directed _ visit lobby (Machine.reaches_iff_runWhere.mpr run)⟩

end Lobby
end Faf
