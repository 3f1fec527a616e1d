import FafIceAdapter.Library.Sequence
import FafIceAdapter.Lobby.Membership
import FafIceAdapter.Lobby.Testclient

namespace Faf
open Json JsonRpc Mesh

namespace Testserver

/-- The clients of the players have got the requests that are for them. -/
def heard (environment : RpcEnvironment) (server : Testserver) (sockets : Finset Nat) (requests : List LobbyRequest)
    (clients : Int → Testclient) (playerId : Int) : Testclient :=
  match server.playerSockets[playerId]? with
  | some (some socket) =>
      (requests.filter (Lobby.reaches sockets socket)).foldl (Testclient.hear environment) (clients playerId)
  | _ => clients playerId

/-- The requests make the client of each player change the roles that are changed for it, whatever the client plays. -/
def Represents (environment : RpcEnvironment) (server : Testserver) (sockets : Finset Nat)
    (requests : List LobbyRequest) (changes : List (Int × Change Int)) : Prop :=
  ∀ (playerId : Int) (socket : Nat), server.playerSockets[playerId]? = some (some socket) → ∀ client : Testclient,
    (requests.filter (Lobby.reaches sockets socket)).foldl (Testclient.hear environment) client =
      client.change ((changes.filter (·.1 = playerId)).map Prod.snd)

section Hearing

variable {environment : RpcEnvironment} {server : Testserver} {sockets : Finset Nat}
  {requests : List LobbyRequest} {clients : Int → Testclient} {playerId : Int}

theorem heard_known {socket : Nat} (owner : server.playerSockets[playerId]? = some (some socket)) :
    heard environment server sockets requests clients playerId =
      (requests.filter (Lobby.reaches sockets socket)).foldl (Testclient.hear environment) (clients playerId) := by
  unfold heard
  simp only [owner]

theorem heard_nil : heard environment server sockets [] clients = clients := by
  funext playerId
  unfold heard
  split
  · rfl
  · rfl

theorem heard_append (first second : List LobbyRequest) :
    heard environment server sockets (first ++ second) clients =
      heard environment server sockets second (heard environment server sockets first clients) := by
  funext playerId
  unfold heard
  rcases server.playerSockets[playerId]? with _ | _ | socket
  · rfl
  · rfl
  · dsimp only
    rw [List.filter_append, List.foldl_append]

/-- A request for one player reaches no other player. -/
theorem reaches_addressed (consistent : Consistent server sockets) {receiver : Int}
    (known : receiver ∈ server.playerSockets) {socket : Nat}
    (owner : server.playerSockets[playerId]? = some (some socket)) (method : String) (params : List Value) :
    Lobby.reaches sockets socket (server.addressed receiver method params) = decide (receiver = playerId) := by
  obtain ⟨own, found, connected⟩ := consistent.socket known
  have pointer : (server.addressed receiver method params).socket = some own := by
    rw [addressed, found]
    rfl
  rw [Lobby.reaches, pointer]
  simp only [if_pos connected]
  by_cases same : receiver = playerId
  · subst same
    have equal : own = socket := Option.some.inj (Option.some.inj (found.symm.trans owner))
    rw [equal]
    simp
  · have different : own ≠ socket := by
      intro equal
      subst equal
      have first := (consistent.owner receiver own).mp found
      have second := (consistent.owner playerId own).mp owner
      exact same (Option.some.inj (first.symm.trans second))
    simp [same, different]

/-- Of the news that a host has left, a client only needs the first that it gets. -/
theorem foldl_hostLeft (consistent : Consistent server sockets) {host : Int} (known : host ∈ server.playerSockets)
    {fellows : List Int} (members : ∀ fellow ∈ fellows, fellow ∈ server.playerSockets) {socket : Nat}
    (owner : server.playerSockets[playerId]? = some (some socket)) (fits : FitsInt32 host) (client : Testclient) :
    ((fellows.map (server.hostLeft host)).filter (Lobby.reaches sockets socket)).foldl
        (Testclient.hear environment) client =
      if playerId ∈ fellows then client.hear environment (server.hostLeft host playerId) else client := by
  -- a client has left the game by the second one, and no player has the id that it keeps after that
  have again (client : Testclient) :
      (client.hear environment (server.hostLeft host playerId)).hear environment (server.hostLeft host playerId) =
        client.hear environment (server.hostLeft host playerId) := by
    have hears (client : Testclient) : client.hear environment (server.hostLeft host playerId) =
        if client.gameId = host then client.leave else client := Testclient.hear_hostLeft fits
    have left : client.leave.gameId ≠ host := by
      have issued := (consistent.issued host known).1
      change (-1 : Int) ≠ host
      omega
    rw [hears client]
    split
    · rw [hears, if_neg left]
    · rename_i elsewhere
      rw [hears, if_neg elsewhere]
  induction fellows generalizing client with
  | nil => rfl
  | cons fellow rest ih =>
      have later := ih fun other member => members other (List.mem_cons_of_mem fellow member)
      have reached : Lobby.reaches sockets socket (server.hostLeft host fellow) = decide (fellow = playerId) :=
        reaches_addressed consistent (members fellow List.mem_cons_self) owner _ _
      rw [List.map_cons]
      by_cases own : fellow = playerId
      · subst own
        rw [List.filter_cons_of_pos (by rw [reached]; exact decide_eq_true rfl), List.foldl_cons, later,
          if_pos List.mem_cons_self, again]
        split
        · rfl
        · rfl
      · rw [List.filter_cons_of_neg (by rw [reached]; exact fun same => own (of_decide_eq_true same)), later]
        simp [Ne.symm own]

end Hearing

section Representing

variable {environment : RpcEnvironment} {server next : Testserver} {sockets : Finset Nat}

theorem Consistent.fitsId (consistent : Consistent server sockets) {playerId : Int}
    (known : playerId ∈ server.playerSockets) : FitsInt32 playerId := by
  obtain ⟨lower, upper⟩ := consistent.issued playerId known
  obtain ⟨_, _, bound⟩ := consistent.fits
  constructor
  · omega
  · omega

theorem represents_nil : Represents environment server sockets [] [] :=
  fun _ _ _ _ => Testclient.change_nil.symm

theorem Represents.append {first second : List LobbyRequest} {firstChanges secondChanges : List (Int × Change Int)}
    (one : Represents environment server sockets first firstChanges)
    (two : Represents environment server sockets second secondChanges) :
    Represents environment server sockets (first ++ second) (firstChanges ++ secondChanges) := by
  intro playerId socket owner client
  rw [List.filter_append, List.foldl_append, one playerId socket owner, two playerId socket owner,
    Testclient.change_change, List.filter_append, List.map_append]

theorem represents_flatMap {A : Type} {requests : A → List LobbyRequest} {changes : A → List (Int × Change Int)}
    {elements : List A}
    (each : ∀ element ∈ elements, Represents environment server sockets (requests element) (changes element)) :
    Represents environment server sockets (elements.flatMap requests) (elements.flatMap changes) := by
  induction elements with
  | nil => exact represents_nil
  | cons element rest ih =>
      rw [List.flatMap_cons, List.flatMap_cons]
      exact (each element List.mem_cons_self).append (ih fun later member =>
        each later (List.mem_cons_of_mem element member))

theorem represents_silent {request : LobbyRequest}
    (silent : ∀ client : Testclient, client.hear environment request = client) :
    Represents environment server sockets [request] [] := by
  intro playerId socket owner client
  rw [List.filter_nil, List.map_nil, Testclient.change_nil]
  by_cases reached : Lobby.reaches sockets socket request
  · rw [List.filter_cons_of_pos reached]
    exact silent client
  · rw [List.filter_cons_of_neg reached]
    rfl

theorem represents_addressed (consistent : Consistent server sockets) {receiver : Int}
    (known : receiver ∈ server.playerSockets) {method : String} {params : List Value} {change : Change Int}
    (changes : ∀ client : Testclient,
      client.hear environment (server.addressed receiver method params) = client.change [change]) :
    Represents environment server sockets [server.addressed receiver method params] [(receiver, change)] := by
  intro playerId socket owner client
  have reached := @reaches_addressed server sockets playerId consistent receiver known socket owner method params
  by_cases same : receiver = playerId
  · rw [List.filter_cons_of_pos (by rw [reached]; exact decide_eq_true same), List.filter_nil, List.foldl_cons,
      changes, List.filter_cons_of_pos (by exact decide_eq_true same)]
    rfl
  · rw [List.filter_cons_of_neg (by rw [reached]; exact fun equal => same (of_decide_eq_true equal)), List.filter_nil,
      List.filter_cons_of_neg (by exact fun equal => same (of_decide_eq_true equal))]
    exact Testclient.change_nil.symm

/-- The tables of the sockets are all that matters. -/
theorem Represents.of_sockets {requests : List LobbyRequest} {changes : List (Int × Change Int)}
    (represents : Represents environment next sockets requests changes)
    (same : next.playerSockets = server.playerSockets) : Represents environment server sockets requests changes := by
  intro receiver socket owner
  exact represents receiver socket (same ▸ owner)

section Clients

variable {requests : List LobbyRequest} {changes : List (Int × Change Int)} {clients : Int → Testclient}
  (represents : Represents environment server sockets requests changes) (consistent : Consistent server sockets)
  {playerId : Int} (known : playerId ∈ server.playerSockets)
include represents consistent known

/-- The clients play on. -/
theorem Represents.heard : heard environment server sockets requests clients playerId =
    (clients playerId).change ((changes.filter (·.1 = playerId)).map Prod.snd) := by
  obtain ⟨socket, owner, _⟩ := consistent.socket known
  rw [heard_known owner]
  exact represents playerId socket owner (clients playerId)

theorem Represents.roles : (Testserver.heard environment server sockets requests clients playerId).roles =
    changes.foldl direct (fun other => (clients other).roles) playerId := by
  rw [represents.heard consistent known, Testclient.roles_change, foldl_direct]

end Clients

end Representing

end Testserver
end Faf
