import FafIceAdapter.Lobby.Links

namespace Faf
open Json JsonRpc Transition Mesh

namespace Lobby

/-- The client of a player. -/
def client (environment : RpcEnvironment) (lobby : Lobby) (playerId : Int) : Testclient :=
  (lobby.history playerId).foldl (Testclient.follow environment playerId) .initial

/-- Only a client that is logged in passes ICE messages on, hosts a game or joins one, and its buttons let it host or
join only when it plays none. -/
def Orderly (environment : RpcEnvironment) (lobby : Lobby) : Event → Prop
  | .called socket .sendIceMsg _ => socket ∈ lobby.server.socketPlayers
  | .called socket .hostGame _ | .called socket .joinGame _ =>
      ∃ playerId ∈ lobby.server.socketPlayers[socket]?, (lobby.client environment playerId).playing = false
  | _ => True

instance (environment : RpcEnvironment) (lobby : Lobby) (event : Event) :
    Decidable (lobby.Orderly environment event) :=
  match event with
  | .called socket .sendIceMsg _ => inferInstanceAs (Decidable (socket ∈ lobby.server.socketPlayers))
  | .called socket .hostGame _ | .called socket .joinGame _ =>
      inferInstanceAs (Decidable (∃ playerId ∈ lobby.server.socketPlayers[socket]?,
        (lobby.client environment playerId).playing = false))
  | .called _ .login _ | .called _ .reconnect _ | .called _ .leaveGame _ | .connected _ | .disconnected _ =>
      instDecidableTrue

/-- The clients play the games of the server, and an id that is not given out yet has no client. -/
structure UpToDate (environment : RpcEnvironment) (lobby : Lobby) : Prop where
  meshed : Testserver.Meshed (· ∈ lobby.server.playerSockets) lobby.server (lobby.client environment)
  silent : ∀ playerId : Int, lobby.server.currentPlayerId ≤ playerId → lobby.history playerId = []

section Runs

variable {environment : RpcEnvironment} {lobby next : Lobby} {event : Event} {server : Testserver}
  {sockets : Finset Nat}

theorem Orderly.knownSender (orderly : lobby.Orderly environment event) : lobby.KnownSender event := by
  cases event with
  | called socket method params =>
      cases method with
      | sendIceMsg => exact orderly
      | _ => trivial
  | _ => trivial

/-- The clients follow the requests of an event. -/
theorem client_hand : (lobby.hand server).client environment =
    lobby.server.heard environment lobby.sockets server.requests (lobby.client environment) := by
  funext playerId
  unfold client hand Testserver.heard
  dsimp only
  rcases lobby.server.playerSockets[playerId]? with _ | _ | socket
  · rfl
  · rfl
  · dsimp only
    rw [List.foldl_append, List.foldl_map]
    rfl

theorem client_act (socket : Nat) (method : LobbyMethod) (params : List Value) :
    (lobby.act (.called socket method params)).client environment =
      lobby.server.clicked environment.jsonCpp socket params method (lobby.client environment) := by
  funext playerId
  unfold client act Testserver.clicked
  dsimp only
  split
  · rw [List.foldl_append]
    rfl
  · rfl

/-- The players that were known before a step are linked as their games want it. -/
theorem Steps.meshed (steps : lobby.Steps environment.jsonCpp event server sockets)
    (asBool : ∀ value, environment.asBool (.booleanValue value) = .ok value)
    (consistent : lobby.server.Consistent lobby.sockets) (silent : lobby.server.requests = [])
    (orderly : lobby.Orderly environment event) (upToDate : lobby.UpToDate environment) :
    Testserver.Meshed (· ∈ lobby.server.playerSockets) server
      (((lobby.act event).hand server).client environment) := by
  rw [client_hand, act_server, act_sockets]
  cases steps with
  | connected socket fresh =>
      rw [silent, Testserver.heard_nil]
      exact upToDate.meshed
  | disconnected socket _ connected forgets => exact forgets.meshed consistent silent upToDate.meshed
  | called socket method params _ connected handles fits =>
      rw [client_act]
      refine handles.meshed asBool consistent silent upToDate.meshed ?_
      rintro (rfl | rfl) playerId owner
      · obtain ⟨other, same, still⟩ := orderly
        rwa [Option.some.inj (owner.symm.trans same)]
      · obtain ⟨other, same, still⟩ := orderly
        rwa [Option.some.inj (owner.symm.trans same)]

theorem Steps.grows (steps : lobby.Steps environment.jsonCpp event server sockets)
    (consistent : lobby.server.Consistent lobby.sockets) :
    lobby.server.currentPlayerId ≤ server.currentPlayerId ∧
      ∀ playerId ∈ server.playerSockets, playerId ∈ lobby.server.playerSockets ∨
        (playerId = lobby.server.currentPlayerId ∧ server.requests = lobby.server.requests ∧
          server.games = lobby.server.games) := by
  cases steps with
  | connected socket fresh => exact ⟨le_rfl, fun _ => .inl⟩
  | disconnected socket _ connected forgets =>
      cases forgets with
      | unknown free => exact ⟨le_rfl, fun _ => .inl⟩
      | player playerId after owner leaves =>
          have left := leaves.left consistent
          exact ⟨left.currentPlayerId.ge, fun _ member =>
            .inl (left.playerSockets ▸ Std.ExtTreeMap.mem_of_mem_erase member)⟩
  | called socket method params _ connected handles fits => exact handles.grows consistent

theorem Steps.upToDate (steps : lobby.Steps environment.jsonCpp event server sockets)
    (asBool : ∀ value, environment.asBool (.booleanValue value) = .ok value)
    (consistent : lobby.server.Consistent lobby.sockets) (silent : lobby.server.requests = [])
    (orderly : lobby.Orderly environment event) (upToDate : lobby.UpToDate environment) :
    UpToDate environment { (lobby.act event).hand server with sockets := sockets } := by
  have meshed := steps.meshed asBool consistent silent orderly upToDate
  obtain ⟨later, members⟩ := steps.grows consistent
  have unknown : ∀ playerId : Int, lobby.server.currentPlayerId ≤ playerId → playerId ∉ lobby.server.playerSockets :=
    fun playerId bound known => absurd (consistent.issued playerId known).2 (not_lt.mpr bound)
  have quiet : ∀ playerId : Int, lobby.server.currentPlayerId ≤ playerId →
      ((lobby.act event).hand server).history playerId = [] := by
    intro playerId bound
    have free := TreeMap.eq_none_iff.mpr (unknown playerId bound)
    rw [history_hand_unknown (by rw [act_server, free]; simp)]
    cases event with
    | called socket method params =>
        refine (if_neg ?_).trans (upToDate.silent playerId bound)
        exact fun owner => unknown playerId bound (consistent.owned owner)
    | _ => exact upToDate.silent playerId bound
  refine ⟨⟨?_, meshed.plays⟩, fun playerId bound => quiet playerId (le_trans later bound)⟩
  by_cases entered : lobby.server.currentPlayerId ∈ server.playerSockets
  · have fresh := unknown _ le_rfl
    obtain ⟨_, _, games⟩ := (members _ entered).resolve_left fresh
    have bare : (((lobby.act event).hand server).client environment lobby.server.currentPlayerId).roles =
        fun _ => none := by
      rw [client, quiet _ le_rfl]
      rfl
    have alone : ∀ other, ¬ server.Together lobby.server.currentPlayerId other ∧
        ¬ server.Together other lobby.server.currentPlayerId := by
      intro other
      constructor
      · rintro ⟨host, players, game, one, _⟩
        exact fresh (consistent.member (games ▸ game) one)
      · rintro ⟨host, players, game, _, two⟩
        exact fresh (consistent.member (games ▸ game) two)
    apply (meshed.linked.enter bare alone).mono
    intro playerId known
    exact (members playerId known).elim .inr fun grown => .inl grown.1
  · apply meshed.linked.mono
    intro playerId known
    rcases members playerId known with former | ⟨same, _⟩
    · exact former
    · exact absurd (same ▸ known) entered

theorem upToDate_reaches (asBool : ∀ value, environment.asBool (.booleanValue value) = .ok value)
    {events : List Event} (run : (machine environment.jsonCpp).Reaches (Orderly environment) events lobby) :
    lobby.server.Consistent lobby.sockets ∧ lobby.UpToDate environment := by
  apply run.invariant fun lobby => lobby.server.Consistent lobby.sockets ∧ lobby.UpToDate environment
  · refine ⟨Testserver.Consistent.empty, ⟨⟨?_, ?_⟩, fun _ _ => rfl⟩⟩
    · constructor
      · intro first second one
        exact absurd one Std.ExtTreeMap.not_mem_empty
      · exact fun _ _ => rfl
    · intro host players game
      exact absurd (TreeMap.mem_iff.mpr ⟨players, game⟩) Std.ExtTreeMap.not_mem_empty
  · intro lobby event next holds orderly steps
    obtain ⟨consistent, upToDate⟩ := holds
    obtain ⟨server, sockets, rfl, moves⟩ := step_steps consistent orderly.knownSender steps
    have clear : lobby.clear.UpToDate environment := ⟨upToDate.meshed.of_games rfl, upToDate.silent⟩
    exact ⟨moves.consistent (clear_consistent consistent),
      moves.upToDate asBool (clear_consistent consistent) rfl orderly clear⟩

end Runs

/-- An adapter that has been through the changes which the client of a player made. The events that change no role do
not matter. -/
def Follows (environment : RpcEnvironment) (lobby : Lobby) (playerId : Int) (adapter : IceAdapter) : Prop :=
  ∃ (options : IceAdapterOptions) (freePort : Int) (events : List IceAdapter.Event),
    (IceAdapter.machine environment.jsonCpp options freePort).Reaches (fun _ _ => True) events adapter ∧
      events.filterMap IceAdapter.Event.change? = (lobby.client environment playerId).changes

theorem Follows.roles {environment : RpcEnvironment} {lobby : Lobby} {playerId : Int} {adapter : IceAdapter}
    (follows : Follows environment lobby playerId adapter) :
    adapter.roles = (lobby.client environment playerId).roles := by
  obtain ⟨options, freePort, events, run, same⟩ := follows
  rw [IceAdapter.roles_reaches run, IceAdapter.foldl_assign, same]
  rfl

/-- In every run of the server with clients that keep to their buttons, whoever hosts, joins, leaves, comes back or is
gone, the adapters of two players that have followed their clients have relays for each other when the players are in
one game, of which exactly one makes the offer, and no relays for each other when they are not. -/
theorem mesh_connected (environment : RpcEnvironment)
    (asBool : ∀ value, environment.asBool (.booleanValue value) = .ok value) (events : List Event) (lobby : Lobby)
    (run : (machine environment.jsonCpp).Reaches (Orderly environment) events lobby) (first second : Int)
    (different : first ≠ second) (firstAdapter secondAdapter : IceAdapter)
    (firstKnown : first ∈ lobby.server.playerSockets) (secondKnown : second ∈ lobby.server.playerSockets)
    (firstFollows : Follows environment lobby first firstAdapter)
    (secondFollows : Follows environment lobby second secondAdapter) :
    (lobby.server.Together first second → ∃ offers,
        firstAdapter.relays[second]?.map PeerRelay.isOfferer = some offers ∧
          secondAdapter.relays[first]?.map PeerRelay.isOfferer = some !offers) ∧
      (¬ lobby.server.Together first second →
        firstAdapter.relays[second]? = none ∧ secondAdapter.relays[first]? = none) := by
  have linked := (upToDate_reaches asBool run).2.meshed.linked
  have firstRoles := congrFun firstFollows.roles second
  have secondRoles := congrFun secondFollows.roles first
  constructor
  · intro together
    obtain ⟨offers, one, two⟩ := linked.paired firstKnown secondKnown different together
    exact ⟨offers, firstRoles.trans one, secondRoles.trans two⟩
  · intro separate
    have one := linked.apart firstKnown (.inr separate)
    have two := linked.apart secondKnown (.inr (mt (Testserver.together_symm second first) separate))
    exact ⟨Option.map_eq_none_iff.mp (firstRoles.trans one), Option.map_eq_none_iff.mp (secondRoles.trans two)⟩

/-- A conversion of booleans that keeps their value. -/
def booleanEnvironment : RpcEnvironment :=
  { LiveAdapter.plainEnvironment with
    asBool := fun
      | .booleanValue value => .ok value
      | other => .ok !other.isNull }

def booleanMachine : Machine Lobby Event := machine booleanEnvironment.jsonCpp

/-- A player joins the game of another one, who closes it and opens a new game, which both other players join. -/
def party : List Event :=
  [.connected 7, .connected 5, .connected 6, .called 7 .login [.stringValue (bytes "Rhiza")],
    .called 5 .login [.stringValue (bytes "Brackman")], .called 6 .login [.stringValue (bytes "Rhiza")],
    .called 7 .hostGame [], .called 5 .joinGame [.intValue 0], .called 7 .leaveGame [], .called 5 .leaveGame [],
    .called 7 .hostGame [], .called 5 .joinGame [.intValue 0], .called 6 .joinGame [.intValue 0]]

/-- What the adapters of the second and the third player have been through. -/
def secondCommands : List IceAdapter.Event :=
  [.newClient, .joinGame (bytes "Rhiza") 0 6001, .removeClient 0, .newClient, .joinGame (bytes "Rhiza") 0 6001,
    .connectToPeer (bytes "Rhiza1") 2 true 6002]

def thirdCommands : List IceAdapter.Event :=
  [.joinGame (bytes "Rhiza") 0 6001, .connectToPeer (bytes "Brackman") 1 false 6002, .hostGame (bytes "testmap")]

theorem mesh_connected_party :
    ∃ lobby secondAdapter thirdAdapter, booleanMachine.runWhere (Orderly booleanEnvironment) party = some lobby ∧
      lobby.server.Together 1 2 ∧
      Follows booleanEnvironment lobby 1 secondAdapter ∧ Follows booleanEnvironment lobby 2 thirdAdapter ∧
      (lobby.server.Together 1 2 → ∃ offers,
        secondAdapter.relays[(2 : Int)]?.map PeerRelay.isOfferer = some offers ∧
          thirdAdapter.relays[(1 : Int)]?.map PeerRelay.isOfferer = some !offers) ∧
      (¬ lobby.server.Together 1 2 →
        secondAdapter.relays[(2 : Int)]? = none ∧ thirdAdapter.relays[(1 : Int)]? = none) := by
  have told : (booleanMachine.runWhere (Orderly booleanEnvironment) party).map (fun lobby =>
      (lobby.server.games[(0 : Int)]?.map (·.toList), lobby.server.playerSockets.keys,
        [1, 2].map fun playerId => (lobby.client booleanEnvironment playerId).changes)) =
      some (some [0, 1, 2], [0, 1, 2],
        [[.add 0 false, .clear, .add 0 false, .add 2 true], [.add 0 false, .add 1 false]]) := by
    decide +kernel
  obtain ⟨lobby, run, same⟩ := Option.map_eq_some_iff.mp told
  simp only [Prod.mk.injEq, List.map_cons, List.map_nil, List.cons.injEq, and_true] at same
  obtain ⟨game, keys, secondTold, thirdTold⟩ := same
  have secondKnown : (1 : Int) ∈ lobby.server.playerSockets := by
    rw [← Std.ExtTreeMap.mem_keys, keys]
    decide
  have thirdKnown : (2 : Int) ∈ lobby.server.playerSockets := by
    rw [← Std.ExtTreeMap.mem_keys, keys]
    decide
  obtain ⟨players, found, members⟩ := Option.map_eq_some_iff.mp game
  have together : lobby.server.Together 1 2 := by
    refine ⟨0, players, found, ?_, ?_⟩
    · rw [← Std.ExtTreeSet.mem_toList, members]
      decide
    · rw [← Std.ExtTreeSet.mem_toList, members]
      decide
  have asBool : ∀ value, booleanEnvironment.asBool (.booleanValue value) = .ok value := fun _ => rfl
  obtain ⟨secondAdapter, secondRun⟩ := Option.isSome_iff_exists.mp (show ((IceAdapter.machine
    booleanEnvironment.jsonCpp ⟨1, bytes "Brackman", 6113⟩ 6112).run secondCommands).isSome by decide +kernel)
  obtain ⟨thirdAdapter, thirdRun⟩ := Option.isSome_iff_exists.mp (show ((IceAdapter.machine
    booleanEnvironment.jsonCpp ⟨2, bytes "Rhiza1", 6114⟩ 6112).run thirdCommands).isSome by decide +kernel)
  have secondFollows : Follows booleanEnvironment lobby 1 secondAdapter :=
    ⟨_, _, secondCommands, Machine.reaches_iff_run.mpr secondRun, secondTold.symm⟩
  have thirdFollows : Follows booleanEnvironment lobby 2 thirdAdapter :=
    ⟨_, _, thirdCommands, Machine.reaches_iff_run.mpr thirdRun, thirdTold.symm⟩
  exact ⟨lobby, secondAdapter, thirdAdapter, run, together, secondFollows, thirdFollows,
    mesh_connected booleanEnvironment asBool party lobby (Machine.reaches_iff_runWhere.mpr run) 1 2 (by decide)
      secondAdapter thirdAdapter secondKnown thirdKnown secondFollows thirdFollows⟩

end Lobby
end Faf
