import FafIceAdapter.Relay.Datagrams
import FafIceAdapter.System.Host

namespace Faf
open Json JsonRpc Transition

namespace Host

/-- What the last event did in the relay for a player. -/
def effects (host : Host) (playerId : Int) : List Effect := (host.peers playerId).elim [] Relay.effects

/-- The player whose relay has the port. -/
def listener? (host : Host) (port : Nat) : Option Int :=
  (host.link.adapter.relays.toList.find? fun entry => entry.2.localUdpSocketPort = port).map Prod.fst

/-- The event is a datagram of the game, or a message of another relay. -/
def Event.isDatagram : Event → Bool
  | .adapter (.peer _ (.local event)) => event.isGameData
  | .adapter (.peer _ (.remoteMessage _ _)) => true
  | _ => false

def Event.isAdapter : Event → Bool
  | .adapter _ => true
  | _ => false

section Effects

variable {environment : RpcEnvironment} {host next : Host}

theorem effects_of_clear {relay : Relay} {playerId : Int} (present : host.live.clear.peers playerId = some relay) :
    relay.effects = [] := by
  obtain ⟨held, _, rfl⟩ := Option.map_eq_some_iff.mp present
  rfl

/-- No other event makes a relay send or forward something of a game. -/
theorem control_adapter {event : LiveAdapter.Event} (composed : host.Composed environment)
    (quiet : LiveAdapter.CreatesQuietly host.live event) (other : Event.isDatagram (.adapter event) = false)
    (steps : host.step environment (.adapter event) = some next) (playerId : Int) :
    ∀ effect ∈ next.effects playerId, effect.IsControl := by
  obtain ⟨live, moves, last⟩ := Option.bind_eq_some_iff.mp (Option.ite_none_left_eq_some.mp steps).2
  obtain rfl := Option.some.inj last
  obtain ⟨log, composed⟩ := composed
  have peerStep := composed.peerStep quiet moves playerId
  have cleared := @effects_of_clear host
  change ∀ effect ∈ (live.peers playerId).elim [] Relay.effects, effect.IsControl
  have adds {relay after : Relay} (empty : relay.effects = []) (adds : Relay.Adds Effect.IsControl relay after) :
      ∀ effect ∈ after.effects, effect.IsControl := by
    obtain ⟨others, same, control⟩ := adds
    rw [same, empty, List.nil_append]
    exact control
  generalize before : host.live.clear.peers playerId = earlier at peerStep
  generalize live.peers playerId = later at peerStep
  cases peerStep with
  | kept unseen =>
      cases earlier with
      | none => exact List.forall_mem_nil _
      | some relay =>
          change ∀ effect ∈ relay.effects, effect.IsControl
          rw [cleared before]
          exact List.forall_mem_nil _
  | absent => exact List.forall_mem_nil _
  | removed => exact List.forall_mem_nil _
  | created creates => exact adds rfl (Relay.control_create creates)
  | @stepped relay after own seen moves =>
      apply adds (cleared before)
      cases event with
      | rpc method params port creation =>
          unfold LiveAdapter.relayEvent? at seen
          dsimp only at seen
          split at seen
          · obtain rfl := Option.some.inj (Option.ite_none_right_eq_some.mp seen).2
            exact Relay.control_addIceMessage moves
          · contradiction
      | game event => contradiction
      | peer remotePlayerId event =>
          obtain rfl := Option.some.inj (Option.ite_none_right_eq_some.mp seen).2
          cases event with
          | «local» event => exact Relay.control_stepLocal other moves
          | remoteMessage data now => contradiction

/-- An event of one relay has effects there alone. -/
theorem effects_peer {remotePlayerId : Int} {event : PeerEvent}
    (steps : host.step environment (.adapter (.peer remotePlayerId event)) = some next) :
    next.link = host.link ∧ ∃ relay moved, host.peers remotePlayerId = some relay ∧
      relay.clear.handle environment.jsonCpp environment.webRtc event.event = some moved ∧
      ∀ playerId, next.effects playerId = if playerId = remotePlayerId then moved.effects else [] := by
  refine ⟨step_link steps, ?_⟩
  have performs : host.perform environment (.peer remotePlayerId event) = some next := steps
  obtain ⟨live, moves, last⟩ := Option.bind_eq_some_iff.mp performs
  obtain rfl := Option.some.inj last
  obtain ⟨cleared, present, after⟩ := Option.bind_eq_some_iff.mp moves
  obtain ⟨moved, handles, same⟩ := Option.bind_eq_some_iff.mp after
  obtain rfl := Option.some.inj same
  obtain ⟨relay, held, rfl⟩ := Option.map_eq_some_iff.mp present
  refine ⟨relay, moved, held, handles, fun playerId => ?_⟩
  change (Function.update host.live.clear.peers remotePlayerId (some moved) playerId).elim [] Relay.effects = _
  by_cases own : playerId = remotePlayerId
  · rw [own, Function.update_self, if_pos rfl]
    rfl
  · rw [Function.update_of_ne own, if_neg own]
    cases kept : host.live.clear.peers playerId with
    | none => rfl
    | some relay => exact effects_of_clear kept

end Effects

/-- What the game with a connection has learned. -/
def known (host : Host) (handler : Nat) : Peers := learned (host.link.received handler)

section Knowing

variable {environment : RpcEnvironment} {host : Host} {handler : Nat}

end Knowing
end Host

/-- A datagram that a relay sends to its game. -/
structure Datagram where
  source : Nat
  destination : Int
  data : Bytes
  deriving DecidableEq

/-- The players with the data channels between their relays. A way leads from a player to another one. What the games
sent to each relay, what each data channel delivered and what the games got is recorded. -/
structure GameNetwork where
  hosts : Int → Host
  channels : Int × Int → List Payload
  played : Int × Int → List Bytes
  delivered : Int × Int → List Payload
  got : Int → List Datagram

namespace GameNetwork

/-- A game sends a datagram to a local port. A data channel may lose and reorder messages. -/
inductive Event where
  | host (playerId : Int) (event : Host.Event)
  | play (playerId : Int) (port : Nat) (data : Bytes)
  | deliver (sender receiver : Int) (index : Nat) (now : Int)
  | lose (sender receiver : Int) (index : Nat)

/-- What the relays of a player send in an event. -/
def forwarded (host : Host) : List Datagram :=
  host.link.adapter.relays.toList.flatMap fun entry =>
    ((host.effects entry.1).filterMap Effect.forwarded?).map
      (⟨entry.2.localUdpSocketPort, entry.2.gameUdpPort, ·⟩)

/-- The effects of the relays of a player reach the other relays and the game. -/
def dispatch (playerId : Int) (host : Host) (network : GameNetwork) : GameNetwork :=
  { network with
    hosts := Function.update network.hosts playerId host
    channels := fun way =>
      if way.1 = playerId then network.channels way ++ (host.effects way.2).filterMap Effect.sent?
      else network.channels way
    got := Function.update network.got playerId (network.got playerId ++ forwarded host) }

/-- The relay of a data channel gets only what the channel delivers, and datagrams of a game come from the game. A port
without a relay loses them. -/
def step (environment : RpcEnvironment) (network : GameNetwork) : Event → Option GameNetwork
  | .host playerId event =>
      if event.isDatagram then none
      else do
        let host ← (network.hosts playerId).step environment event
        return if event.isAdapter then network.dispatch playerId host
          else { network with hosts := Function.update network.hosts playerId host }
  | .play playerId port data =>
      match (network.hosts playerId).listener? port with
      | none => some network
      | some peer => do
          let host ← (network.hosts playerId).step environment (.adapter (.peer peer (.local (.gameData data))))
          return { network.dispatch playerId host with
            played := Function.update network.played (playerId, peer) (network.played (playerId, peer) ++ [data]) }
  | .deliver sender receiver index now => do
      let payload ← (network.channels (sender, receiver))[index]?
      let host ← (network.hosts receiver).step environment (.adapter (.peer sender (.remoteMessage payload.data now)))
      return { network with
        channels := Function.update network.channels (sender, receiver)
          ((network.channels (sender, receiver)).eraseIdx index)
        delivered := Function.update network.delivered (sender, receiver)
          (network.delivered (sender, receiver) ++ [payload]) }.dispatch receiver host
  | .lose sender receiver index =>
      some { network with
        channels := Function.update network.channels (sender, receiver)
          ((network.channels (sender, receiver)).eraseIdx index) }

def machine (environment : RpcEnvironment) (options : Int → IceAdapterOptions) (freePort : Int → Int) :
    Machine GameNetwork Event where
  initial := ⟨fun playerId => .initial (options playerId) (freePort playerId), fun _ => [], fun _ => [], fun _ => [],
    fun _ => []⟩
  step := step environment

/-- No new peer connection is connected at once. -/
def Quiet (network : GameNetwork) : Event → Prop
  | .host playerId event => (network.hosts playerId).Quiet event
  | .play _ _ _ | .deliver _ _ _ _ | .lose _ _ _ => True

instance (network : GameNetwork) (event : Event) : Decidable (network.Quiet event) :=
  match event with
  | .host playerId event => inferInstanceAs (Decidable ((network.hosts playerId).Quiet event))
  | .play _ _ _ | .deliver _ _ _ _ | .lose _ _ _ => instDecidableTrue

def Permitted (environment : RpcEnvironment) (network : GameNetwork) : Event → Prop
  | .host playerId event => (network.hosts playerId).Permitted environment event
  | .play _ _ _ | .deliver _ _ _ _ | .lose _ _ _ => True

instance (environment : RpcEnvironment) (network : GameNetwork) (event : Event) :
    Decidable (network.Permitted environment event) :=
  match event with
  | .host playerId event => inferInstanceAs (Decidable ((network.hosts playerId).Permitted environment event))
  | .play _ _ _ | .deliver _ _ _ _ | .lose _ _ _ => instDecidableTrue

/-- The datagrams of the games among the payloads. -/
def gameData (payloads : List Payload) : List Bytes :=
  (payloads.filter fun payload => payload.producer = .game).map Payload.data

/-- Each way carries datagrams that the game sent to the relay there, each at most once. -/
structure Carrying (environment : RpcEnvironment) (network : GameNetwork) : Prop where
  composed : ∀ playerId, (network.hosts playerId).Composed environment
  played : ∀ way, List.Subperm (gameData (network.channels way ++ network.delivered way))
    ((network.played way).map (List.take 65507))

section Steps

variable {environment : RpcEnvironment} {network next : GameNetwork}

/-- Dispatching control effects adds no datagram of a game and reaches no game. -/
theorem dispatch_control {playerId : Int} {host : Host}
    (control : ∀ peer, ∀ effect ∈ host.effects peer, effect.IsControl) :
    (∀ way, gameData ((network.dispatch playerId host).channels way) = gameData (network.channels way)) ∧
      (network.dispatch playerId host).got = network.got := by
  constructor
  · intro way
    change gameData (if way.1 = playerId then _ else _) = _
    split
    · have none : gameData ((host.effects way.2).filterMap Effect.sent?) = [] := by
        unfold gameData
        rw [List.map_eq_nil_iff, List.filter_eq_nil_iff]
        intro payload member
        obtain ⟨effect, inside, sends⟩ := List.mem_filterMap.mp member
        rw [(control way.2 effect inside).2 payload sends]
        decide
      rw [gameData, List.filter_append, List.map_append]
      change _ ++ gameData _ = _
      rw [none, List.append_nil]
      rfl
    · rfl
  · change Function.update network.got playerId (network.got playerId ++ forwarded host) = network.got
    have nothing : forwarded host = [] := by
      rw [forwarded, List.flatMap_eq_nil_iff]
      intro entry member
      rw [List.map_eq_nil_iff, List.filterMap_eq_nil_iff]
      exact fun effect inside => (control entry.1 effect inside).1
    rw [nothing, List.append_nil, Function.update_eq_self]

theorem gameData_append (first second : List Payload) :
    gameData (first ++ second) = gameData first ++ gameData second := by
  rw [gameData, List.filter_append, List.map_append]
  rfl

/-- What one relay alone does reaches only its own way and its own game. -/
theorem dispatch_peer {playerId peer : Int} {host : Host} {effects : List Effect}
    (alone : ∀ other, host.effects other = if other = peer then effects else []) (way : Int × Int) :
    (network.dispatch playerId host).channels way =
      if way = (playerId, peer) then network.channels way ++ effects.filterMap Effect.sent?
      else network.channels way := by
  obtain ⟨first, second⟩ := way
  change (if first = playerId then _ else _) = _
  rw [alone]
  by_cases here : first = playerId
  · by_cases there : second = peer
    · rw [if_pos here, if_pos there, if_pos (by rw [here, there])]
    · rw [if_pos here, if_neg there, if_neg fun both => there (Prod.mk.inj both).2]
      exact List.append_nil _
  · rw [if_neg here, if_neg fun both => here (Prod.mk.inj both).1]

/-- What a datagram of a game does. -/
theorem step_play {playerId peer : Int} {port : Nat} {data : Bytes}
    (listens : (network.hosts playerId).listener? port = some peer)
    (steps : network.step environment (.play playerId port data) = some next) :
    ∃ host effects, (network.hosts playerId).step environment (.adapter (.peer peer (.local (.gameData data)))) =
        some host ∧
      host.link = (network.hosts playerId).link ∧ (effects = [] ∨ effects = [.sent ⟨.game, data.take 65507⟩]) ∧
      (∀ other, host.effects other = if other = peer then effects else []) ∧
      next = { network.dispatch playerId host with
        played := Function.update network.played (playerId, peer) (network.played (playerId, peer) ++ [data]) } := by
  unfold step at steps
  simp only [listens] at steps
  obtain ⟨host, moves, last⟩ := Option.bind_eq_some_iff.mp steps
  obtain ⟨link, relay, moved, _, handles, alone⟩ := Host.effects_peer moves
  obtain rfl := Option.some.inj handles
  exact ⟨host, _, moves, link, relay.clear.onPeerdataFromGame_effects data, alone, (Option.some.inj last).symm⟩

/-- What a message of a data channel does. -/
theorem step_deliver {sender receiver : Int} {index : Nat} {now : Int}
    (steps : network.step environment (.deliver sender receiver index now) = some next) :
    ∃ payload host effects, (network.channels (sender, receiver))[index]? = some payload ∧
      (network.hosts receiver).step environment (.adapter (.peer sender (.remoteMessage payload.data now))) =
        some host ∧
      host.link = (network.hosts receiver).link ∧ ((network.hosts receiver).peers sender).isSome ∧
      (effects = [] ∨ effects = [.sent ⟨.adapter, PeerConnectivityChecker.PongMessage⟩] ∨
        effects = [.forwarded payload.data]) ∧
      (∀ other, host.effects other = if other = sender then effects else []) ∧
      next = { network with
        channels := Function.update network.channels (sender, receiver)
          ((network.channels (sender, receiver)).eraseIdx index)
        delivered := Function.update network.delivered (sender, receiver)
          (network.delivered (sender, receiver) ++ [payload]) }.dispatch receiver host := by
  obtain ⟨payload, carried, after⟩ := Option.bind_eq_some_iff.mp steps
  obtain ⟨host, moves, last⟩ := Option.bind_eq_some_iff.mp after
  obtain ⟨link, relay, moved, present, handles, alone⟩ := Host.effects_peer moves
  refine ⟨payload, host, moved.effects, carried, moves, link, Option.isSome_of_eq_some present, ?_, alone,
    (Option.some.inj last).symm⟩
  obtain ⟨_, last⟩ := Option.ite_none_right_eq_some.mp handles
  obtain rfl := Option.some.inj last
  rw [Relay.onRemoteMessage_effects]
  split
  · exact .inl rfl
  · split
    · exact .inr (.inl rfl)
    · exact .inr (.inr rfl)

/-- What one host keeps, all hosts keep. -/
theorem withHost {property : Host → Prop} (holds : ∀ other, property (network.hosts other)) (playerId : Int)
    {host : Host} (hosted : property host) : ∀ other, property (Function.update network.hosts playerId host other) := by
  intro other
  by_cases same : other = playerId
  · rw [same, Function.update_self]
    exact hosted
  · rw [Function.update_of_ne same]
    exact holds other

/-- What each step of a host keeps, all hosts keep behind their data channels. -/
theorem keeps_step {property : Host → Prop} {allowed : Host → Host.Event → Prop}
    (kept : ∀ {host event next}, property host → allowed host event → host.step environment event = some next →
      property next)
    (handled : ∀ host peer event, allowed host (.adapter (.peer peer event))) {event : Event}
    (holds : ∀ playerId, property (network.hosts playerId))
    (permits : ∀ playerId own, event = .host playerId own → allowed (network.hosts playerId) own)
    (steps : network.step environment event = some next) : ∀ playerId, property (next.hosts playerId) := by
  cases event with
  | host playerId event =>
      obtain ⟨_, passes⟩ := Option.ite_none_left_eq_some.mp steps
      obtain ⟨host, moves, last⟩ := Option.bind_eq_some_iff.mp passes
      obtain rfl := Option.some.inj last
      have hosted := withHost holds playerId (kept (holds playerId) (permits playerId event rfl) moves)
      intro other
      split
      · exact hosted other
      · exact hosted other
  | play playerId port data =>
      cases listens : (network.hosts playerId).listener? port with
      | none =>
          unfold step at steps
          simp only [listens] at steps
          obtain rfl := Option.some.inj steps
          exact holds
      | some peer =>
          obtain ⟨host, _, moves, _, _, _, rfl⟩ := step_play listens steps
          exact withHost holds playerId (kept (holds playerId) (handled _ _ _) moves)
  | deliver sender receiver index now =>
      obtain ⟨_, host, _, _, moves, _, _, _, _, rfl⟩ := step_deliver steps
      exact withHost holds receiver (kept (holds receiver) (handled _ _ _) moves)
  | lose sender receiver index =>
      obtain rfl := Option.some.inj steps
      exact holds

/-- The relays belong to peer connections on every host. -/
theorem composed_step {event : Event} (composed : ∀ playerId, (network.hosts playerId).Composed environment)
    (quiet : network.Quiet event) (steps : network.step environment event = some next) :
    ∀ playerId, (next.hosts playerId).Composed environment := by
  refine @keeps_step environment network next (Host.Composed environment) Host.Quiet ?_ ?_ event composed ?_ steps
  · exact fun composed quiet moves => Host.composed_step quiet composed moves
  · exact fun _ _ _ => trivial
  · rintro playerId own rfl
    exact quiet

theorem Carrying.host {playerId : Int} {event : Host.Event} (carrying : network.Carrying environment)
    (quiet : (network.hosts playerId).Quiet event)
    (steps : network.step environment (.host playerId event) = some next) : next.Carrying environment := by
  refine ⟨@composed_step _ _ _ (.host playerId event) carrying.composed quiet steps, fun way => ?_⟩
  obtain ⟨other, passes⟩ := Option.ite_none_left_eq_some.mp steps
  obtain ⟨host, moves, last⟩ := Option.bind_eq_some_iff.mp passes
  obtain rfl := Option.some.inj last
  have silent : gameData ((if event.isAdapter then network.dispatch playerId host
      else { network with hosts := Function.update network.hosts playerId host }).channels way) =
      gameData (network.channels way) := by
    split
    · rename_i own
      cases event with
      | adapter event =>
          have control := Host.control_adapter (carrying.composed playerId) quiet (eq_false_of_ne_true other) moves
          exact (dispatch_control control).1 way
      | _ => contradiction
    · rfl
  have played := carrying.played way
  rw [gameData_append] at played ⊢
  rw [silent]
  split
  · exact played
  · exact played

theorem Carrying.play {playerId : Int} {port : Nat} {data : Bytes} (carrying : network.Carrying environment)
    (steps : network.step environment (.play playerId port data) = some next) : next.Carrying environment := by
  refine ⟨@composed_step _ _ _ (.play playerId port data) carrying.composed trivial steps, fun way => ?_⟩
  have played := carrying.played way
  cases listens : (network.hosts playerId).listener? port with
  | none =>
      unfold step at steps
      simp only [listens] at steps
      obtain rfl := Option.some.inj steps
      exact played
  | some peer =>
      obtain ⟨host, effects, _, _, sends, alone, rfl⟩ := step_play listens steps
      change List.Subperm (gameData ((network.dispatch playerId host).channels way ++ network.delivered way))
        ((Function.update network.played (playerId, peer) _ way).map _)
      rw [dispatch_peer alone]
      by_cases own : way = (playerId, peer)
      · subst own
        rw [if_pos rfl, Function.update_self, List.map_append, gameData_append, gameData_append]
        rw [gameData_append] at played
        rcases sends with rfl | rfl
        · change List.Subperm (gameData (network.channels (playerId, peer)) ++ [] ++ _) _
          rw [List.append_nil]
          exact played.trans (List.sublist_append_left _ _).subperm
        · change List.Subperm (gameData (network.channels (playerId, peer)) ++ [data.take 65507] ++ _)
            (_ ++ [data.take 65507])
          rw [List.append_assoc]
          have moved : (gameData (network.channels (playerId, peer)) ++ ([data.take 65507] ++
              gameData (network.delivered (playerId, peer)))).Perm ((gameData (network.channels (playerId, peer)) ++
                gameData (network.delivered (playerId, peer))) ++ [data.take 65507]) := by
            rw [List.append_assoc]
            exact List.perm_append_comm.append_left _
          exact moved.subperm.trans ((List.subperm_append_right _).mpr played)
      · rw [if_neg own, Function.update_of_ne own]
        exact played

theorem gameData_perm {first second : List Payload} (perm : first.Perm second) :
    (gameData first).Perm (gameData second) := (perm.filter _).map _

theorem Carrying.deliver {sender receiver : Int} {index : Nat} {now : Int} (carrying : network.Carrying environment)
    (steps : network.step environment (.deliver sender receiver index now) = some next) :
    next.Carrying environment := by
  refine ⟨@composed_step _ _ _ (.deliver sender receiver index now) carrying.composed trivial steps, fun way => ?_⟩
  obtain ⟨payload, host, effects, carried, _, _, _, reacts, alone, rfl⟩ := step_deliver steps
  have control : gameData (effects.filterMap Effect.sent?) = [] := by
    rcases reacts with rfl | rfl | rfl
    · rfl
    · rfl
    · rfl
  have played := carrying.played way
  change List.Subperm (gameData ((dispatch receiver host _).channels way ++
    Function.update network.delivered (sender, receiver) _ way)) ((network.played way).map _)
  rw [dispatch_peer alone, gameData_append]
  have silent : gameData (if way = (receiver, sender) then
      Function.update network.channels (sender, receiver) ((network.channels (sender, receiver)).eraseIdx index) way ++
        effects.filterMap Effect.sent?
      else Function.update network.channels (sender, receiver)
        ((network.channels (sender, receiver)).eraseIdx index) way) =
      gameData (Function.update network.channels (sender, receiver)
        ((network.channels (sender, receiver)).eraseIdx index) way) := by
    split
    · rw [gameData_append, control, List.append_nil]
    · rfl
  dsimp only
  rw [silent, ← gameData_append]
  by_cases own : way = (sender, receiver)
  · subst own
    rw [Function.update_self, Function.update_self]
    obtain ⟨inside, rfl⟩ := List.getElem?_eq_some_iff.mp carried
    refine List.Subperm.trans (gameData_perm ?_).subperm played
    rw [← List.append_assoc]
    refine (List.perm_append_singleton _ _).trans ?_
    exact ((List.getElem_cons_eraseIdx_perm inside).append_right _)
  · rw [Function.update_of_ne own, Function.update_of_ne own]
    exact played

theorem Carrying.lose {sender receiver : Int} {index : Nat} (carrying : network.Carrying environment)
    (steps : network.step environment (.lose sender receiver index) = some next) : next.Carrying environment := by
  obtain rfl := Option.some.inj steps
  refine ⟨carrying.composed, fun way => ?_⟩
  have played := carrying.played way
  change List.Subperm (gameData (Function.update network.channels (sender, receiver) _ way ++ network.delivered way)) _
  by_cases own : way = (sender, receiver)
  · subst own
    rw [Function.update_self]
    have fewer := ((network.channels (sender, receiver)).eraseIdx_sublist index).append_right
      (network.delivered (sender, receiver))
    exact ((fewer.filter _).map _).subperm.trans played
  · rw [Function.update_of_ne own]
    exact played

end Steps

section Runs

variable {environment : RpcEnvironment} {options : Int → IceAdapterOptions} {freePort : Int → Int}
  {events : List Event} {network : GameNetwork}

end Runs

def plainMachine : Machine GameNetwork Event :=
  machine LiveAdapter.plainEnvironment (fun playerId => ⟨if playerId = 2 then 2 else 1, bytes "Rhiza", 6112⟩) fun _ => 0

/-- A game comes to the lobby and reads everything. -/
def assembling (playerId : Int) : List Event :=
  [.host playerId (.adapter (.game .newClient)),
    .host playerId (.sends 0 ⟨bytes "GameState", [.stringValue (bytes "Idle")]⟩),
    .host playerId (.sends 0 ⟨bytes "GameState", [.stringValue (bytes "Lobby")]⟩),
    .host playerId (.arrives 0 100), .host playerId (.reads 0 400)]

/-- Two players are connected, and the game of the first one plays. -/
def playing : List Event :=
  [.host 1 (.adapter (.rpc .connectToPeer [.stringValue (bytes "you"), .intValue 2, .booleanValue true] 6001 .silent)),
    .host 2 (.adapter (.rpc .joinGame [.stringValue (bytes "host"), .intValue 1] 7001 .silent)),
    .host 2 (.adapter (.rpc .iceMsg [.intValue 1, Relay.descriptionMessage true (bytes "v=0")] 0 .silent)),
    .host 1 (.adapter (.peer 2 (.local (.iceState .connected)))),
    .host 2 (.adapter (.peer 1 (.local .dataChannel)))] ++ assembling 1 ++ assembling 2 ++
  [.play 1 6001 (bytes "hello")]

end GameNetwork
end Faf
