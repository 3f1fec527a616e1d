import FafIceAdapter.System.Exchange
import FafIceAdapter.System.Host

namespace Faf
open Json JsonRpc StreamReader Transition

/-- The adapter between its client, whose messages it gets in order, and its games, whose messages it gets as bytes. -/
structure Station where
  rpc : RpcLink
  incoming : Nat → Channel UInt8
  outgoing : Nat → Channel UInt8
  sent : Nat → List GPGNetMessage
  received : Nat → List GPGNetMessage

namespace Station

/-- The adapter and its games. -/
def games (station : Station) : GameLink :=
  ⟨station.rpc.service.live.adapter, station.incoming, station.outgoing, station.sent, station.received⟩

/-- What happens on the streams of the games. -/
def withStreams (games : GameLink) (station : Station) : Station :=
  { station with
    incoming := games.incoming
    outgoing := games.outgoing
    sent := games.sent
    received := games.received }

/-- What the adapter sends to its games in a step is on its way. -/
def perform (environment : RpcEnvironment) (event : RpcLink.Event) (station : Station) : Option Station := do
  let rpc ← station.rpc.step environment event
  let before := station.rpc.service.live.adapter.trace
  return { station with
    rpc := rpc
    outgoing := fun handler => (station.outgoing handler).send
      ((sentTo handler (rpc.service.live.adapter.trace.drop before.length)).flatMap
        (GameLink.wire environment.jsonCpp)) }

/-- The adapter handles the messages of one result of `Recv` in order. An exception of the parser leaves the event
loop. -/
def onRead (environment : RpcEnvironment) (handler count : Nat) (station : Station) : Option Station :=
  let (drained, channel) := (station.incoming handler).receive GPGNetMessage.readMessage count
  if drained.failed then none
  else
    drained.delivered.foldlM
      (fun station message => station.perform environment (.game (.clientMessage handler message)))
      { station with incoming := Function.update station.incoming handler channel }

inductive Event where
  | rpc (event : RpcLink.Event)
  | sends (handler : Nat) (message : GPGNetMessage)
  | arrives (handler count : Nat)
  | reads (handler count : Nat)

/-- A message of a game reaches the adapter as bytes only. -/
def isMessage : RpcLink.Event → Bool
  | .game (.clientMessage _ _) => true
  | _ => false

def step (environment : RpcEnvironment) (station : Station) : Event → Option Station
  | .rpc event => if isMessage event then none else station.perform environment event
  | .sends handler message =>
      if handler < station.games.adapter.accepted then
        some (station.withStreams (station.games.sendMessage environment.jsonCpp handler message))
      else none
  | .arrives handler count =>
      if handler ∈ station.games.adapter.connectedSockets then station.onRead environment handler count else none
  | .reads handler count =>
      if handler < station.games.adapter.accepted then do
        let games ← station.games.onClientRead handler count
        return station.withStreams games
      else none

def machine (environment : RpcEnvironment) (options : IceAdapterOptions) (freePort : Int) : Machine Station Event where
  initial :=
    { rpc := (RpcLink.machine environment options freePort).initial
      incoming := fun _ => .empty
      outgoing := fun _ => .empty
      sent := fun _ => []
      received := fun _ => [] }
  step := step environment

/-- What the adapter and its games see of an event. -/
def linkEvent? (environment : RpcEnvironment) (station : Station) : Event → Option GameLink.Event
  | .rpc event => (station.rpc.adapterEvent? environment event).map .adapter
  | .sends handler message => some (.sends handler message)
  | .arrives handler count => some (.arrives handler count)
  | .reads handler count => some (.reads handler count)

/-- The games send what the wire format can hold. -/
def Supported (environment : RpcEnvironment) (station : Station) (event : Event) : Prop :=
  ∀ own ∈ station.linkEvent? environment event, own.Supported

/-- The client keeps to what the wire format can hold. -/
def Bounded (environment : RpcEnvironment) (station : Station) (event : Event) : Prop :=
  ∀ own ∈ station.linkEvent? environment event, own.Bounded

instance (environment : RpcEnvironment) (station : Station) (event : Event) :
    Decidable (station.Supported environment event) := inferInstanceAs (Decidable (∀ own ∈ _, _))

instance (environment : RpcEnvironment) (station : Station) (event : Event) :
    Decidable (station.Bounded environment event) := inferInstanceAs (Decidable (∀ own ∈ _, _))

theorem withStreams_games {station : Station} {games : GameLink}
    (same : games.adapter = station.rpc.service.live.adapter) : (station.withStreams games).games = games := by
  cases games
  subst same
  rfl

section Steps

variable {environment : RpcEnvironment} {station next : Station}

theorem perform_games {event : RpcLink.Event} (performs : station.perform environment event = some next) :
    match station.rpc.adapterEvent? environment event with
    | some own => station.games.perform environment.jsonCpp own = some next.games
    | none => next.games = station.games := by
  obtain ⟨rpc, steps, last⟩ := Option.bind_eq_some_iff.mp performs
  obtain rfl := Option.some.inj last
  have obeys := (RpcLink.moves_of_step steps).obeys
  split
  · rename_i own brings
    rw [brings] at obeys
    rw [GameLink.perform, show station.games.adapter.step environment.jsonCpp own = _ from obeys]
    rfl
  · rename_i idle
    rw [idle] at obeys
    have same := Option.some.inj obeys
    unfold games
    rw [← same]
    simp [sentTo, Channel.send]

/-- Each message of a game is a step of the adapter and its games. -/
theorem onRead_games {handler count : Nat} (reads : station.onRead environment handler count = some next) :
    station.games.onRead environment.jsonCpp handler count = some next.games := by
  obtain ⟨passes, handles⟩ := Option.ite_none_left_eq_some.mp reads
  refine (if_neg passes).trans ?_
  exact Sequence.foldlM_project games (fun performs => perform_games performs) handles

theorem isMessage_adapterEvent? {event : RpcLink.Event} {own : IceAdapter.Event}
    (brings : station.rpc.adapterEvent? environment event = some own) : own.isMessage = isMessage event := by
  cases event with
  | serve port creation =>
      obtain ⟨sent, _, asks⟩ := Option.bind_eq_some_iff.mp brings
      obtain ⟨method, _, commands⟩ := Option.bind_eq_some_iff.mp asks
      exact Host.adapterEvent_isMessage station.rpc.service.live
        (show LiveAdapter.adapterEvent? environment (.rpc method (paramsOf sent.message).elements port creation) =
          some own from commands)
  | game event =>
      obtain rfl := Option.some.inj brings
      cases event <;> rfl
  | call _ _ _ | finishes | peer _ _ | deliver => contradiction

/-- What the adapter and its games see of a step is a step of theirs. -/
theorem step_games {event : Event} (steps : station.step environment event = some next) :
    match station.linkEvent? environment event with
    | some own => station.games.step environment.jsonCpp own = some next.games
    | none => next.games = station.games := by
  cases event with
  | rpc event =>
      obtain ⟨other, performs⟩ := Option.ite_none_left_eq_some.mp steps
      have moves := perform_games performs
      simp only [linkEvent?]
      cases brings : station.rpc.adapterEvent? environment event with
      | none =>
          rw [brings] at moves
          exact moves
      | some own =>
          rw [brings] at moves
          change (if own.isMessage then none else station.games.perform environment.jsonCpp own) = some next.games
          rw [if_neg (isMessage_adapterEvent? brings ▸ other)]
          exact moves
  | sends handler message =>
      obtain ⟨known, last⟩ := Option.ite_none_right_eq_some.mp steps
      obtain rfl := Option.some.inj last
      rw [withStreams_games (GameLink.sendMessage_frame handler message).1]
      exact if_pos known
  | arrives handler count =>
      obtain ⟨known, reads⟩ := Option.ite_none_right_eq_some.mp steps
      exact (if_pos known).trans (onRead_games reads)
  | reads handler count =>
      obtain ⟨known, reads⟩ := Option.ite_none_right_eq_some.mp steps
      obtain ⟨games, moves, last⟩ := Option.bind_eq_some_iff.mp reads
      obtain rfl := Option.some.inj last
      have same : games.adapter = station.rpc.service.live.adapter := by
        obtain ⟨_, kept⟩ := Option.ite_none_left_eq_some.mp moves
        rw [← Option.some.inj kept]
        rfl
      rw [withStreams_games same]
      exact (if_pos known).trans moves

theorem heard_step {event : Event} (heard : station.games.Heard GameLink.idle)
    (supported : station.Supported environment event) (steps : station.step environment event = some next) :
    next.games.Heard GameLink.idle := by
  have moves := step_games steps
  split at moves
  · rename_i own seen
    exact heard.step (supported own seen) moves
  · rw [moves]
    exact heard

theorem told_step {event : Event} (told : station.games.Told) (bounded : station.Bounded environment event)
    (steps : station.step environment event = some next) : next.games.Told := by
  have moves := step_games steps
  split at moves
  · rename_i own seen
    exact told.step (bounded own seen) moves
  · rw [moves]
    exact told

/-- What the client and the adapter exchange is kept by all steps. -/
theorem exchanging_step {options : IceAdapterOptions} {lobbyPort : Int} {event : Event}
    (exchanging : station.rpc.Exchanging environment options lobbyPort)
    (steps : station.step environment event = some next) : next.rpc.Exchanging environment options lobbyPort := by
  have performs {station next : Station} {event : RpcLink.Event}
      (exchanging : station.rpc.Exchanging environment options lobbyPort)
      (performs : station.perform environment event = some next) :
      next.rpc.Exchanging environment options lobbyPort := by
    obtain ⟨rpc, moves, last⟩ := Option.bind_eq_some_iff.mp performs
    obtain rfl := Option.some.inj last
    exact exchanging.step moves
  cases event with
  | rpc event => exact performs exchanging (Option.ite_none_left_eq_some.mp steps).2
  | sends handler message =>
      obtain ⟨_, last⟩ := Option.ite_none_right_eq_some.mp steps
      obtain rfl := Option.some.inj last
      exact exchanging
  | arrives handler count =>
      obtain ⟨_, reads⟩ := Option.ite_none_right_eq_some.mp steps
      obtain ⟨_, handles⟩ := Option.ite_none_left_eq_some.mp reads
      refine Sequence.foldlM_invariant
        (fun station : Station => station.rpc.Exchanging environment options lobbyPort) ?_ ?_ handles
      · intro station message next exchanging passes
        exact performs exchanging passes
      · exact exchanging
  | reads handler count =>
      obtain ⟨_, reads⟩ := Option.ite_none_right_eq_some.mp steps
      obtain ⟨games, _, last⟩ := Option.bind_eq_some_iff.mp reads
      obtain rfl := Option.some.inj last
      exact exchanging

end Steps

section Runs

variable {environment : RpcEnvironment} {options : IceAdapterOptions} {freePort : Int} {events : List Event}
  {station : Station}

theorem exchanging_reaches {allowed : Station → Event → Prop}
    (run : (machine environment options freePort).Reaches allowed events station) :
    station.rpc.Exchanging environment options (IceAdapter.initial options freePort).lobbyPort := by
  apply run.invariant fun station : Station =>
    station.rpc.Exchanging environment options (IceAdapter.initial options freePort).lobbyPort
  · exact RpcLink.exchanging_initial environment options freePort
  · exact fun exchanging _ steps => exchanging_step exchanging steps

theorem heard_reaches (run : (machine environment options freePort).Reaches (Supported environment) events station) :
    station.games.Heard GameLink.idle := by
  apply run.invariant fun station : Station => station.games.Heard GameLink.idle
  · exact GameLink.heard_initial options freePort
  · exact heard_step

theorem told_reaches (fitting : GameLink.Fitting options freePort)
    (run : (machine environment options freePort).Reaches (Bounded environment) events station) :
    station.games.Told := by
  apply run.invariant fun station : Station => station.games.Told
  · exact GameLink.told_initial fitting
  · exact told_step

end Runs

/-- Whatever the client calls and the relays do, and however the bytes of the games are cut, the client is notified of
the messages of its games in order, without loss, duplicates and inventions, when the games send what the wire format
can hold: the notifications that it has got or that are on their way are those of the messages that the adapter has
read, which are for each game the first ones that it has sent, and all of them when no byte is on its way. -/
theorem games_heard (environment : RpcEnvironment) (options : IceAdapterOptions) (freePort : Int)
    (events : List Event) (station : Station)
    (run : (machine environment options freePort).Reaches (Supported environment) events station) :
    ∃ heard : List (Nat × GPGNetMessage),
      (station.rpc.notified ++ station.rpc.toClient.filter RpcLink.isNotification).filter isGameMessage =
        heard.map (fun arrival => arrival.2.notification) ∧
      ∀ handler,
        GameLink.Conveyed (station.sent handler) ((heard.filter (·.1 = handler)).map Prod.snd)
          (station.incoming handler) ∧
        ((station.incoming handler).transit = [] →
          (heard.filter (·.1 = handler)).map Prod.snd = (station.sent handler).map GPGNetMessage.readBack) := by
  have heard := heard_reaches run
  have exchanging := exchanging_reaches run
  refine ⟨arrivals station.rpc.service.live.adapter.trace, ?_, ?_⟩
  · have hears := exchanging.hears
    rw [exchanging.paired.notified, exchanging.announced]
    rw [Hears, List.map_nil, List.append_nil] at hears
    rw [hears, List.map_map]
    rfl
  · intro handler
    have incoming := heard.incoming handler
    rw [List.append_nil] at incoming
    rw [← receivedFrom_arrivals]
    exact ⟨incoming, incoming.arrived (GameLink.reads_each (heard.encodable handler))⟩

def plainMachine : Machine Station Event := machine LiveAdapter.plainEnvironment ⟨1, bytes "Rhiza", 6113⟩ 6112

/-- The client asks for a peer, a game comes and reports its lobby, reads the peer and a message that the client passes
on, and the client reads what the adapter tells it. -/
def lobbying : List Event :=
  [.rpc (.call (bytes "connectToPeer")
      (.arrayValue [.stringValue (bytes "you"), .intValue 2, .booleanValue true]) true),
    .rpc (.serve 6001 .silent), .rpc (.game .newClient),
    .sends 0 ⟨bytes "GameState", [.stringValue (bytes "Lobby")]⟩, .arrives 0 5, .arrives 0 100,
    .rpc (.call (bytes "sendToGpgNet")
      (.arrayValue [.stringValue (bytes "Rehost"), .arrayValue [.stringValue (bytes "map")]]) false),
    .rpc (.serve 0 .silent), .reads 0 70, .reads 0 100, .rpc .deliver, .rpc .finishes, .rpc .deliver, .rpc .deliver]

theorem games_heard_lobbying :
    ∃ station, plainMachine.runWhere (Supported LiveAdapter.plainEnvironment) lobbying = some station ∧
      station.rpc.notified.length = 2 ∧
      ∃ heard : List (Nat × GPGNetMessage),
        (station.rpc.notified ++ station.rpc.toClient.filter RpcLink.isNotification).filter isGameMessage =
          heard.map (fun arrival => arrival.2.notification) ∧
        ∀ handler,
          GameLink.Conveyed (station.sent handler) ((heard.filter (·.1 = handler)).map Prod.snd)
            (station.incoming handler) ∧
          ((station.incoming handler).transit = [] →
            (heard.filter (·.1 = handler)).map Prod.snd = (station.sent handler).map GPGNetMessage.readBack) := by
  have told : (plainMachine.runWhere (Supported LiveAdapter.plainEnvironment) lobbying).map
      (fun station => station.rpc.notified.length) = some 2 := by
    decide +kernel
  obtain ⟨station, run, two⟩ := Option.map_eq_some_iff.mp told
  exact ⟨station, run, two, games_heard _ _ _ lobbying station (Machine.reaches_iff_runWhere.mpr run)⟩

/-- A game is told nothing but what the client asks for and the lobby, when the client keeps to what the wire format can
hold: the messages that a game has read are the first ones of a list of messages with causes, of which the tasks are
tasks that requests of the client ask for, in their order, the passed on messages are those of requests, in their order,
and the others create the lobby of the options. -/
theorem games_told (environment : RpcEnvironment) (options : IceAdapterOptions) (freePort : Int)
    (fitting : GameLink.Fitting options freePort) (events : List Event) (station : Station)
    (run : (machine environment options freePort).Reaches (Bounded environment) events station) (handler : Nat) :
    ∃ causes told, List.Forall₂ (Cause.Yields options (IceAdapter.initial options freePort).lobbyPort) causes told ∧
      GameLink.Conveyed told (station.received handler) (station.outgoing handler) ∧
      ((station.outgoing handler).transit = [] → station.received handler = told.map GPGNetMessage.readBack) ∧
      (causes.filterMap Cause.task?).Sublist (station.rpc.issued.filterMap (ClientRequest.task? environment)) ∧
      (causes.filterMap Cause.passedOn?).Sublist
        (station.rpc.issued.filterMap (ClientRequest.passedOn? environment)) := by
  have spoken := told_reaches fitting run
  have exchanging := exchanging_reaches run
  obtain ⟨causes, yields, tasks, messages⟩ := (exchanging.traced handler).causes
  have outgoing := spoken.outgoing handler
  have toGame := GameLink.reads_each (spoken.moderate.sent handler)
  refine ⟨causes, _, yields, outgoing, outgoing.arrived toGame, ?_, ?_⟩
  · rw [exchanging.paired.served, List.filterMap_append]
    exact ((List.sublist_append_left ..).trans tasks).trans (List.sublist_append_left ..)
  · rw [exchanging.paired.served, List.filterMap_append]
    exact messages.trans (List.sublist_append_left ..)

theorem games_told_lobbying :
    ∃ station, plainMachine.runWhere (Bounded LiveAdapter.plainEnvironment) lobbying = some station ∧
      (station.received 0).length = 2 ∧
      ∃ causes told, List.Forall₂ (Cause.Yields ⟨1, bytes "Rhiza", 6113⟩ 6113) causes told ∧
        GameLink.Conveyed told (station.received 0) (station.outgoing 0) ∧
        ((station.outgoing 0).transit = [] → station.received 0 = told.map GPGNetMessage.readBack) ∧
        (causes.filterMap Cause.task?).Sublist
          (station.rpc.issued.filterMap (ClientRequest.task? LiveAdapter.plainEnvironment)) ∧
        (causes.filterMap Cause.passedOn?).Sublist
          (station.rpc.issued.filterMap (ClientRequest.passedOn? LiveAdapter.plainEnvironment)) := by
  have told : (plainMachine.runWhere (Bounded LiveAdapter.plainEnvironment) lobbying).map
      (fun station => (station.received 0).length) = some 2 := by
    decide +kernel
  obtain ⟨station, run, two⟩ := Option.map_eq_some_iff.mp told
  have fitting : GameLink.Fitting ⟨1, bytes "Rhiza", 6113⟩ 6112 := ⟨by decide, by decide, by decide⟩
  exact ⟨station, run, two,
    games_told _ _ _ fitting lobbying station (Machine.reaches_iff_runWhere.mpr run) 0⟩

end Station
end Faf
