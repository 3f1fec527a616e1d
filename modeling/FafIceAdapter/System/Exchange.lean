import FafIceAdapter.Adapter.Exchange
import FafIceAdapter.System.RpcLink

namespace Faf
open Json JsonRpc Transition

/-- The command of the adapter for a request. -/
def ClientRequest.command? (environment : RpcEnvironment) (sent : ClientRequest) : Option IceAdapter.Event :=
  (LiveAdapter.methodOf sent.message).bind fun method =>
    method.command? environment (paramsOf sent.message).elements

/-- The task that a request asks for. -/
def ClientRequest.task? (environment : RpcEnvironment) (sent : ClientRequest) : Option IceAdapterGameTask :=
  (sent.command? environment).bind IceAdapter.Event.task?

/-- The message that a request passes on to the games. -/
def ClientRequest.passedOn? (environment : RpcEnvironment) (sent : ClientRequest) : Option GPGNetMessage :=
  (sent.command? environment).bind IceAdapter.Event.passedOn?

/-- The notification of a message of a game. -/
def GPGNetMessage.notification (message : GPGNetMessage) : Value :=
  Faf.notification "onGpgNetMessageReceived" message.params

/-- The client is notified of a message of a game. -/
def isGameMessage (message : Value) : Bool :=
  match message.member (bytes "method") with
  | .stringValue method => decide (method = bytes "onGpgNetMessageReceived")
  | _ => false

/-- The port of a new relay is not what a request asks for. -/
theorem RpcMethod.command?_give (environment : RpcEnvironment) (port : Nat) (creation : Creation)
    (params : List Value) (method : RpcMethod) :
    (method.command? (environment.give port creation) params).bind IceAdapter.Event.task? =
        (method.command? environment params).bind IceAdapter.Event.task? ∧
      (method.command? (environment.give port creation) params).bind IceAdapter.Event.passedOn? =
        (method.command? environment params).bind IceAdapter.Event.passedOn? := by
  have json : (environment.give port creation).jsonCpp = environment.jsonCpp := rfl
  have bool : (environment.give port creation).asBool = environment.asBool := rfl
  cases method with
  | joinGame =>
      have same : (RpcCallback.joinGame (environment.give port creation)).malformed params =
        (RpcCallback.joinGame environment).malformed params := rfl
      simp only [RpcMethod.command?, RpcCallback.command?, same, json]
      split
      · exact ⟨rfl, rfl⟩
      · cases environment.jsonCpp.asString (RpcCallback.param params 0) with
        | error exception => exact ⟨rfl, rfl⟩
        | ok login => cases environment.jsonCpp.asInt (RpcCallback.param params 1) <;> exact ⟨rfl, rfl⟩
  | connectToPeer =>
      have same : (RpcCallback.connectToPeer (environment.give port creation)).malformed params =
        (RpcCallback.connectToPeer environment).malformed params := rfl
      simp only [RpcMethod.command?, RpcCallback.command?, same, json, bool]
      split
      · exact ⟨rfl, rfl⟩
      · cases environment.jsonCpp.asString (RpcCallback.param params 0) with
        | error exception => exact ⟨rfl, rfl⟩
        | ok login =>
            cases environment.jsonCpp.asInt (RpcCallback.param params 1) with
            | error exception => exact ⟨rfl, rfl⟩
            | ok playerId => cases environment.asBool (RpcCallback.param params 2) <;> exact ⟨rfl, rfl⟩
  | _ =>
      constructor
      · rfl
      · rfl

theorem ClientRequest.command?_give (environment : RpcEnvironment) (port : Nat) (creation : Creation)
    (sent : ClientRequest) :
    (sent.command? (environment.give port creation)).bind IceAdapter.Event.task? = sent.task? environment ∧
      (sent.command? (environment.give port creation)).bind IceAdapter.Event.passedOn? =
        sent.passedOn? environment := by
  have same (method : RpcMethod) :=
    RpcMethod.command?_give environment port creation (paramsOf sent.message).elements method
  rw [ClientRequest.task?, ClientRequest.passedOn?, ClientRequest.command?, ClientRequest.command?]
  generalize LiveAdapter.methodOf sent.message = named
  cases named with
  | none => simp only [Option.bind_none, and_self]
  | some method =>
      rw [Option.bind_some, Option.bind_some]
      exact same method

theorem isGameMessage_notification (method : String) (params : List Value) :
    isGameMessage (notification method params) = decide (bytes method = bytes "onGpgNetMessageReceived") := by
  unfold isGameMessage notification
  rw [message_method.2]

/-- Among the notifications of a step are those of the messages that the adapter passes on in it. -/
theorem notifications_passed (before after : LiveAdapter) :
    (before.notifications after).filter isGameMessage =
      ((after.adapter.trace.drop before.adapter.trace.length).filterMap Observation.passedOn?).map
        (notification "onGpgNetMessageReceived") := by
  have relays (effects : List Effect) (localPlayerId remotePlayerId : Int) :
      ∀ message ∈ effects.filterMap (Effect.notification? localPlayerId remotePlayerId),
        isGameMessage message = false := by
    intro message member
    obtain ⟨effect, _, same⟩ := List.mem_filterMap.mp member
    cases effect with
    | iceMessage _ | state _ | connected _ =>
        obtain rfl := Option.some.inj same
        rw [isGameMessage_notification]
        decide
    | _ => contradiction
  have games (observations : List Observation) :
      (observations.filterMap Observation.notification?).filter isGameMessage =
        (observations.filterMap Observation.passedOn?).map (notification "onGpgNetMessageReceived") := by
    induction observations with
    | nil => rfl
    | cons observation rest ih =>
        cases observation with
        | requested method params =>
            have kind := isGameMessage_notification method params
            have told : Observation.notification? (.requested method params) = some (notification method params) := rfl
            by_cases named : bytes method = bytes "onGpgNetMessageReceived"
            · have passed : Observation.passedOn? (.requested method params) = some params := if_pos named
              have same : notification method params = notification "onGpgNetMessageReceived" params := by
                unfold notification
                rw [named]
              rw [List.filterMap_cons_some told, List.filterMap_cons_some passed,
                List.filter_cons_of_pos (by rw [kind, decide_eq_true named]), ih, same, List.map_cons]
            · have passed : Observation.passedOn? (.requested method params) = none := if_neg named
              rw [List.filterMap_cons_some told, List.filterMap_cons_none passed,
                List.filter_cons_of_neg (by simp [kind, named]), ih]
        | _ => exact ih
  unfold LiveAdapter.notifications
  rw [List.filter_append, games, List.filter_eq_nil_iff.mpr, List.nil_append]
  intro message member
  obtain ⟨entry, _, inside⟩ := List.mem_flatMap.mp member
  simp [relays _ _ _ message inside]

namespace IceAdapter

/-- The history only grows. -/
theorem obey_grows {jsonCpp : JsonCpp} {adapter next : IceAdapter} {command : Option Event}
    (obeys : adapter.obey jsonCpp command = some next) :
    next.trace = adapter.trace ++ next.trace.drop adapter.trace.length := by
  cases command with
  | none =>
      obtain rfl := Option.some.inj obeys
      rw [List.drop_length, List.append_nil]
  | some event =>
      obtain ⟨observations, grows, _⟩ := step_grows obeys
      rw [grows, List.drop_left]

theorem Traced.obey {tasks : List IceAdapterGameTask} {messages : List GPGNetMessage} {options : IceAdapterOptions}
    {lobbyPort : Int} {handler : Nat} {jsonCpp : JsonCpp} {adapter next : IceAdapter} {command : Option Event}
    (traced : adapter.Traced tasks messages options lobbyPort handler)
    (obeys : adapter.obey jsonCpp command = some next) :
    next.Traced (tasks ++ (command.bind Event.task?).toList) (messages ++ (command.bind Event.passedOn?).toList) options
      lobbyPort handler := by
  cases command with
  | none =>
      obtain rfl := Option.some.inj obeys
      exact traced.mono _ _
  | some event => exact traced.step obeys

theorem hears_obey {jsonCpp : JsonCpp} {adapter next : IceAdapter} {command : Option Event}
    (hears : Hears [] adapter.trace) (obeys : adapter.obey jsonCpp command = some next) : Hears [] next.trace := by
  cases command with
  | none =>
      obtain rfl := Option.some.inj obeys
      exact hears
  | some event => exact hears_step hears obeys

end IceAdapter

/-- The adapter obeys the command of a request that is served. -/
theorem LiveAdapter.serve_obeys {environment : RpcEnvironment} {live next : LiveAdapter} {sent : ClientRequest}
    {port : Nat} {creation : Creation} (serves : live.serve environment sent.message port creation = some next) :
    live.adapter.obey environment.jsonCpp (sent.command? (environment.give port creation)) = some next.adapter := by
  unfold LiveAdapter.serve at serves
  unfold ClientRequest.command?
  split at serves
  · rename_i method known
    have called := (@called_call (environment.give port creation) live.clear method
      (paramsOf sent.message).elements).adapter
    rw [known, ← Option.some.inj serves]
    exact called
  · rename_i unknown
    obtain rfl := Option.some.inj serves
    rw [unknown]
    rfl

namespace RpcLink

/-- What a step brings to the adapter itself. -/
def adapterEvent? (environment : RpcEnvironment) (link : RpcLink) : Event → Option IceAdapter.Event
  | .serve port creation => link.toServer.head?.bind (ClientRequest.command? (environment.give port creation))
  | .game event => some event.event
  | .call .. | .finishes | .peer .. | .deliver => none

/-- The request that a step serves. -/
def served (link : RpcLink) : Event → List ClientRequest
  | .serve _ _ => link.toServer.head?.toList
  | .call .. | .finishes | .game _ | .peer .. | .deliver => []

/-- What a step does to the adapter, to the replies and to the notifications of the games. -/
structure Moves (environment : RpcEnvironment) (link : RpcLink) (event : Event) (next : RpcLink) : Prop where
  obeys : link.service.live.adapter.obey environment.jsonCpp (link.adapterEvent? environment event) =
    some next.service.live.adapter
  serves : next.service.replies.map Reply.sent = link.service.replies.map Reply.sent ++ link.served event
  announces : next.announced.filter isGameMessage = link.announced.filter isGameMessage ++
    ((next.service.live.adapter.trace.drop link.service.live.adapter.trace.length).filterMap
      Observation.passedOn?).map (notification "onGpgNetMessageReceived")

theorem moves_of_step {environment : RpcEnvironment} {link next : RpcLink} {event : Event}
    (steps : link.step environment event = some next) : Moves environment link event next := by
  have idle (announced : List Value) (trace : List Observation) : announced = announced ++
      ((trace.drop trace.length).filterMap Observation.passedOn?).map (notification "onGpgNetMessageReceived") := by
    rw [List.drop_length]
    exact (List.append_nil _).symm
  have performs {before : RpcLink} {inner : AdapterService.Event} (same : before.service = link.service)
      (told : before.announced = link.announced) (performs : before.perform environment inner = some next) :
      link.service.step environment inner = some next.service ∧
        next.announced.filter isGameMessage = link.announced.filter isGameMessage ++
          ((next.service.live.adapter.trace.drop link.service.live.adapter.trace.length).filterMap
            Observation.passedOn?).map (notification "onGpgNetMessageReceived") := by
    obtain ⟨service, moves, last⟩ := Option.bind_eq_some_iff.mp performs
    obtain rfl := Option.some.inj last
    rw [same] at moves
    refine ⟨moves, ?_⟩
    rw [List.filter_append, notifications_passed, same, told]
  cases event with
  | call method paramsArray resultCb =>
      obtain ⟨client, _, last⟩ := Option.bind_eq_some_iff.mp steps
      obtain rfl := Option.some.inj last
      exact ⟨rfl, (List.append_nil _).symm, idle _ _⟩
  | finishes =>
      obtain ⟨client, _, last⟩ := Option.bind_eq_some_iff.mp steps
      obtain rfl := Option.some.inj last
      exact ⟨rfl, (List.append_nil _).symm, idle _ _⟩
  | deliver =>
      simp only [RpcLink.step] at steps
      split at steps
      · contradiction
      · obtain ⟨_, last⟩ := Option.ite_none_right_eq_some.mp steps
        obtain rfl := Option.some.inj last
        exact ⟨rfl, (List.append_nil _).symm, idle _ _⟩
  | serve port creation =>
      simp only [RpcLink.step] at steps
      split at steps
      · contradiction
      · rename_i sent rest first
        obtain ⟨moves, announces⟩ := @performs { link with toServer := rest } _ rfl rfl steps
        obtain ⟨reply, own, added, _⟩ := AdapterService.serve_cases moves
        obtain ⟨live, serves, last⟩ := Option.bind_eq_some_iff.mp moves
        refine ⟨?_, ?_, announces⟩
        · rw [← Option.some.inj last, adapterEvent?, first, List.head?_cons, Option.bind_some]
          exact LiveAdapter.serve_obeys serves
        · rw [added, List.map_append, List.map_singleton, own, served, first]
          rfl
  | game event =>
      obtain ⟨moves, announces⟩ := performs rfl rfl steps
      obtain ⟨live, handles, last⟩ := Option.bind_eq_some_iff.mp moves
      obtain ⟨adapter, obeys, last'⟩ := Option.bind_eq_some_iff.mp handles
      have service := (Option.some.inj last).symm
      refine ⟨?_, ?_, announces⟩
      · rw [service, ← Option.some.inj last']
        exact obeys
      · rw [service]
        exact (List.append_nil _).symm
  | peer remotePlayerId event =>
      obtain ⟨moves, announces⟩ := performs rfl rfl steps
      obtain ⟨live, handles, last⟩ := Option.bind_eq_some_iff.mp moves
      obtain ⟨relay, _, after⟩ := Option.bind_eq_some_iff.mp handles
      obtain ⟨_, _, last'⟩ := Option.bind_eq_some_iff.mp after
      have service := (Option.some.inj last).symm
      refine ⟨?_, ?_, announces⟩
      · rw [service, ← Option.some.inj last']
        rfl
      · rw [service]
        exact (List.append_nil _).symm

/-- The replies answer the calls, what is sent to the games has causes in the served requests, and the client is
notified of every message of a game. -/
structure Exchanging (environment : RpcEnvironment) (options : IceAdapterOptions) (lobbyPort : Int) (link : RpcLink) :
    Prop where
  paired : link.Paired
  traced : ∀ handler, link.service.live.adapter.Traced
    ((link.service.replies.map Reply.sent).filterMap (ClientRequest.task? environment))
    ((link.service.replies.map Reply.sent).filterMap (ClientRequest.passedOn? environment)) options lobbyPort handler
  hears : Hears [] link.service.live.adapter.trace
  announced : link.announced.filter isGameMessage =
    (link.service.live.adapter.trace.filterMap Observation.passedOn?).map (notification "onGpgNetMessageReceived")

/-- A step asks for what the request that it serves asks for. -/
theorem adapterEvent?_served (environment : RpcEnvironment) (link : RpcLink) (event : Event) :
    (link.served event).filterMap (ClientRequest.task? environment) =
        ((link.adapterEvent? environment event).bind IceAdapter.Event.task?).toList ∧
      (link.served event).filterMap (ClientRequest.passedOn? environment) =
        ((link.adapterEvent? environment event).bind IceAdapter.Event.passedOn?).toList := by
  cases event with
  | serve port creation =>
      rw [served, adapterEvent?]
      cases link.toServer.head? with
      | none => exact ⟨rfl, rfl⟩
      | some sent =>
          obtain ⟨tasks, messages⟩ := sent.command?_give environment port creation
          rw [Option.bind_some, Option.toList_some, tasks, messages]
          constructor
          · cases asks : sent.task? environment with
            | none => exact List.filterMap_cons_none asks
            | some task => exact List.filterMap_cons_some asks
          · cases passes : sent.passedOn? environment with
            | none => exact List.filterMap_cons_none passes
            | some message => exact List.filterMap_cons_some passes
  | game event => cases event <;> exact ⟨rfl, rfl⟩
  | _ => exact ⟨rfl, rfl⟩

theorem Exchanging.step {environment : RpcEnvironment} {options : IceAdapterOptions} {lobbyPort : Int}
    {link next : RpcLink} {event : Event} (exchanging : link.Exchanging environment options lobbyPort)
    (steps : link.step environment event = some next) : next.Exchanging environment options lobbyPort := by
  have moves := moves_of_step steps
  obtain ⟨tasks, messages⟩ := adapterEvent?_served environment link event
  refine ⟨exchanging.paired.step steps, ?_, IceAdapter.hears_obey exchanging.hears moves.obeys, ?_⟩
  · intro handler
    rw [moves.serves, List.filterMap_append, List.filterMap_append, tasks, messages]
    exact (exchanging.traced handler).obey moves.obeys
  · rw [moves.announces, exchanging.announced, IceAdapter.obey_grows moves.obeys, List.filterMap_append,
      List.map_append, List.drop_left]

theorem exchanging_initial (environment : RpcEnvironment) (options : IceAdapterOptions) (freePort : Int) :
    (machine environment options freePort).initial.Exchanging environment options
      (IceAdapter.initial options freePort).lobbyPort where
  paired := paired_reaches .initial
  traced _ := ⟨rfl, rfl, [], .nil, .slnil, .slnil⟩
  hears := rfl
  announced := rfl

end RpcLink
end Faf
