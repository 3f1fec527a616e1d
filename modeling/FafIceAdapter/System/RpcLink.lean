import FafIceAdapter.System.Service

namespace Faf
open Json JsonRpc Transition

/-- The callback runs for a response and not for a failed call. -/
def JsonRpc.Invocation.isAnswer (invocation : Invocation) : Bool := invocation.source.isSome

/-- A client and the adapter, whose connection keeps the order of the messages. The requests that were sent, the
notifications of the adapter and those that the client got are recorded. -/
structure RpcLink where
  client : Requests
  issued : List ClientRequest
  toServer : List ClientRequest
  service : AdapterService
  toClient : List Value
  announced : List Value
  notified : List Value

namespace RpcLink

/-- The client calls a method or a result callback of it ends, the adapter serves a request or handles something else,
and a message of the adapter reaches the client. -/
inductive Event where
  | call (method : Bytes) (paramsArray : Value) (resultCb : Bool)
  | finishes
  | serve (port : Nat) (creation : Creation)
  | game (event : GameEvent)
  | peer (remotePlayerId : Int) (event : PeerEvent)
  | deliver

/-- The request that a call sends, if its parameters are an array and it names a method. -/
def requestOf (client : Requests) (method : Bytes) (paramsArray : Value) (resultCb : Bool) : List ClientRequest :=
  if !paramsArray.isArray then []
  else if method = [] then []
  else [⟨client.calls.length, method, paramsArray, if resultCb then some client.currentId else none⟩]

/-- The client gets the notifications of a step before the responses. -/
def perform (environment : RpcEnvironment) (event : AdapterService.Event) (link : RpcLink) : Option RpcLink := do
  let service ← link.service.step environment event
  let notifications := link.service.live.notifications service.live
  return { link with
    service := service
    toClient := link.toClient ++ notifications ++ link.service.responses environment event
    announced := link.announced ++ notifications }

/-- The client reads a message while no result callback runs. -/
def receive (message : Value) (rest : List Value) (link : RpcLink) : Option RpcLink :=
  if link.client.running = [] then
    some { link with
      client := link.client.processJsonMessage message 0
      toClient := rest
      notified := if message.isMember (bytes "method") then link.notified ++ [message] else link.notified }
  else none

def step (environment : RpcEnvironment) (link : RpcLink) : Event → Option RpcLink
  | .call method paramsArray resultCb => do
      let client ← link.client.sendRequest method paramsArray none resultCb true
      let sent := requestOf link.client method paramsArray resultCb
      return { link with client := client, issued := link.issued ++ sent, toServer := link.toServer ++ sent }
  | .finishes => do
      let client ← link.client.finish
      return { link with client := client }
  | .serve port creation =>
      match link.toServer with
      | [] => none
      | sent :: rest => { link with toServer := rest }.perform environment (.serve sent port creation)
  | .game event => link.perform environment (.game event)
  | .peer remotePlayerId event => link.perform environment (.peer remotePlayerId event)
  | .deliver =>
      match link.toClient with
      | [] => none
      | message :: rest => link.receive message rest

def machine (environment : RpcEnvironment) (options : IceAdapterOptions) (freePort : Int) : Machine RpcLink Event where
  initial :=
    { client := .initial
      issued := []
      toServer := []
      service := (AdapterService.machine environment options freePort).initial
      toClient := []
      announced := []
      notified := [] }
  step := step environment

/-- The client waits for the identified ones of some requests, each under its own id. -/
structure Awaits (client : Requests) (outstanding : List ClientRequest) : Prop where
  consistent : client.Consistent
  nonneg : 0 ≤ client.currentId
  running : ∀ id, .response id ∈ client.running → id < client.currentId
  stored : ∀ sent ∈ outstanding, ∀ id, sent.id = some id →
    FitsInt32 id ∧ client.currentRequests id = some sent.call ∧ .response id ∉ client.running
  unique : (outstanding.filterMap ClientRequest.id).Nodup

/-- What a call does to the requests of a client, and what it sends. -/
theorem sendRequest_sent {client next : Requests} {method : Bytes} {paramsArray : Value} {resultCb : Bool}
    (sends : client.sendRequest method paramsArray none resultCb true = some next) :
    (∃ error, requestOf client method paramsArray resultCb = [] ∧ next = client.reject none resultCb error) ∨
      (requestOf client method paramsArray resultCb = [⟨client.calls.length, method, paramsArray, none⟩] ∧
        next = client.register ⟨none, none⟩) ∨
      (requestOf client method paramsArray resultCb =
          [⟨client.calls.length, method, paramsArray, some client.currentId⟩] ∧
        FitsInt32 (client.currentId + 1) ∧ next = client.store none) := by
  unfold Requests.sendRequest at sends
  unfold requestOf
  split at sends
  · rename_i other
    exact .inl ⟨_, if_pos other, (Option.some.inj sends).symm⟩
  · rename_i array
    rw [if_neg array]
    split at sends
    · rename_i empty
      exact .inl ⟨_, if_pos empty, (Option.some.inj sends).symm⟩
    · rename_i named
      rw [if_neg named]
      cases resultCb with
      | false => exact .inr (.inl ⟨rfl, (Option.some.inj sends).symm⟩)
      | true =>
          obtain ⟨fits, last⟩ := Option.ite_none_left_eq_some.mp sends
          exact .inr (.inr ⟨rfl, not_not.mp fits, (Option.some.inj last).symm⟩)

section Waiting

variable {client next : Requests} {outstanding : List ClientRequest} (awaits : Awaits client outstanding)
include awaits

theorem Awaits.sublist {fewer : List ClientRequest} (part : fewer.Sublist outstanding) : Awaits client fewer where
  consistent := awaits.consistent
  nonneg := awaits.nonneg
  running := awaits.running
  stored sent member := awaits.stored sent (part.subset member)
  unique := awaits.unique.sublist (part.filterMap ClientRequest.id)

/-- An awaited id is below the next one. -/
theorem Awaits.id_lt {id : Int} (known : id ∈ outstanding.filterMap ClientRequest.id) : id < client.currentId := by
  obtain ⟨sent, member, identified⟩ := List.mem_filterMap.mp known
  obtain ⟨_, found, _⟩ := awaits.stored sent member id identified
  exact awaits.consistent.below id sent.call found

theorem Awaits.register (call : Call) : Awaits (client.register call) outstanding where
  consistent := awaits.consistent.register call
  nonneg := awaits.nonneg
  running := awaits.running
  stored := awaits.stored
  unique := awaits.unique

theorem Awaits.reject (resultCb : Bool) (error : Bytes) : Awaits (client.reject none resultCb error) outstanding := by
  have consistent := awaits.consistent.reject none resultCb error
  cases resultCb with
  | false => exact awaits.register _
  | true =>
      have other (id : Int) : Frame.response id ≠ .sendRequest := by simp
      refine ⟨consistent, awaits.nonneg, ?_, ?_, awaits.unique⟩
      · intro id member
        exact awaits.running id ((List.mem_cons.mp member).resolve_left (other id))
      · intro sent member id identified
        obtain ⟨fits, found, idle⟩ := awaits.stored sent member id identified
        exact ⟨fits, found, List.not_mem_cons_of_ne_of_not_mem (other id) idle⟩

/-- A stored request is awaited under the next id. -/
theorem Awaits.store (fits : FitsInt32 (client.currentId + 1)) (method : Bytes) (paramsArray : Value) :
    Awaits (client.store none)
      (outstanding ++ [⟨client.calls.length, method, paramsArray, some client.currentId⟩]) where
  consistent := awaits.consistent.store none
  nonneg := by
    have before := awaits.nonneg
    change 0 ≤ client.currentId + 1
    omega
  running id member := by
    have before := awaits.running id member
    change id < client.currentId + 1
    omega
  stored sent member id identified := by
    rcases List.mem_append.mp member with known | last
    · obtain ⟨fits, found, idle⟩ := awaits.stored sent known id identified
      have below := awaits.consistent.below id sent.call found
      refine ⟨fits, ?_, idle⟩
      change Function.update client.currentRequests client.currentId _ id = _
      rw [Function.update_of_ne (by omega), found]
    · obtain rfl := List.mem_singleton.mp last
      obtain rfl := Option.some.inj identified
      refine ⟨⟨?_, ?_⟩, Function.update_self .., fun member => ?_⟩
      · have before := awaits.nonneg
        omega
      · have after := fits.2
        omega
      · exact lt_irrefl _ (awaits.running _ member)
  unique := by
    rw [List.filterMap_append, List.nodup_append]
    refine ⟨awaits.unique, List.nodup_singleton _, ?_⟩
    intro id known other last
    have below := awaits.id_lt known
    rw [List.mem_singleton.mp last]
    omega

theorem Awaits.sendRequest {method : Bytes} {paramsArray : Value} {resultCb : Bool}
    (sends : client.sendRequest method paramsArray none resultCb true = some next) :
    Awaits next (outstanding ++ requestOf client method paramsArray resultCb) := by
  rcases sendRequest_sent sends with ⟨error, none, rfl⟩ | ⟨one, rfl⟩ | ⟨one, fits, rfl⟩
  · rw [none, List.append_nil]
    exact awaits.reject resultCb error
  · rw [one]
    have registered := awaits.register ⟨none, none⟩
    refine ⟨registered.consistent, registered.nonneg, registered.running, ?_, ?_⟩
    · intro sent member id identified
      rcases List.mem_append.mp member with known | last
      · exact registered.stored sent known id identified
      · rw [List.mem_singleton.mp last] at identified
        contradiction
    · rw [List.filterMap_append]
      exact (List.append_nil _).symm ▸ registered.unique
  · rw [one]
    exact awaits.store fits method paramsArray

/-- The end of a callback forgets only its own request. -/
theorem Awaits.finish (finished : client.finish = some next) : Awaits next outstanding := by
  have consistent := awaits.consistent.finish finished
  unfold Requests.finish at finished
  split at finished
  · contradiction
  · rename_i rest running
    obtain rfl := Option.some.inj finished
    refine ⟨consistent, awaits.nonneg, ?_, ?_, awaits.unique⟩
    · intro id member
      exact awaits.running id (by rw [running]; exact List.mem_cons_of_mem _ member)
    · intro sent member id identified
      obtain ⟨fits, found, idle⟩ := awaits.stored sent member id identified
      rw [running] at idle
      exact ⟨fits, found, fun later => idle (List.mem_cons_of_mem _ later)⟩
  · rename_i erased rest running
    obtain rfl := Option.some.inj finished
    refine ⟨consistent, awaits.nonneg, ?_, ?_, awaits.unique⟩
    · intro id member
      exact awaits.running id (by rw [running]; exact List.mem_cons_of_mem _ member)
    · intro sent member id identified
      obtain ⟨fits, found, idle⟩ := awaits.stored sent member id identified
      rw [running] at idle
      have different : id ≠ erased := by
        rintro rfl
        exact idle List.mem_cons_self
      refine ⟨fits, ?_, fun later => idle (List.mem_cons_of_mem _ later)⟩
      exact (Function.update_of_ne different _ _).trans found

end Waiting

/-- The response to the first awaited request runs its callback. -/
theorem Awaits.answer {client : Requests} {reply : Reply} {later : List ClientRequest}
    (awaits : Awaits client (reply.sent :: later)) (identified : reply.isIdentified)
    (exclusive : reply.result.isNull ≠ reply.error.isNull) (idle : client.running = []) :
    Awaits (client.processJsonMessage reply.response 0) later ∧
      (client.processJsonMessage reply.response 0).invocations = client.invocations ++ [reply.invocation] ∧
      (client.processJsonMessage reply.response 0).calls = client.calls := by
  obtain ⟨id, same⟩ := Option.isSome_iff_exists.mp identified
  obtain ⟨fits, found, _⟩ := awaits.stored reply.sent List.mem_cons_self id same
  obtain ⟨result, error⟩ := @respond_outcome reply.sent.message _ _ exclusive
  have processed : client.processJsonMessage reply.response 0 = client.invoke (.response id) reply.invocation := by
    rw [Requests.processJsonMessage, reply.responseId same fits]
    simp only [found]
    rw [Reply.response, result, error]
    rfl
  have unique := awaits.unique
  rw [List.filterMap_cons_some same, List.nodup_cons] at unique
  rw [processed]
  refine ⟨⟨awaits.consistent.invoke _ (awaits.consistent.call_lt found), awaits.nonneg, ?_, ?_, unique.2⟩, rfl, rfl⟩
  · intro other member
    change _ ∈ Frame.response id :: client.running at member
    rw [idle] at member
    obtain rfl := Frame.response.inj (List.mem_singleton.mp member)
    exact awaits.id_lt (List.mem_filterMap.mpr ⟨_, List.mem_cons_self, same⟩)
  · intro sent member other known
    obtain ⟨fits, found, _⟩ := awaits.stored sent (List.mem_cons_of_mem _ member) other known
    refine ⟨fits, found, ?_⟩
    change _ ∉ Frame.response id :: client.running
    rw [idle]
    intro running
    obtain rfl := Frame.response.inj (List.mem_singleton.mp running)
    exact unique.1 (List.mem_filterMap.mpr ⟨sent, member, known⟩)

/-- A failed call is no answer. -/
theorem answers_sendRequest {client next : Requests} {method : Bytes} {paramsArray : Value} {resultCb : Bool}
    (sends : client.sendRequest method paramsArray none resultCb true = some next) :
    next.invocations.filter Invocation.isAnswer = client.invocations.filter Invocation.isAnswer := by
  rcases Requests.sendRequest_invocations sends with same | ⟨error, same⟩
  · rw [same]
  · rw [same, List.filter_append]
    exact List.append_nil _

theorem calls_sendRequest {client next : Requests} {method : Bytes} {paramsArray : Value} {resultCb : Bool}
    (sends : client.sendRequest method paramsArray none resultCb true = some next) :
    next.calls.length = client.calls.length + 1 := by
  rcases sendRequest_sent sends with ⟨error, _, rfl⟩ | ⟨_, rfl⟩ | ⟨_, _, rfl⟩
  · cases resultCb <;> simp [Requests.reject, Requests.register, Requests.invoke]
  · simp [Requests.register]
  · simp [Requests.store, Requests.register]

/-- A request carries the number of its call. -/
theorem call_requestOf {client : Requests} {method : Bytes} {paramsArray : Value} {resultCb : Bool} :
    ∀ sent ∈ requestOf client method paramsArray resultCb, sent.call = client.calls.length := by
  intro sent member
  unfold requestOf at member
  split at member
  · contradiction
  · split at member
    · contradiction
    · rw [List.mem_singleton.mp member]

/-- A message of the server with a method is a notification. -/
def isNotification (message : Value) : Bool := message.isMember (bytes "method")

/-- The answers are those of the first identified replies, and the responses of the others are on their way. -/
def Answered (client : Requests) (replies : List Reply) (toServer : List ClientRequest) (toClient : List Value) :
    Prop :=
  ∃ done pending, replies.filter Reply.isIdentified = done ++ pending ∧
    client.invocations.filter Invocation.isAnswer = done.map Reply.invocation ∧
    toClient.filter (!isNotification ·) = pending.map Reply.response ∧
    Awaits client (pending.map Reply.sent ++ toServer)

structure Paired (link : RpcLink) : Prop where
  increasing : (link.issued.map ClientRequest.call).Pairwise (· < ·)
  below : ∀ sent ∈ link.issued, sent.call < link.client.calls.length
  served : link.issued = link.service.replies.map Reply.sent ++ link.toServer
  answered : Answered link.client link.service.replies link.toServer link.toClient
  exclusive : ∀ reply ∈ link.service.replies, reply.result.isNull ≠ reply.error.isNull
  notified : link.notified ++ link.toClient.filter isNotification = link.announced

theorem notifications_filter (before after : LiveAdapter) :
    (before.notifications after).filter isNotification = before.notifications after := by
  apply List.filter_eq_self.mpr
  intro message member
  rcases List.mem_append.mp member with relay | game
  · obtain ⟨entry, _, inside⟩ := List.mem_flatMap.mp relay
    obtain ⟨effect, _, same⟩ := List.mem_filterMap.mp inside
    cases effect with
    | iceMessage _ | state _ | connected _ =>
        obtain rfl := Option.some.inj same
        exact notification_method _ _
    | _ => contradiction
  · obtain ⟨observation, _, same⟩ := List.mem_filterMap.mp game
    cases observation with
    | requested method params =>
        obtain rfl := Option.some.inj same
        exact notification_method _ _
    | _ => contradiction

theorem notifications_others (before after : LiveAdapter) :
    (before.notifications after).filter (!isNotification ·) = [] := by
  rw [← notifications_filter, List.filter_filter]
  apply List.filter_eq_nil_iff.mpr
  intro message _
  simp

section Steps

variable {environment : RpcEnvironment} {link next : RpcLink}

/-- A step that serves no request sends notifications only. -/
theorem Paired.perform {event : AdapterService.Event} (paired : link.Paired) (other : event.sent? = none)
    (performs : link.perform environment event = some next) : next.Paired := by
  obtain ⟨service, steps, last⟩ := Option.bind_eq_some_iff.mp performs
  obtain rfl := Option.some.inj last
  obtain ⟨kept, silent⟩ : service.replies = link.service.replies ∧ link.service.responses environment event = [] := by
    cases event with
    | serve sent port creation => contradiction
    | game event =>
        obtain ⟨live, _, last⟩ := Option.bind_eq_some_iff.mp steps
        obtain rfl := Option.some.inj last
        exact ⟨rfl, rfl⟩
    | peer remotePlayerId event =>
        obtain ⟨live, _, last⟩ := Option.bind_eq_some_iff.mp steps
        obtain rfl := Option.some.inj last
        exact ⟨rfl, rfl⟩
  refine ⟨paired.increasing, paired.below, ?_, ?_, ?_, ?_⟩
  · simp only [kept]
    exact paired.served
  · simp only [kept, silent, List.append_nil]
    obtain ⟨done, pending, replies, answers, responses, awaits⟩ := paired.answered
    refine ⟨done, pending, replies, answers, ?_, awaits⟩
    rw [List.filter_append, notifications_others, List.append_nil, responses]
  · simp only [kept]
    exact paired.exclusive
  · simp only [silent, List.append_nil, List.filter_append, notifications_filter]
    rw [← List.append_assoc, paired.notified]

/-- A request that is served gets its response when it has an id. -/
theorem Paired.serve {sent : ClientRequest} {rest : List ClientRequest} {port : Nat} {creation : Creation}
    (paired : link.Paired) (first : link.toServer = sent :: rest)
    (performs : { link with toServer := rest }.perform environment (.serve sent port creation) = some next) :
    next.Paired := by
  obtain ⟨service, steps, last⟩ := Option.bind_eq_some_iff.mp performs
  obtain rfl := Option.some.inj last
  obtain ⟨reply, rfl, added, exclusive, responses⟩ := AdapterService.serve_cases steps
  refine ⟨paired.increasing, paired.below, ?_, ?_, ?_, ?_⟩
  · have served := paired.served
    rw [first] at served
    simp only [added, List.map_append, List.map_singleton, List.append_assoc, List.singleton_append]
    exact served
  · obtain ⟨done, pending, replies, answers, pend, awaits⟩ := paired.answered
    rw [first] at awaits
    simp only [added, responses]
    cases known : reply.sent.id.isSome with
    | true =>
        refine ⟨done, pending ++ [reply], ?_, answers, ?_, ?_⟩
        · rw [List.filter_append, replies, List.filter_cons_of_pos (by exact known), List.append_assoc]
          rfl
        · rw [List.filter_append, List.filter_append, notifications_others, List.append_nil, pend, if_pos rfl,
            List.filter_cons_of_pos (by rw [isNotification, reply.response_method]; rfl), List.map_append]
          rfl
        · rw [List.map_append, List.append_assoc]
          exact awaits
    | false =>
        refine ⟨done, pending, ?_, answers, ?_, ?_⟩
        · rw [List.filter_append, replies, List.filter_cons_of_neg (by simp [Reply.isIdentified, known])]
          exact List.append_nil _
        · rw [if_neg Bool.false_ne_true, List.append_nil, List.filter_append, notifications_others, List.append_nil,
            pend]
        · exact awaits.sublist (List.Sublist.append_left (List.sublist_cons_self reply.sent rest) _)
  · simp only [added]
    exact List.forall_mem_append.mpr ⟨paired.exclusive, List.forall_mem_singleton.mpr exclusive⟩
  · have notified := paired.notified
    have others : (if reply.sent.id.isSome then [reply.response] else []).filter isNotification = [] := by
      split
      · rw [List.filter_cons_of_neg (by rw [isNotification, reply.response_method]; exact Bool.false_ne_true)]
        rfl
      · rfl
    simp only [responses, others, List.filter_append, notifications_filter, List.append_nil]
    rw [← List.append_assoc, notified]

theorem Paired.receive {message : Value} {rest : List Value} (paired : link.Paired)
    (first : link.toClient = message :: rest) (receives : link.receive message rest = some next) : next.Paired := by
  obtain ⟨idle, last⟩ := Option.ite_none_right_eq_some.mp receives
  obtain rfl := Option.some.inj last
  obtain ⟨done, pending, replies, answers, responses, awaits⟩ := paired.answered
  have notified := paired.notified
  rw [first] at responses notified
  cases kind : isNotification message with
  | true =>
      have ignored : link.client.processJsonMessage message 0 = link.client := by
        have isRequest : message.isMember (bytes "method") = true := kind
        rw [Requests.processJsonMessage, Requests.responseId, isRequest]
        rfl
      rw [List.filter_cons_of_neg (by simp [kind])] at responses
      rw [List.filter_cons_of_pos kind] at notified
      refine ⟨paired.increasing, ?_, paired.served, ?_, paired.exclusive, ?_⟩
      · simp only [ignored]
        exact paired.below
      · simp only [ignored]
        exact ⟨done, pending, replies, answers, responses, awaits⟩
      · have isRequest : message.isMember (bytes "method") = true := kind
        simp only [isRequest, if_true]
        rw [List.append_assoc]
        exact notified
  | false =>
      rw [List.filter_cons_of_pos (by simp [kind])] at responses
      rw [List.filter_cons_of_neg (by simp [kind])] at notified
      obtain ⟨reply, later, rfl, same, others⟩ := List.map_eq_cons_iff.mp responses.symm
      have member : reply ∈ link.service.replies.filter Reply.isIdentified := by
        rw [replies]
        exact List.mem_append_right done List.mem_cons_self
      obtain ⟨inside, identified⟩ := List.mem_filter.mp member
      obtain ⟨awaits', invoked, calls⟩ := awaits.answer identified (paired.exclusive reply inside) idle
      rw [same] at awaits' invoked calls
      refine ⟨paired.increasing, ?_, paired.served, ?_, paired.exclusive, ?_⟩
      · simp only [calls]
        exact paired.below
      · refine ⟨done ++ [reply], later, by rw [replies, List.append_cons], ?_, others.symm, awaits'⟩
        simp only [invoked]
        rw [List.filter_append, answers, List.map_append]
        rfl
      · have isResponse : message.isMember (bytes "method") = false := kind
        simp only [isResponse, Bool.false_eq_true, if_false]
        exact notified

theorem Paired.step {event : Event} (paired : link.Paired) (steps : link.step environment event = some next) :
    next.Paired := by
  cases event with
  | call method paramsArray resultCb =>
      obtain ⟨client, sends, last⟩ := Option.bind_eq_some_iff.mp steps
      obtain rfl := Option.some.inj last
      obtain ⟨done, pending, replies, answers, responses, awaits⟩ := paired.answered
      have counted := calls_sendRequest sends
      have numbered := @call_requestOf link.client method paramsArray resultCb
      refine ⟨?_, ?_, ?_, ?_, paired.exclusive, paired.notified⟩
      · rw [List.map_append, List.pairwise_append]
        refine ⟨paired.increasing, ?_, ?_⟩
        · unfold requestOf
          split_ifs <;> simp
        · intro earlier member later member'
          obtain ⟨sent, known, rfl⟩ := List.mem_map.mp member
          obtain ⟨fresh, new, rfl⟩ := List.mem_map.mp member'
          rw [numbered fresh new]
          exact paired.below sent known
      · intro sent member
        change sent.call < client.calls.length
        rcases List.mem_append.mp member with known | new
        · have before := paired.below sent known
          omega
        · rw [numbered sent new]
          omega
      · rw [paired.served, List.append_assoc]
      · refine ⟨done, pending, replies, (answers_sendRequest sends).trans answers, responses, ?_⟩
        rw [← List.append_assoc]
        exact awaits.sendRequest sends
  | finishes =>
      obtain ⟨client, finished, last⟩ := Option.bind_eq_some_iff.mp steps
      obtain rfl := Option.some.inj last
      obtain ⟨done, pending, replies, answers, responses, awaits⟩ := paired.answered
      have invocations := Requests.finish_invocations finished
      refine ⟨paired.increasing, ?_, paired.served, ?_, paired.exclusive, paired.notified⟩
      · have calls : client.calls = link.client.calls := by
          unfold Requests.finish at finished
          split at finished
          · contradiction
          · obtain rfl := Option.some.inj finished
            rfl
          · obtain rfl := Option.some.inj finished
            rfl
        simp only [calls]
        exact paired.below
      · refine ⟨done, pending, replies, ?_, responses, awaits.finish finished⟩
        rw [← answers]
        exact congrArg (List.filter Invocation.isAnswer) invocations
  | serve port creation =>
      simp only [RpcLink.step] at steps
      split at steps
      · contradiction
      · rename_i sent rest first
        exact paired.serve first steps
  | game event => exact paired.perform rfl steps
  | peer remotePlayerId event => exact paired.perform rfl steps
  | deliver =>
      simp only [RpcLink.step] at steps
      split at steps
      · contradiction
      · rename_i message rest first
        exact paired.receive first steps

end Steps

section Runs

variable {environment : RpcEnvironment} {options : IceAdapterOptions} {freePort : Int} {events : List Event}
  {link : RpcLink}

theorem paired_reaches (run : (machine environment options freePort).Reaches (fun _ _ => True) events link) :
    link.Paired := by
  apply run.invariant Paired
  · refine ⟨List.Pairwise.nil, List.forall_mem_nil _, rfl, ⟨[], [], rfl, rfl, rfl, ?_⟩, List.forall_mem_nil _, rfl⟩
    exact ⟨Requests.consistent_initial, le_rfl, fun _ running => absurd running List.not_mem_nil,
      List.forall_mem_nil _, List.nodup_nil⟩
  · intro link event next paired _ steps
    exact paired.step steps

end Runs

def plainMachine : Machine RpcLink Event := machine LiveAdapter.plainEnvironment ⟨1, bytes "Rhiza", 6113⟩ 6112

end RpcLink
end Faf
