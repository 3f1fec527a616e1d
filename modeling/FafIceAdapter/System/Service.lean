import FafIceAdapter.JsonRpc.Requests
import FafIceAdapter.System.LiveAdapter

namespace Faf
open Json JsonRpc Transition

/-- The text that a relay reports for a state. -/
def IceState.name : IceState → String
  | none => "none"
  | new => "new"
  | checking => "checking"
  | connected => "connected"
  | completed => "completed"
  | failed => "failed"
  | disconnected => "disconnected"
  | closed => "closed"

/-- A request without an id. -/
def notification (method : String) (params : List Value) : Value :=
  Requests.message (bytes method) (.arrayValue params) none

/-- What the callbacks of a relay make the adapter tell its client. -/
def Effect.notification? (localPlayerId remotePlayerId : Int) : Effect → Option Value
  | .iceMessage message =>
      some (notification "onIceMsg" [.intValue localPlayerId, .intValue remotePlayerId, message])
  | .state iceState =>
      some (notification "onIceConnectionStateChanged" [.intValue localPlayerId, .intValue remotePlayerId,
        .stringValue (bytes iceState.name)])
  | .connected value =>
      some (notification "onConnected" [.intValue localPlayerId, .intValue remotePlayerId, .booleanValue value])
  | _ => none

def Observation.notification? : Observation → Option Value
  | .requested method params => some (notification method params)
  | _ => none

namespace LiveAdapter

/-- The client hears of the relays of the adapter and of its game. -/
def notifications (before after : LiveAdapter) : List Value :=
  (after.adapter.relays.toList.flatMap fun entry =>
    ((after.peers entry.1).elim [] Relay.effects).filterMap
      (Effect.notification? after.adapter.options.localPlayerId entry.1)) ++
    (after.adapter.trace.drop before.adapter.trace.length).filterMap Observation.notification?

/-- The method that a request names. -/
def methodOf (request : Value) : Option RpcMethod :=
  match request.member (bytes "method") with
  | .stringValue method => RpcMethod.ofName? method
  | _ => none

def unknownMethod (request : Value) : Value :=
  match request.member (bytes "method") with
  | .stringValue method =>
      .stringValue (bytes "RPC callback for method '" ++ method ++ bytes "' not found")
  | _ => .nullValue

/-- The result and the error of a request. -/
def outcome (environment : RpcEnvironment) (request : Value) (live : LiveAdapter) : Value × Value :=
  match methodOf request with
  | some method => (call environment method (paramsOf request).elements live).2
  | none => (.nullValue, unknownMethod request)

/-- A request for an unknown method changes nothing. -/
def serve (environment : RpcEnvironment) (request : Value) (port : Nat) (creation : Creation) (live : LiveAdapter) :
    Option LiveAdapter :=
  match methodOf request with
  | some method => live.step environment (.rpc method (paramsOf request).elements port creation)
  | none => some live.clear

end LiveAdapter

/-- A request that a client sends, with the number of its call. -/
structure ClientRequest where
  call : Nat
  method : Bytes
  params : Value
  id : Option Int

def ClientRequest.message (sent : ClientRequest) : Value := Requests.message sent.method sent.params sent.id

/-- A request with the outcome that it had. -/
structure Reply where
  sent : ClientRequest
  result : Value
  error : Value

def Reply.response (reply : Reply) : Value := respond reply.sent.message reply.result reply.error

def Reply.isIdentified (reply : Reply) : Bool := reply.sent.id.isSome

/-- The run of the result callback that the reply is for. All responses come from the one socket of the client. -/
def Reply.invocation (reply : Reply) : Invocation := ⟨reply.sent.call, reply.result, reply.error, some 0⟩

/-- The adapter executes each request at once and keeps the replies. -/
structure AdapterService where
  live : LiveAdapter
  replies : List Reply

namespace AdapterService

inductive Event where
  | serve (sent : ClientRequest) (port : Nat) (creation : Creation)
  | game (event : GameEvent)
  | peer (remotePlayerId : Int) (event : PeerEvent)

def Event.sent? : Event → Option ClientRequest
  | .serve sent _ _ => some sent
  | .game _ | .peer _ _ => none

def step (environment : RpcEnvironment) (service : AdapterService) : Event → Option AdapterService
  | .serve sent port creation => do
      let live ← service.live.serve environment sent.message port creation
      let (result, error) := service.live.clear.outcome (environment.give port creation) sent.message
      return ⟨live, service.replies ++ [⟨sent, result, error⟩]⟩
  | .game event => do
      let live ← service.live.step environment (.game event)
      return { service with live := live }
  | .peer remotePlayerId event => do
      let live ← service.live.step environment (.peer remotePlayerId event)
      return { service with live := live }

def machine (environment : RpcEnvironment) (options : IceAdapterOptions) (freePort : Int) :
    Machine AdapterService Event where
  initial := ⟨(LiveAdapter.machine environment options freePort).initial, []⟩
  step := step environment

/-- The responses that the server sends. -/
def responses (environment : RpcEnvironment) (service : AdapterService) : Event → List Value
  | .serve sent port creation =>
      if sent.message.isMember (bytes "id") then
        processRequest (service.live.clear.connectRpcMethods (environment.give port creation)) sent.message 0
      else []
  | .game _ | .peer _ _ => []

end AdapterService

section Messages

variable {method : Bytes} {params : Value} {id : Option Int}

theorem message_method : (Requests.message method params id).isMember (bytes "method") ∧
    (Requests.message method params id).member (bytes "method") = .stringValue method := by
  have start : ((Value.nullValue.set (bytes "jsonrpc") (.stringValue (bytes "2.0"))).isNull ||
      (Value.nullValue.set (bytes "jsonrpc") (.stringValue (bytes "2.0"))).isObject) = true := rfl
  cases id with
  | none =>
      rw [Requests.message, Value.isMember_set_of_ne (by decide), Value.member_set_of_ne (by decide)]
      exact ⟨Value.isMember_set_same start _ _, Value.member_set_same start _ _⟩
  | some id =>
      rw [Requests.message, Value.isMember_set_of_ne (by decide), Value.member_set_of_ne (by decide),
        Value.isMember_set_of_ne (by decide), Value.member_set_of_ne (by decide)]
      exact ⟨Value.isMember_set_same start _ _, Value.member_set_same start _ _⟩

theorem message_id : (Requests.message method params id).isMember (bytes "id") = id.isSome ∧
    (Requests.message method params id).member (bytes "id") = id.elim .nullValue .intValue := by
  cases id with
  | none =>
      rw [Requests.message, Value.isMember_set_of_ne (by decide), Value.isMember_set_of_ne (by decide),
        Value.member_set_of_ne (by decide), Value.member_set_of_ne (by decide)]
      exact ⟨rfl, rfl⟩
  | some id =>
      have object : (((Value.nullValue.set (bytes "jsonrpc") (.stringValue (bytes "2.0"))).set (bytes "method")
          (.stringValue method)).set (bytes "params") params).isNull || (((Value.nullValue.set (bytes "jsonrpc")
          (.stringValue (bytes "2.0"))).set (bytes "method") (.stringValue method)).set (bytes "params")
          params).isObject := rfl
      exact ⟨Value.isMember_set_same object _ _, Value.member_set_same object _ _⟩

end Messages

theorem notification_method (method : String) (params : List Value) :
    (notification method params).isMember (bytes "method") := message_method.1

/-- A value that is not a member reads as null. -/
theorem member_of_not_isMember {name : Bytes} {object : Value} (absent : object.isMember name = false) :
    object.member name = .nullValue := by
  cases object with
  | objectValue members =>
      have missing : members.lookup name = none := by
        rw [← Option.not_isSome_iff_eq_none, Bool.not_eq_true]
        exact absent
      rw [Value.member, missing]
      rfl
  | _ => rfl

theorem eq_null {value : Value} (null : value.isNull) : value = .nullValue := by
  cases value <;> first | rfl | contradiction

section Responding

variable {request result error : Value} (exclusive : result.isNull ≠ error.isNull)
include exclusive

/-- A response carries the result and the error of the callback, of which one is null. -/
theorem respond_outcome : (respond request result error).member (bytes "result") = result ∧
    (respond request result error).member (bytes "error") = error := by
  obtain ⟨noResult, noError⟩ := isMember_responseTo request
  have assigned := assigned_responseTo request
  cases nothing : result.isNull with
  | false =>
      have null : error.isNull := by
        rw [nothing] at exclusive
        exact (Bool.not_eq_false _ ▸ exclusive.symm)
      rw [respond, nothing, eq_null null]
      change (Value.set _ _ _).member _ = _ ∧ (Value.set _ _ _).member _ = _
      rw [Value.member_set_same assigned, Value.member_set_of_ne (by decide), member_of_not_isMember noError]
      exact ⟨rfl, rfl⟩
  | true =>
      have present : error.isNull = false := by
        rw [nothing] at exclusive
        exact Bool.eq_false_of_not_eq_true exclusive.symm
      rw [respond, nothing, present, eq_null nothing]
      change (Value.set _ _ _).member _ = _ ∧ (Value.set _ _ _).member _ = _
      rw [Value.member_set_same assigned, Value.member_set_of_ne (by decide), member_of_not_isMember noResult]
      exact ⟨rfl, rfl⟩

omit exclusive in
theorem respond_members (name : Bytes) (other : name ≠ bytes "result") (other' : name ≠ bytes "error") :
    (respond request result error).isMember name = (responseTo request).isMember name ∧
      (respond request result error).member name = (responseTo request).member name := by
  unfold respond
  split
  · exact ⟨Value.isMember_set_of_ne other _, Value.member_set_of_ne other _⟩
  · split
    · exact ⟨Value.isMember_set_of_ne other' _, Value.member_set_of_ne other' _⟩
    · exact ⟨Value.isMember_set_of_ne other' _, Value.member_set_of_ne other' _⟩

end Responding

namespace LiveAdapter

variable (environment : RpcEnvironment) (live : LiveAdapter) (sent : ClientRequest)

theorem methodOf_message : methodOf sent.message = RpcMethod.ofName? sent.method := by
  unfold methodOf ClientRequest.message
  rw [message_method.2]

theorem unknownMethod_message : unknownMethod sent.message =
    .stringValue (bytes "RPC callback for method '" ++ sent.method ++ bytes "' not found") := by
  unfold unknownMethod ClientRequest.message
  rw [message_method.2]

theorem outcome_exclusive : (outcome environment sent.message live).1.isNull ≠
    (outcome environment sent.message live).2.isNull := by
  unfold outcome
  split
  · exact call_exclusive environment _ _ live
  · rw [unknownMethod_message]
    exact Bool.true_eq_false_eq_False

/-- The server gives one response to a request, with its outcome. -/
theorem processRequest_outcome (socket : Nat) :
    processRequest (live.connectRpcMethods environment) sent.message socket =
      [respond sent.message (outcome environment sent.message live).1 (outcome environment sent.message live).2] := by
  have isRequest : sent.message.isMember (bytes "method") := message_method.1
  have named : sent.message.member (bytes "method") = .stringValue sent.method := message_method.2
  rw [processRequest, isRequest, named, outcome, methodOf_message, unknownMethod_message]
  cases known : RpcMethod.ofName? sent.method with
  | none =>
      have missing : (live.connectRpcMethods environment).callbacks sent.method = none := congrArg (Option.map _) known
      simp only [missing]
      rfl
  | some method =>
      have found : (live.connectRpcMethods environment).callbacks sent.method =
          some fun params _ => .ok (call environment method params.elements live).2 := congrArg (Option.map _) known
      simp only [found]
      rfl

end LiveAdapter

theorem Reply.response_method (reply : Reply) : reply.response.isMember (bytes "method") = false := by
  rw [Reply.response, (respond_members (bytes "method") (by decide) (by decide)).1]
  unfold responseTo
  split
  · rw [Value.isMember_set_of_ne (by decide), Value.isMember_set_of_ne (by decide)]
    rfl
  · rfl

/-- The response of an identified request carries its id. -/
theorem Reply.responseId {reply : Reply} {id : Int} (identified : reply.sent.id = some id) (fits : FitsInt32 id) :
    Requests.responseId reply.response = some id := by
  have request : reply.sent.message.isMember (bytes "id") := by
    rw [ClientRequest.message, message_id.1, identified]
    rfl
  have answers : Answers reply.sent.message reply.response := answers_respond request reply.result reply.error
  have outcome := answers.outcome
  have same : reply.response.member (bytes "id") = .intValue id := by
    rw [answers.same, ClientRequest.message, message_id.2, identified]
    rfl
  have either : (reply.response.isMember (bytes "error") || reply.response.isMember (bytes "result")) = true := by
    revert outcome
    cases reply.response.isMember (bytes "result") <;> cases reply.response.isMember (bytes "error") <;> simp
  rw [Requests.responseId, reply.response_method, same]
  simp only [Bool.false_eq_true, if_false, either, if_true, Value.int?, if_pos fits]

/-- Serving a request adds its reply, which is the only response when the request has an id. -/
theorem AdapterService.serve_cases {environment : RpcEnvironment} {service next : AdapterService} {sent : ClientRequest}
    {port : Nat} {creation : Creation} (steps : service.step environment (.serve sent port creation) = some next) :
    ∃ reply, reply.sent = sent ∧ next.replies = service.replies ++ [reply] ∧
      reply.result.isNull ≠ reply.error.isNull ∧
      service.responses environment (.serve sent port creation) =
        if sent.id.isSome then [reply.response] else [] := by
  obtain ⟨live, _, last⟩ := Option.bind_eq_some_iff.mp steps
  obtain rfl := Option.some.inj last
  have exclusive := LiveAdapter.outcome_exclusive (environment.give port creation) service.live.clear sent
  have responses := LiveAdapter.processRequest_outcome (environment.give port creation) service.live.clear sent 0
  have identified : sent.message.isMember (bytes "id") = sent.id.isSome := message_id.1
  refine ⟨⟨sent, _, _⟩, rfl, rfl, exclusive, ?_⟩
  rw [AdapterService.responses, identified, responses]
  rfl

namespace LiveAdapter

end LiveAdapter

namespace AdapterService

end AdapterService

end Faf
