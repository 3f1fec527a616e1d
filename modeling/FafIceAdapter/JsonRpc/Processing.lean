import FafIceAdapter.Json.Object
import FafIceAdapter.Json.Sample

namespace Faf.JsonRpc
open Json

/-- An asynchronous callback gives a result or an error to the function that it received for it. -/
inductive Completion where
  | result (value : Value)
  | error (value : Value)

/-- The registered callbacks. A synchronous one sets its result and its error, which start as null, or
throws. An asynchronous one completes its request any number of times, in its call or later. -/
structure Callbacks where
  callbacks : Bytes → Option (Value → Nat → Except Exception (Value × Value))
  callbacksAsync : Bytes → Option (Value → Nat → List Completion)

/-- The members that every response to a request has. -/
def responseTo (request : Value) : Value :=
  let response := Value.nullValue.set (bytes "jsonrpc") (.stringValue (bytes "2.0"))
  if request.isMember (bytes "id") then response.set (bytes "id") (request.member (bytes "id")) else response

def invalidRequest (request : Value) (message : Bytes) : Value :=
  (responseTo request).set (bytes "error")
    ((Value.nullValue.set (bytes "code") (.intValue (-1))).set (bytes "message") (.stringValue message))

/-- Parameters that are no array are ignored. -/
def paramsOf (request : Value) : Value :=
  if request.isMember (bytes "params") && (request.member (bytes "params")).isArray then
    request.member (bytes "params")
  else .arrayValue []

/-- A result comes before an error. -/
def respond (request result error : Value) : Value :=
  if !result.isNull then (responseTo request).set (bytes "result") result
  else if !error.isNull then (responseTo request).set (bytes "error") error
  else (responseTo request).set (bytes "error") (.stringValue (bytes "invalid response"))

def complete (request : Value) : Completion → Value
  | .result value => (responseTo request).set (bytes "result") value
  | .error value => (responseTo request).set (bytes "error") value

/-- The responses that are given to the response callback. An exception of a callback is logged. -/
def processRequest (table : Callbacks) (request : Value) (socket : Nat) : List Value :=
  if !request.isMember (bytes "method") then [invalidRequest request (bytes "missing 'method' parameter")]
  else
    match request.member (bytes "method") with
    | .stringValue method =>
        match table.callbacks method with
        | some callback =>
            match callback (paramsOf request) socket with
            | .ok (result, error) => [respond request result error]
            | .error _ => []
        | none =>
            match table.callbacksAsync method with
            | some callback => (callback (paramsOf request) socket).map (complete request)
            | none =>
                [(responseTo request).set (bytes "error")
                  (.stringValue (bytes "RPC callback for method '" ++ method ++ bytes "' not found"))]
    | _ => [invalidRequest request (bytes "'method' parameter must be a string")]

/-- The texts that a message from a socket makes the endpoint send, each with its receiver. A notification
is not answered. -/
def processJsonMessage (jsonCpp : JsonCpp) (table : Callbacks) (jsonMessage : Value) (socket : Nat) :
    List (Bytes × Nat) :=
  if jsonMessage.isMember (bytes "method") && jsonMessage.isMember (bytes "id") then
    (processRequest table jsonMessage socket).map fun response => (jsonCpp.write response, socket)
  else []

/-- The response carries the id of the request and exactly one of result and error. -/
structure Answers (request response : Value) : Prop where
  identified : response.isMember (bytes "id")
  same : response.member (bytes "id") = request.member (bytes "id")
  outcome : response.isMember (bytes "result") ≠ response.isMember (bytes "error")

/-- No callback of the method throws, and an asynchronous one completes the request once. -/
def Completes (table : Callbacks) (request : Value) (socket : Nat) : Prop :=
  match request.member (bytes "method") with
  | .stringValue method =>
      match table.callbacks method, table.callbacksAsync method with
      | some callback, _ => ∃ result error, callback (paramsOf request) socket = .ok (result, error)
      | none, some callback => ∃ completion, callback (paramsOf request) socket = [completion]
      | none, none => True
  | _ => True

theorem isObject_responseTo (request : Value) : (responseTo request).isObject := by
  unfold responseTo
  split <;> rfl

theorem assigned_responseTo (request : Value) :
    (responseTo request).isNull || (responseTo request).isObject := by
  rw [isObject_responseTo, Bool.or_true]

/-- A response has neither outcome before one is assigned. -/
theorem isMember_responseTo (request : Value) :
    (responseTo request).isMember (bytes "result") = false ∧
      (responseTo request).isMember (bytes "error") = false := by
  unfold responseTo
  split
  · rw [Value.isMember_set_of_ne (by decide), Value.isMember_set_of_ne (by decide)]
    exact ⟨rfl, rfl⟩
  · exact ⟨rfl, rfl⟩

section Answered

variable {request : Value} (identified : request.isMember (bytes "id"))
include identified

theorem responseTo_id : (responseTo request).isMember (bytes "id") ∧
    (responseTo request).member (bytes "id") = request.member (bytes "id") := by
  unfold responseTo
  rw [if_pos identified]
  exact ⟨Value.isMember_set_same rfl _ _, Value.member_set_same rfl _ _⟩

theorem answers_result (value : Value) : Answers request ((responseTo request).set (bytes "result") value) where
  identified := by
    rw [Value.isMember_set_of_ne (by decide)]
    exact (responseTo_id identified).1
  same := by
    rw [Value.member_set_of_ne (by decide)]
    exact (responseTo_id identified).2
  outcome := by
    rw [Value.isMember_set_same (assigned_responseTo request), Value.isMember_set_of_ne (by decide),
      (isMember_responseTo request).2]
    decide

theorem answers_error (value : Value) : Answers request ((responseTo request).set (bytes "error") value) where
  identified := by
    rw [Value.isMember_set_of_ne (by decide)]
    exact (responseTo_id identified).1
  same := by
    rw [Value.member_set_of_ne (by decide)]
    exact (responseTo_id identified).2
  outcome := by
    rw [Value.isMember_set_same (assigned_responseTo request), Value.isMember_set_of_ne (by decide),
      (isMember_responseTo request).1]
    decide

theorem answers_respond (result error : Value) : Answers request (respond request result error) := by
  unfold respond
  split
  · exact answers_result identified result
  · split
    · exact answers_error identified error
    · exact answers_error identified _

theorem answers_complete (completion : Completion) : Answers request (complete request completion) := by
  cases completion with
  | result value => exact answers_result identified value
  | error value => exact answers_error identified value

/-- Whatever is given to the response callback answers the request. -/
theorem answers_processRequest (table : Callbacks) (socket : Nat) :
    ∀ response ∈ processRequest table request socket, Answers request response := by
  intro response member
  unfold processRequest at member
  split at member
  · rw [List.mem_singleton.mp member]
    exact answers_error identified _
  · split at member
    · split at member
      · split at member
        · rw [List.mem_singleton.mp member]
          exact answers_respond identified _ _
        · contradiction
      · split at member
        · obtain ⟨completion, _, rfl⟩ := List.mem_map.mp member
          exact answers_complete identified completion
        · rw [List.mem_singleton.mp member]
          exact answers_error identified _
    · rw [List.mem_singleton.mp member]
      exact answers_error identified _

end Answered

/-- One response is given exactly when no callback throws and an asynchronous one completes once. -/
theorem processRequest_one_iff (table : Callbacks) {request : Value}
    (isRequest : request.isMember (bytes "method")) (socket : Nat) :
    (∃ response, processRequest table request socket = [response]) ↔ Completes table request socket := by
  unfold processRequest Completes
  rw [isRequest]
  cases request.member (bytes "method") with
  | stringValue method =>
      cases sync : table.callbacks method with
      | some callback =>
          cases outcome : callback (paramsOf request) socket with
          | error exception => simp [sync, outcome]
          | ok pair =>
              obtain ⟨result, error⟩ := pair
              simp [sync, outcome]
      | none =>
          cases async : table.callbacksAsync method with
          | some callback => simp [sync, async, List.map_eq_singleton_iff]
          | none => simp [sync, async]
  | _ => simp

/-- A request is answered exactly once, to its socket, exactly when its callback does not throw and an
asynchronous callback completes it once. A notification is never answered. -/
theorem processJsonMessage_answers_iff (jsonCpp : JsonCpp) (table : Callbacks) (request : Value)
    (isRequest : request.isMember (bytes "method")) (socket : Nat) :
    (request.isMember (bytes "id") →
      ((∃ response, processJsonMessage jsonCpp table request socket = [(jsonCpp.write response, socket)] ∧
        Answers request response) ↔ Completes table request socket)) ∧
      (request.isMember (bytes "id") = false → processJsonMessage jsonCpp table request socket = []) := by
  constructor
  · intro identified
    have sent : processJsonMessage jsonCpp table request socket =
        (processRequest table request socket).map fun response => (jsonCpp.write response, socket) := by
      rw [processJsonMessage, isRequest, identified]
      rfl
    rw [sent, ← processRequest_one_iff table isRequest socket]
    constructor
    · intro answered
      obtain ⟨_, mapped, _⟩ := answered
      obtain ⟨response, given, _⟩ := List.map_eq_singleton_iff.mp mapped
      exact ⟨response, given⟩
    · intro one
      obtain ⟨response, given⟩ := one
      refine ⟨response, by rw [given]; rfl, ?_⟩
      exact answers_processRequest identified table socket response (by rw [given]; exact List.mem_singleton.mpr rfl)
  · intro notification
    rw [processJsonMessage, isRequest, notification]
    rfl

/-- A callback that is registered for every method. -/
def Callbacks.always (callback : Value → Nat → Except Exception (Value × Value)) : Callbacks where
  callbacks _ := some callback
  callbacksAsync _ := none

/-- A request with a numeric id and the name of a method. -/
def sampleRequest : Value :=
  .objectValue [(bytes "id", .intValue 7), (bytes "method", .stringValue (bytes "status"))]

/-- A callback that sets neither result nor error still answers its request. -/
theorem processJsonMessage_answers_neither :
    (sampleRequest.isMember (bytes "id") →
      ((∃ response, processJsonMessage (Sample.jsonCpp fun _ => (false, .nullValue))
          (.always fun _ _ => .ok (.nullValue, .nullValue)) sampleRequest 3 =
            [((Sample.jsonCpp fun _ => (false, .nullValue)).write response, 3)] ∧
        Answers sampleRequest response) ↔
          Completes (.always fun _ _ => .ok (.nullValue, .nullValue)) sampleRequest 3)) ∧
      (sampleRequest.isMember (bytes "id") = false →
        processJsonMessage (Sample.jsonCpp fun _ => (false, .nullValue))
          (.always fun _ _ => .ok (.nullValue, .nullValue)) sampleRequest 3 = []) :=
  processJsonMessage_answers_iff (Sample.jsonCpp fun _ => (false, .nullValue))
    (.always fun _ _ => .ok (.nullValue, .nullValue)) sampleRequest rfl 3

/-- A callback that throws leaves its request without an answer. -/
theorem processJsonMessage_throwing : ¬ ∀ (jsonCpp : JsonCpp) (table : Callbacks) (request : Value)
    (socket : Nat), (∀ method, table.callbacksAsync method = none) → request.isMember (bytes "method") →
    request.isMember (bytes "id") →
    ∃ response, processJsonMessage jsonCpp table request socket = [(jsonCpp.write response, socket)] ∧
      Answers request response := by
  intro claim
  obtain ⟨response, sent, _⟩ := claim (Sample.jsonCpp fun _ => (false, .nullValue))
    (.always fun _ _ => .error ⟨"failed"⟩) sampleRequest 3 (fun _ => rfl) rfl rfl
  have silent : processJsonMessage (Sample.jsonCpp fun _ => (false, .nullValue))
      (.always fun _ _ => .error ⟨"failed"⟩) sampleRequest 3 = [] := rfl
  rw [silent] at sent
  contradiction

end Faf.JsonRpc
