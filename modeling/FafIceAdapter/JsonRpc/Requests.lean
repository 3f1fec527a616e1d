import FafIceAdapter.Json.Object
import FafIceAdapter.Library.Transition

namespace Faf.JsonRpc
open Json Transition

/-- A call of `sendRequest`: its socket, and its id when it was stored. -/
structure Call where
  socket : Option Nat
  id : Option Int

/-- A run of a result callback. The source is the socket whose message completed the request. -/
structure Invocation where
  call : Nat
  result : Value
  error : Value
  source : Option Nat

/-- Where a running result callback was called from. -/
inductive Frame where
  | sendRequest
  | response (id : Int)
  deriving DecidableEq

/-- The requests of an endpoint. The calls are numbered, and the running callbacks are listed from the
innermost. An unsent request is one whose message could not be sent. -/
structure Requests where
  currentRequests : Int → Option Nat
  currentId : Int
  calls : List Call
  running : List Frame
  invocations : List Invocation
  unsent : Finset Int

namespace Requests

def initial : Requests where
  currentRequests _ := none
  currentId := 0
  calls := []
  running := []
  invocations := []
  unsent := ∅

/-- The message of a request. -/
def message (method : Bytes) (paramsArray : Value) (id : Option Int) : Value :=
  let request := ((Value.nullValue.set (bytes "jsonrpc") (.stringValue (bytes "2.0"))).set (bytes "method")
    (.stringValue method)).set (bytes "params") paramsArray
  match id with
  | some id => request.set (bytes "id") (.intValue id)
  | none => request

def register (call : Call) (requests : Requests) : Requests :=
  { requests with calls := requests.calls ++ [call] }

def invoke (frame : Frame) (invocation : Invocation) (requests : Requests) : Requests :=
  { requests with
    running := frame :: requests.running
    invocations := requests.invocations ++ [invocation] }

/-- The request is stored under the next id. -/
def store (socket : Option Nat) (requests : Requests) : Requests :=
  { requests.register ⟨socket, some requests.currentId⟩ with
    currentRequests := Function.update requests.currentRequests requests.currentId (some requests.calls.length)
    currentId := requests.currentId + 1 }

/-- A call that fails at once runs its callback with an error. -/
def reject (socket : Option Nat) (resultCb : Bool) (error : Bytes) (requests : Requests) : Requests :=
  let registered := requests.register ⟨socket, none⟩
  if resultCb then
    registered.invoke .sendRequest ⟨requests.calls.length, .nullValue, .stringValue error, none⟩
  else registered

/-- The stored entry stays when the message cannot be sent. -/
def sendFailed (requests : Requests) (call : Nat) (id : Int) : Requests :=
  { requests with unsent := insert id requests.unsent }.invoke .sendRequest
    ⟨call, .nullValue, .stringValue (bytes "send failed"), none⟩

/-- The id is an `int`, and there is no next state when it overflows. -/
def sendRequest (method : Bytes) (paramsArray : Value) (socket : Option Nat) (resultCb sent : Bool)
    (requests : Requests) : Option Requests :=
  if !paramsArray.isArray then
    some (requests.reject socket resultCb (bytes "paramsArray MUST be an array"))
  else if method = [] then some (requests.reject socket resultCb (bytes "method MUST not be empty"))
  else if !resultCb then some (requests.register ⟨socket, none⟩)
  else if ¬ FitsInt32 (requests.currentId + 1) then none
  else if sent then some (requests.store socket)
  else some ((requests.store socket).sendFailed requests.calls.length requests.currentId)

/-- The id of a response. A message with a method is a request. -/
def responseId (jsonMessage : Value) : Option Int :=
  if jsonMessage.isMember (bytes "method") then none
  else if jsonMessage.isMember (bytes "error") || jsonMessage.isMember (bytes "result") then
    (jsonMessage.member (bytes "id")).int?
  else none

/-- A response runs the callback of its id. -/
def processJsonMessage (jsonMessage : Value) (socket : Nat) (requests : Requests) : Requests :=
  match responseId jsonMessage with
  | none => requests
  | some id =>
      match requests.currentRequests id with
      | none => requests
      | some call =>
          requests.invoke (.response id)
            ⟨call, jsonMessage.member (bytes "result"), jsonMessage.member (bytes "error"), some socket⟩

/-- The innermost callback returns or throws. The entry of a response is erased in both cases. -/
def finish (requests : Requests) : Option Requests :=
  match requests.running with
  | [] => none
  | .sendRequest :: rest => some { requests with running := rest }
  | .response id :: rest =>
      some { requests with
        running := rest
        currentRequests := Function.update requests.currentRequests id none }

/-- A request that succeeds or fails to be sent, a message from a socket, and the end of the innermost
result callback. -/
inductive Event where
  | sendRequest (method : Bytes) (paramsArray : Value) (socket : Option Nat) (resultCb sent : Bool)
  | message (jsonMessage : Value) (socket : Nat)
  | returned
  | threw

/-- A callback may send requests, and messages are read when no callback runs. -/
def step (requests : Requests) : Event → Option Requests
  | .sendRequest method paramsArray socket resultCb sent =>
      requests.sendRequest method paramsArray socket resultCb sent
  | .message jsonMessage socket =>
      if requests.running = [] then some (requests.processJsonMessage jsonMessage socket) else none
  | .returned | .threw => requests.finish

def machine : Machine Requests Event where
  initial := initial
  step := step

/-- No response carries the id of a request that could not be sent. -/
def Allowed (requests : Requests) : Event → Prop
  | .message jsonMessage _ => ∀ id ∈ requests.unsent, responseId jsonMessage ≠ some id
  | _ => True

/-- Every stored request is that of a registered call, which has its id. -/
structure Consistent (requests : Requests) : Prop where
  below : ∀ id call, requests.currentRequests id = some call → id < requests.currentId
  identified : ∀ id call, requests.currentRequests id = some call →
    ∃ socket, requests.calls[call]? = some ⟨socket, some id⟩
  counted : ∀ invocation ∈ requests.invocations, invocation.call < requests.calls.length

theorem consistent_initial : Consistent initial where
  below _ _ found := by contradiction
  identified _ _ found := by contradiction
  counted _ member := by contradiction

section Consistency

variable {requests : Requests} (consistent : Consistent requests)
include consistent

theorem Consistent.call_lt {id : Int} {call : Nat} (found : requests.currentRequests id = some call) :
    call < requests.calls.length := by
  obtain ⟨socket, known⟩ := consistent.identified id call found
  exact (List.getElem?_eq_some_iff.mp known).1

/-- Two ids never share a call. -/
theorem Consistent.unique {id other : Int} {call : Nat} (found : requests.currentRequests id = some call)
    (found' : requests.currentRequests other = some call) : id = other := by
  obtain ⟨_, known⟩ := consistent.identified id call found
  obtain ⟨_, known'⟩ := consistent.identified other call found'
  rw [known] at known'
  simp only [Option.some.injEq, Call.mk.injEq] at known'
  exact known'.2

theorem Consistent.register (call : Call) : Consistent (requests.register call) where
  below := consistent.below
  identified id call' found := by
    obtain ⟨socket, known⟩ := consistent.identified id call' found
    exact ⟨socket, (List.getElem?_append_left (consistent.call_lt found)).trans known⟩
  counted invocation member := by
    have before := consistent.counted invocation member
    simp only [Requests.register, List.length_append, List.length_singleton]
    omega

theorem Consistent.invoke (frame : Frame) {invocation : Invocation}
    (known : invocation.call < requests.calls.length) : Consistent (requests.invoke frame invocation) where
  below := consistent.below
  identified := consistent.identified
  counted other member := by
    rcases List.mem_append.mp member with before | last
    · exact consistent.counted other before
    · rw [List.mem_singleton.mp last]
      exact known

theorem Consistent.store (socket : Option Nat) : Consistent (requests.store socket) where
  below id call found := by
    simp only [Requests.store] at found ⊢
    by_cases same : id = requests.currentId
    · omega
    · rw [Function.update_of_ne same] at found
      have before := consistent.below id call found
      omega
  identified id call found := by
    simp only [Requests.store] at found
    by_cases same : id = requests.currentId
    · subst same
      rw [Function.update_self] at found
      obtain rfl := Option.some.inj found
      exact ⟨socket, List.getElem?_concat_length⟩
    · rw [Function.update_of_ne same] at found
      exact (consistent.register _).identified id call found
  counted := (consistent.register _).counted

theorem Consistent.reject (socket : Option Nat) (resultCb : Bool) (error : Bytes) :
    Consistent (requests.reject socket resultCb error) := by
  have registered := consistent.register ⟨socket, none⟩
  unfold Requests.reject
  split
  · exact registered.invoke .sendRequest (by simp [Requests.register])
  · exact registered

theorem Consistent.sendFailed {call : Nat} (known : call < requests.calls.length) (id : Int) :
    Consistent (requests.sendFailed call id) := by
  have marked : Consistent { requests with unsent := insert id requests.unsent } :=
    ⟨consistent.below, consistent.identified, consistent.counted⟩
  exact marked.invoke .sendRequest known

theorem Consistent.finish {next : Requests} (finished : requests.finish = some next) : Consistent next := by
  unfold Requests.finish at finished
  split at finished
  · contradiction
  · obtain rfl := Option.some.inj finished
    exact ⟨consistent.below, consistent.identified, consistent.counted⟩
  · rename_i erased _ _
    obtain rfl := Option.some.inj finished
    have kept {id : Int} {call : Nat}
        (found : Function.update requests.currentRequests erased none id = some call) :
        requests.currentRequests id = some call := by
      by_cases same : id = erased
      · rw [same, Function.update_self] at found
        contradiction
      · rwa [Function.update_of_ne same] at found
    exact ⟨fun id call found => consistent.below id call (kept found),
      fun id call found => consistent.identified id call (kept found), consistent.counted⟩

end Consistency

/-- What a call can do to the requests. -/
theorem sendRequest_cases {requests next : Requests} {method : Bytes} {paramsArray : Value}
    {socket : Option Nat} {resultCb sent : Bool}
    (sends : requests.sendRequest method paramsArray socket resultCb sent = some next) :
    (∃ error, next = requests.reject socket resultCb error) ∨ next = requests.register ⟨socket, none⟩ ∨
      next = requests.store socket ∨
      next = (requests.store socket).sendFailed requests.calls.length requests.currentId := by
  unfold sendRequest at sends
  split at sends
  · exact .inl ⟨_, (Option.some.inj sends).symm⟩
  · split at sends
    · exact .inl ⟨_, (Option.some.inj sends).symm⟩
    · split at sends
      · exact .inr (.inl (Option.some.inj sends).symm)
      · split at sends
        · contradiction
        · split at sends
          · exact .inr (.inr (.inl (Option.some.inj sends).symm))
          · exact .inr (.inr (.inr (Option.some.inj sends).symm))

/-- A message changes nothing or runs the callback that is stored under its id. -/
theorem processJsonMessage_cases (jsonMessage : Value) (socket : Nat) (requests : Requests) :
    requests.processJsonMessage jsonMessage socket = requests ∨
      ∃ id call, responseId jsonMessage = some id ∧ requests.currentRequests id = some call ∧
        requests.processJsonMessage jsonMessage socket = requests.invoke (.response id)
          ⟨call, jsonMessage.member (bytes "result"), jsonMessage.member (bytes "error"), some socket⟩ := by
  unfold processJsonMessage
  split
  · exact .inl rfl
  · rename_i id identified
    split
    · exact .inl rfl
    · rename_i call found
      exact .inr ⟨id, call, identified, found, rfl⟩

/-- A call of `sendRequest` runs at most its own callback, without a result. -/
theorem sendRequest_invocations {requests next : Requests} {method : Bytes} {paramsArray : Value}
    {socket : Option Nat} {resultCb sent : Bool}
    (sends : requests.sendRequest method paramsArray socket resultCb sent = some next) :
    next.invocations = requests.invocations ∨
      ∃ error, next.invocations = requests.invocations ++ [⟨requests.calls.length, .nullValue, error, none⟩] := by
  rcases sendRequest_cases sends with ⟨error, rfl⟩ | rfl | rfl | rfl
  · unfold reject
    split
    · exact .inr ⟨.stringValue error, rfl⟩
    · exact .inl rfl
  · exact .inl rfl
  · exact .inl rfl
  · exact .inr ⟨.stringValue (bytes "send failed"), rfl⟩

theorem finish_invocations {requests next : Requests} (finished : requests.finish = some next) :
    next.invocations = requests.invocations := by
  unfold finish at finished
  split at finished
  · contradiction
  · obtain rfl := Option.some.inj finished
    rfl
  · obtain rfl := Option.some.inj finished
    rfl

theorem Consistent.step {requests next : Requests} (consistent : Consistent requests) {event : Event}
    (steps : requests.step event = some next) : Consistent next := by
  cases event with
  | sendRequest method paramsArray socket resultCb sent =>
      rcases sendRequest_cases steps with ⟨error, rfl⟩ | rfl | rfl | rfl
      · exact consistent.reject socket resultCb error
      · exact consistent.register _
      · exact consistent.store socket
      · exact (consistent.store socket).sendFailed (by simp [Requests.store, Requests.register]) _
  | message jsonMessage socket =>
      simp only [Requests.step] at steps
      split at steps
      · obtain rfl := Option.some.inj steps
        rcases processJsonMessage_cases jsonMessage socket requests with same | ⟨id, call, _, found, same⟩
        · rw [same]
          exact consistent
        · rw [same]
          exact consistent.invoke _ (consistent.call_lt found)
      · contradiction
  | returned => exact consistent.finish steps
  | threw => exact consistent.finish steps

/-- A callback that has run is stored only for an unsent request or while it runs. -/
structure Single (requests : Requests) : Prop where
  consistent : Consistent requests
  completed : ∀ id call, requests.currentRequests id = some call →
    (∃ invocation ∈ requests.invocations, invocation.call = call) →
    id ∈ requests.unsent ∨ .response id ∈ requests.running
  once : (requests.invocations.map Invocation.call).Nodup

theorem single_initial : Single initial where
  consistent := consistent_initial
  completed _ _ found := by contradiction
  once := List.nodup_nil

section Completion

variable {requests : Requests} (single : Single requests)
include single

theorem Single.register (call : Call) : Single (requests.register call) where
  consistent := single.consistent.register call
  completed := single.completed
  once := single.once

/-- A callback that has not run may run where its entry is marked. -/
theorem Single.invoke {frame : Frame} {invocation : Invocation}
    (known : invocation.call < requests.calls.length)
    (fresh : ∀ other ∈ requests.invocations, other.call ≠ invocation.call)
    (marked : ∀ id, requests.currentRequests id = some invocation.call →
      id ∈ requests.unsent ∨ .response id ∈ frame :: requests.running) :
    Single (requests.invoke frame invocation) where
  consistent := single.consistent.invoke frame known
  completed id call found ran := by
    obtain ⟨other, member, rfl⟩ := ran
    rcases List.mem_append.mp member with before | last
    · rcases single.completed id _ found ⟨other, before, rfl⟩ with unsent | running
      · exact .inl unsent
      · exact .inr (List.mem_cons_of_mem frame running)
    · obtain rfl := List.mem_singleton.mp last
      exact marked id found
  once := by
    simp only [Requests.invoke, List.map_append, List.map_singleton]
    apply List.Nodup.append single.once (List.nodup_singleton _)
    intro call before last
    obtain ⟨other, member, rfl⟩ := List.mem_map.mp before
    exact fresh other member (List.mem_singleton.mp last)

theorem Single.not_run {invocation : Invocation} (member : invocation ∈ requests.invocations) :
    invocation.call ≠ requests.calls.length := by
  have before := single.consistent.counted invocation member
  omega

theorem Single.reject (socket : Option Nat) (resultCb : Bool) (error : Bytes) :
    Single (requests.reject socket resultCb error) := by
  have registered := single.register ⟨socket, none⟩
  unfold Requests.reject
  split
  · apply registered.invoke
    · simp [Requests.register]
    · intro other member
      exact single.not_run member
    · intro id found
      exact absurd (single.consistent.call_lt found) (lt_irrefl _)
  · exact registered

theorem Single.store (socket : Option Nat) : Single (requests.store socket) where
  consistent := single.consistent.store socket
  completed id call found ran := by
    simp only [Requests.store] at found
    by_cases same : id = requests.currentId
    · rw [same, Function.update_self] at found
      obtain rfl := Option.some.inj found
      obtain ⟨invocation, member, counted⟩ := ran
      exact absurd counted (single.not_run member)
    · rw [Function.update_of_ne same] at found
      exact single.completed id call found ran
  once := single.once

theorem Single.sendFailed (socket : Option Nat) :
    Single ((requests.store socket).sendFailed requests.calls.length requests.currentId) := by
  have stored := single.store socket
  have marked : Single { requests.store socket with
      unsent := insert requests.currentId (requests.store socket).unsent } := by
    refine ⟨⟨stored.consistent.below, stored.consistent.identified, stored.consistent.counted⟩, ?_, stored.once⟩
    intro id call found ran
    rcases stored.completed id call found ran with unsent | running
    · exact .inl (Finset.mem_insert_of_mem unsent)
    · exact .inr running
  apply marked.invoke
  · simp [Requests.store, Requests.register]
  · intro other member
    exact single.not_run member
  · intro id found
    have own : (requests.store socket).currentRequests requests.currentId = some requests.calls.length :=
      Function.update_self ..
    rw [stored.consistent.unique found own]
    exact .inl (Finset.mem_insert_self _ _)

theorem Single.message {jsonMessage : Value} (socket : Nat) (idle : requests.running = [])
    (sent : ∀ id ∈ requests.unsent, responseId jsonMessage ≠ some id) :
    Single (requests.processJsonMessage jsonMessage socket) := by
  rcases processJsonMessage_cases jsonMessage socket requests with same | ⟨id, call, identified, found, same⟩
  · rw [same]
    exact single
  · rw [same]
    apply single.invoke
    · exact single.consistent.call_lt found
    · intro other member same
      rcases single.completed id call found ⟨other, member, same⟩ with unsent | running
      · exact sent id unsent identified
      · rw [idle] at running
        contradiction
    · intro other found'
      rw [single.consistent.unique found' found]
      exact .inr List.mem_cons_self

theorem Single.finish {next : Requests} (finished : requests.finish = some next) : Single next := by
  have consistent := single.consistent.finish finished
  unfold Requests.finish at finished
  split at finished
  · contradiction
  · rename_i rest running
    obtain rfl := Option.some.inj finished
    refine ⟨consistent, ?_, single.once⟩
    intro id call found ran
    have pending := single.completed id call found ran
    rw [running] at pending
    simpa using pending
  · rename_i erased rest running
    obtain rfl := Option.some.inj finished
    refine ⟨consistent, ?_, single.once⟩
    intro id call found ran
    have different : id ≠ erased := by
      intro same
      simp [same] at found
    simp only [Function.update_of_ne different] at found
    have pending := single.completed id call found ran
    rw [running] at pending
    simpa [different] using pending

end Completion

theorem Single.step {requests next : Requests} (single : Single requests) {event : Event}
    (permits : Allowed requests event) (steps : requests.step event = some next) : Single next := by
  cases event with
  | sendRequest method paramsArray socket resultCb sent =>
      rcases sendRequest_cases steps with ⟨error, rfl⟩ | rfl | rfl | rfl
      · exact single.reject socket resultCb error
      · exact single.register _
      · exact single.store socket
      · exact single.sendFailed socket
  | message jsonMessage socket =>
      simp only [Requests.step] at steps
      split at steps
      · rename_i idle
        obtain rfl := Option.some.inj steps
        exact single.message socket idle permits
      · contradiction
  | returned => exact single.finish steps
  | threw => exact single.finish steps

/-- A result callback runs at most once in every run in which no response carries the id of a request
that could not be sent. -/
theorem callback_once (events : List Event) (requests : Requests)
    (run : machine.Reaches Allowed events requests) : (requests.invocations.map Invocation.call).Nodup := by
  have single : Single requests := by
    apply run.invariant Single single_initial
    intro requests event next single permits steps
    exact single.step permits steps
  exact single.once

/-- A response with a number as its result. -/
def answer (id result : Int) : Value :=
  .objectValue [(bytes "id", .intValue id), (bytes "result", .intValue result)]

def ask (sent : Bool) : Event := .sendRequest (bytes "ask") (.arrayValue []) none true sent

/-- A request cannot be sent, and its callback sends another one, which is answered twice. -/
def asked : List Event := [ask false, ask true, .returned, .message (answer 1 5) 3, .threw, .message (answer 1 5) 3]

instance (requests : Requests) (event : Event) : Decidable (Allowed requests event) :=
  match event with
  | .message jsonMessage _ => inferInstanceAs (Decidable (∀ id ∈ requests.unsent, responseId jsonMessage ≠ some id))
  | .sendRequest _ _ _ _ _ | .returned | .threw => instDecidableTrue

theorem callback_once_asked :
    ∃ requests, machine.runWhere Allowed asked = some requests ∧
      requests.invocations.map Invocation.call = [0, 1] ∧ (requests.invocations.map Invocation.call).Nodup :=
  ⟨_, rfl, rfl, callback_once asked _
    (Machine.reaches_iff_runWhere.mpr (show machine.runWhere Allowed asked = some _ from rfl))⟩

/-- A request that could not be sent is completed again by a response with its id. -/
theorem callback_twice : ¬ ∀ (events : List Event) (requests : Requests),
    machine.Reaches (fun _ _ => True) events requests →
    (requests.invocations.map Invocation.call).Nodup := by
  intro claim
  have run : machine.run [ask false, .returned, .message (answer 0 5) 3] = some _ := rfl
  have once := claim _ _ (Machine.reaches_iff_run.mpr run)
  exact absurd once (by decide)

end Requests
end Faf.JsonRpc
