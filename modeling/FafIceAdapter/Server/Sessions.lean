import FafIceAdapter.JsonRpc.Processing
import FafIceAdapter.JsonRpc.Requests
import FafIceAdapter.Server.Connections

namespace Faf
open Json JsonRpc Transition

/-- The server shares one table of requests among its sockets. -/
structure JsonRpcServer where
  connectedSockets : List Connection
  requests : Requests

namespace JsonRpcServer

/-- The server sends a request, and the request fails when there is no socket. -/
def sendRequest (jsonCpp : JsonCpp) (method : Bytes) (paramsArray : Value) (socket : Option Nat)
    (resultCb : Bool) (results : Nat → SendResult) (server : JsonRpcServer) : Option JsonRpcServer :=
  if paramsArray.isArray ∧ method ≠ [] then do
    let id := if resultCb then some server.requests.currentId else none
    let request := jsonCpp.write (Requests.message method paramsArray id)
    let (sent, connectedSockets) ← sendMessage request socket results server.connectedSockets
    let requests ← server.requests.sendRequest method paramsArray socket resultCb sent
    return ⟨connectedSockets, requests⟩
  else do
    let requests ← server.requests.sendRequest method paramsArray socket resultCb false
    return { server with requests := requests }

/-- The responses are sent one after another. -/
def sendResponses (results : Nat → SendResult) :
    List (Bytes × Nat) → List Connection → Option (List Connection)
  | [], connectedSockets => some connectedSockets
  | (response, socket) :: rest, connectedSockets => do
      let (_, connectedSockets) ← sendMessage response (some socket) results connectedSockets
      sendResponses results rest connectedSockets

/-- A message is processed when its socket is registered. It is a request, which is answered, or a
response, which completes a request of the server. -/
def onMessage (jsonCpp : JsonCpp) (table : Callbacks) (jsonMessage : Value) (socket : Nat)
    (results : Nat → SendResult) (server : JsonRpcServer) : Option JsonRpcServer :=
  if socket ∈ Connection.registered server.connectedSockets then do
    let responses := processJsonMessage jsonCpp table jsonMessage socket
    let connectedSockets ← sendResponses results responses server.connectedSockets
    return ⟨connectedSockets, server.requests.processJsonMessage jsonMessage socket⟩
  else none

/-- The events of the sockets, the calls of `sendRequest`, and the end of a running result callback. -/
inductive Event where
  | newClient (socket : Nat)
  | clientDisconnect (socket : Nat)
  | sendRequest (method : Bytes) (paramsArray : Value) (socket : Option Nat) (resultCb : Bool)
      (results : Nat → SendResult)
  | message (jsonMessage : Value) (socket : Nat) (results : Nat → SendResult)
  | returned
  | threw

/-- The sockets have events when no result callback runs. -/
def step (jsonCpp : JsonCpp) (table : Callbacks) (server : JsonRpcServer) : Event → Option JsonRpcServer
  | .newClient socket =>
      if server.requests.running ≠ [] ∨ socket ∈ Connection.registered server.connectedSockets then none
      else some { server with connectedSockets := Connection.register socket server.connectedSockets }
  | .clientDisconnect socket =>
      if server.requests.running ≠ [] then none
      else some { server with connectedSockets := Connection.erase socket server.connectedSockets }
  | .sendRequest method paramsArray socket resultCb results =>
      server.sendRequest jsonCpp method paramsArray socket resultCb results
  | .message jsonMessage socket results =>
      if server.requests.running ≠ [] then none
      else server.onMessage jsonCpp table jsonMessage socket results
  | .returned | .threw => server.requests.finish.map fun requests => { server with requests := requests }

def machine (jsonCpp : JsonCpp) (table : Callbacks) : Machine JsonRpcServer Event where
  initial := ⟨[], .initial⟩
  step := step jsonCpp table

/-- What an event can do to the requests. -/
inductive Touches (server : JsonRpcServer) : Event → Requests → Prop where
  | connection (event : Event) : Touches server event server.requests
  | call (method : Bytes) (paramsArray : Value) (socket : Option Nat) (resultCb sent : Bool)
      (results : Nat → SendResult) {requests : Requests}
      (sends : server.requests.sendRequest method paramsArray socket resultCb sent = some requests) :
      Touches server (.sendRequest method paramsArray socket resultCb results) requests
  | read (jsonMessage : Value) (socket : Nat) (results : Nat → SendResult)
      (registered : socket ∈ Connection.registered server.connectedSockets)
      (idle : server.requests.running = []) :
      Touches server (.message jsonMessage socket results)
        (server.requests.processJsonMessage jsonMessage socket)
  | finish (event : Event) {requests : Requests} (finished : server.requests.finish = some requests) :
      Touches server event requests

theorem touches_of_step {jsonCpp : JsonCpp} {table : Callbacks} {server next : JsonRpcServer} {event : Event}
    (steps : server.step jsonCpp table event = some next) : Touches server event next.requests := by
  cases event with
  | newClient socket =>
      simp only [step] at steps
      split at steps
      · contradiction
      · obtain rfl := Option.some.inj steps
        exact .connection _
  | clientDisconnect socket =>
      simp only [step] at steps
      split at steps
      · contradiction
      · obtain rfl := Option.some.inj steps
        exact .connection _
  | sendRequest method paramsArray socket resultCb results =>
      simp only [step, sendRequest] at steps
      split at steps
      · obtain ⟨⟨sent, connectedSockets⟩, _, later⟩ := Option.bind_eq_some_iff.mp steps
        obtain ⟨requests, sends, last⟩ := Option.bind_eq_some_iff.mp later
        obtain rfl := Option.some.inj last
        exact .call method paramsArray socket resultCb sent results sends
      · obtain ⟨requests, sends, last⟩ := Option.bind_eq_some_iff.mp steps
        obtain rfl := Option.some.inj last
        exact .call method paramsArray socket resultCb false results sends
  | message jsonMessage socket results =>
      simp only [step] at steps
      split at steps
      · contradiction
      · rename_i idle
        unfold onMessage at steps
        split at steps
        · rename_i registered
          obtain ⟨connectedSockets, _, last⟩ := Option.bind_eq_some_iff.mp steps
          obtain rfl := Option.some.inj last
          exact .read jsonMessage socket results registered (not_not.mp idle)
        · contradiction
  | returned =>
      obtain ⟨requests, finished, rfl⟩ := Option.map_eq_some_iff.mp steps
      exact .finish _ finished
  | threw =>
      obtain ⟨requests, finished, rfl⟩ := Option.map_eq_some_iff.mp steps
      exact .finish _ finished

theorem Touches.consistent {server : JsonRpcServer} {event : Event} {requests : Requests}
    (consistent : server.requests.Consistent) (touches : Touches server event requests) :
    requests.Consistent := by
  cases touches with
  | connection => exact consistent
  | call method paramsArray socket resultCb sent results sends =>
      exact @Requests.Consistent.step _ _ consistent (.sendRequest method paramsArray socket resultCb sent) sends
  | read jsonMessage socket results registered idle =>
      exact @Requests.Consistent.step _ _ consistent (.message jsonMessage socket) (if_pos idle)
  | finish event finished => exact consistent.finish finished

/-- In every run, a result callback that completes with what was read from a socket belongs to the request
whose id the message carries, while that request is stored, and the socket is registered. Any other
completion is an error of the call itself. -/
theorem completed_by_id (jsonCpp : JsonCpp) (table : Callbacks) (events : List Event) (server : JsonRpcServer)
    (run : (machine jsonCpp table).Reaches (fun _ _ => True) events server) (event : Event)
    (next : JsonRpcServer) (steps : server.step jsonCpp table event = some next) (invocation : Invocation)
    (completes : next.requests.invocations = server.requests.invocations ++ [invocation]) :
    (∃ method paramsArray socket resultCb results,
      event = .sendRequest method paramsArray socket resultCb results ∧
        invocation.call = server.requests.calls.length ∧ invocation.result = .nullValue ∧
        invocation.source = none) ∨
      ∃ jsonMessage socket results id target, event = .message jsonMessage socket results ∧
        socket ∈ Connection.registered server.connectedSockets ∧
        Requests.responseId jsonMessage = some id ∧
        server.requests.currentRequests id = some invocation.call ∧
        server.requests.calls[invocation.call]? = some ⟨target, some id⟩ ∧
        invocation.result = jsonMessage.member (bytes "result") ∧
        invocation.error = jsonMessage.member (bytes "error") ∧ invocation.source = some socket := by
  have consistent : server.requests.Consistent := by
    apply run.invariant fun server => server.requests.Consistent
    · exact Requests.consistent_initial
    · intro server event next consistent _ steps
      exact (touches_of_step steps).consistent consistent
  have touches := touches_of_step steps
  generalize next.requests = requests at completes touches
  have added (same : requests.invocations = server.requests.invocations) : False := by
    rw [same] at completes
    exact absurd (List.self_eq_append_right.mp completes) (List.cons_ne_nil _ _)
  cases touches with
  | connection => exact (added rfl).elim
  | call method paramsArray socket resultCb sent results sends =>
      left
      rcases Requests.sendRequest_invocations sends with same | ⟨error, own⟩
      · exact (added same).elim
      · rw [own] at completes
        obtain rfl := List.singleton_inj.mp (List.append_cancel_left completes)
        exact ⟨method, paramsArray, socket, resultCb, results, rfl, rfl, rfl, rfl⟩
  | read jsonMessage socket results registered idle =>
      right
      rcases Requests.processJsonMessage_cases jsonMessage socket server.requests with
        same | ⟨id, call, identified, found, same⟩
      · exact (added (by rw [same])).elim
      · rw [same] at completes
        obtain rfl := List.singleton_inj.mp (List.append_cancel_left completes)
        obtain ⟨target, known⟩ := consistent.identified id call found
        exact ⟨jsonMessage, socket, results, id, target, rfl, registered, identified, found, known, rfl, rfl, rfl⟩
  | finish event finished => exact (added (Requests.finish_invocations finished)).elim

/-- A server without callbacks. -/
def plainMachine : Machine JsonRpcServer Event :=
  machine (Sample.jsonCpp fun _ => (false, .nullValue)) ⟨fun _ => none, fun _ => none⟩

/-- Two clients connect, and the server asks the first one. -/
def asking : List Event :=
  [.newClient 1, .newClient 2,
    .sendRequest (bytes "ask") (.arrayValue []) (some 1) true fun _ => .accepted 40]

/-- The asked client answers. -/
theorem completed_by_id_asked :
    ∃ server next invocation, plainMachine.run asking = some server ∧
      server.step (Sample.jsonCpp fun _ => (false, .nullValue)) ⟨fun _ => none, fun _ => none⟩
        (.message (Requests.answer 0 5) 1 fun _ => .refused) = some next ∧
      next.requests.invocations = server.requests.invocations ++ [invocation] ∧
      ((∃ method paramsArray socket resultCb results,
        Event.message (Requests.answer 0 5) 1 (fun _ => .refused) =
            .sendRequest method paramsArray socket resultCb results ∧
          invocation.call = server.requests.calls.length ∧ invocation.result = .nullValue ∧
          invocation.source = none) ∨
        ∃ jsonMessage socket results id target,
          Event.message (Requests.answer 0 5) 1 (fun _ => .refused) = .message jsonMessage socket results ∧
          socket ∈ Connection.registered server.connectedSockets ∧
          Requests.responseId jsonMessage = some id ∧
          server.requests.currentRequests id = some invocation.call ∧
          server.requests.calls[invocation.call]? = some ⟨target, some id⟩ ∧
          invocation.result = jsonMessage.member (bytes "result") ∧
          invocation.error = jsonMessage.member (bytes "error") ∧ invocation.source = some socket) :=
  ⟨_, _, ⟨0, .intValue 5, .nullValue, some 1⟩, rfl, rfl, rfl, completed_by_id _ _ asking _
    (Machine.reaches_iff_run.mpr (show plainMachine.run asking = some _ from rfl)) _ _ rfl _ rfl⟩

/-- The other client completes the request of the first one. -/
theorem completed_by_other : ¬ ∀ (jsonCpp : JsonCpp) (table : Callbacks) (events : List Event)
    (server : JsonRpcServer), (machine jsonCpp table).Reaches (fun _ _ => True) events server →
    ∀ invocation ∈ server.requests.invocations, ∀ first id,
      server.requests.calls[invocation.call]? = some ⟨some first, id⟩ →
      ∀ second, invocation.source = some second → second = first := by
  intro claim
  have run : plainMachine.run (asking ++ [.message (Requests.answer 0 5) 2 fun _ => .refused]) = some _ := rfl
  have same := claim _ _ _ _ (Machine.reaches_iff_run.mpr run) _ (List.mem_singleton.mpr rfl) 1 _ rfl 2 rfl
  exact absurd same (by decide)

end JsonRpcServer
end Faf
