import FafIceAdapter.JsonRpc.Inbox
import FafIceAdapter.JsonRpc.Processing
import FafIceAdapter.System.RpcLink

namespace Faf
open Json JsonRpc Transition

/-- A client and the adapter with the bytes that they send to each other. The requests that were sent and the messages
of the adapter are recorded. -/
structure RpcStream where
  client : Requests
  issued : List ClientRequest
  toServer : Inbox
  live : LiveAdapter
  told : List Value
  toClient : Inbox

namespace RpcStream

/-- The client calls a method or a result callback of it ends, a number of bytes reaches one of the two, the adapter
processes a message or handles something else, and the client processes a message. -/
inductive Event where
  | call (method : Bytes) (paramsArray : Value) (resultCb : Bool)
  | finishes
  | serverReads (count : Nat)
  | serve (port : Nat) (creation : Creation)
  | game (event : GameEvent)
  | peer (remotePlayerId : Int) (event : PeerEvent)
  | clientReads (count : Nat)
  | deliver

/-- The adapter writes the notifications of a step before the responses. -/
def perform (environment : RpcEnvironment) (live : LiveAdapter) (responses : List Value) (stream : RpcStream) :
    RpcStream :=
  let messages := stream.live.notifications live ++ responses
  { stream with
    live := live
    told := stream.told ++ messages
    toClient := stream.toClient.send environment.jsonCpp messages }

/-- A message without a method is no request, and the adapter waits for no response. -/
def process (environment : RpcEnvironment) (message : Value) (port : Nat) (creation : Creation) (stream : RpcStream) :
    Option RpcStream :=
  if message.isMember (bytes "method") then do
    let live ← stream.live.serve environment message port creation
    let table := stream.live.clear.connectRpcMethods (environment.give port creation)
    return stream.perform environment live
      (if message.isMember (bytes "id") then processRequest table message 0 else [])
  else some stream

def step (environment : RpcEnvironment) (stream : RpcStream) : Event → Option RpcStream
  | .call method paramsArray resultCb => do
      let client ← stream.client.sendRequest method paramsArray none resultCb true
      let sent := RpcLink.requestOf stream.client method paramsArray resultCb
      return { stream with
        client := client
        issued := stream.issued ++ sent
        toServer := stream.toServer.send environment.jsonCpp (sent.map ClientRequest.message) }
  | .finishes => do
      let client ← stream.client.finish
      return { stream with client := client }
  | .serverReads count => do
      let toServer ← stream.toServer.onRead environment.jsonCpp count
      return { stream with toServer := toServer }
  | .serve port creation => do
      let (message, toServer) ← stream.toServer.next
      { stream with toServer := toServer }.process environment message port creation
  | .game event => do
      let live ← stream.live.step environment (.game event)
      return stream.perform environment live []
  | .peer remotePlayerId event => do
      let live ← stream.live.step environment (.peer remotePlayerId event)
      return stream.perform environment live []
  | .clientReads count => do
      let toClient ← stream.toClient.onRead environment.jsonCpp count
      return { stream with toClient := toClient }
  | .deliver =>
      if stream.client.running = [] then do
        let (message, toClient) ← stream.toClient.next
        return { stream with client := stream.client.processJsonMessage message 0, toClient := toClient }
      else none

def machine (environment : RpcEnvironment) (options : IceAdapterOptions) (freePort : Int) :
    Machine RpcStream Event where
  initial :=
    { client := .initial
      issued := []
      toServer := .empty
      live := (LiveAdapter.machine environment options freePort).initial
      told := []
      toClient := .empty }
  step := step environment

/-- The texts of the messages are read back, and no quote of a string opens or closes another one. -/
def AllPlain (jsonCpp : JsonCpp) (stream : RpcStream) : Prop :=
  (∀ sent ∈ stream.issued, jsonCpp.Plain sent.message) ∧ ∀ message ∈ stream.told, jsonCpp.Plain message

/-- No read event ends at a whitespace inside a string. -/
def KeepsReads (stream : RpcStream) : Event → Prop
  | .serverReads count => stream.toServer.KeepsRead count
  | .clientReads count => stream.toClient.KeepsRead count
  | _ => True

instance (stream : RpcStream) : (event : Event) → Decidable (stream.KeepsReads event)
  | .serverReads count => inferInstanceAs (Decidable (stream.toServer.KeepsRead count))
  | .clientReads count => inferInstanceAs (Decidable (stream.toClient.KeepsRead count))
  | .call .. | .finishes | .serve .. | .game _ | .peer .. | .deliver => inferInstanceAs (Decidable True)

/-- The messages are plain after the event, too. -/
def Permitted (environment : RpcEnvironment) (stream : RpcStream) (event : Event) : Prop :=
  stream.KeepsReads event ∧ ∀ next, stream.step environment event = some next → next.AllPlain environment.jsonCpp

/-- What happens to the messages when bytes are not considered. -/
def Event.link? : Event → Option RpcLink.Event
  | .call method paramsArray resultCb => some (.call method paramsArray resultCb)
  | .finishes => some .finishes
  | .serve port creation => some (.serve port creation)
  | .game event => some (.game event)
  | .peer remotePlayerId event => some (.peer remotePlayerId event)
  | .deliver => some .deliver
  | .serverReads _ | .clientReads _ => none

/-- The bytes and the buffers hold the messages of the two channels. -/
structure Streams (environment : RpcEnvironment) (stream : RpcStream) (link : RpcLink) : Prop where
  client : stream.client = link.client
  issued : stream.issued = link.issued
  live : stream.live = link.service.live
  toServer : stream.toServer.Carries environment.jsonCpp (link.toServer.map ClientRequest.message)
  toClient : stream.toClient.Carries environment.jsonCpp link.toClient
  sent : ∀ sent ∈ link.toServer, sent ∈ link.issued
  told : ∀ message ∈ link.toClient, message ∈ stream.told
  plain : stream.AllPlain environment.jsonCpp

section Steps

variable {environment : RpcEnvironment} {stream next : RpcStream} {link : RpcLink}

/-- What the adapter writes in a step that serves no request or one goes to the channel to the client. -/
theorem Streams.perform (streams : Streams environment stream link) {event : AdapterService.Event}
    {service : AdapterService} (steps : link.service.step environment event = some service)
    (plain : (stream.perform environment service.live (link.service.responses environment event)).AllPlain
      environment.jsonCpp) :
    ∃ view, link.perform environment event = some view ∧ Streams environment
      (stream.perform environment service.live (link.service.responses environment event)) view := by
  refine ⟨_, by rw [RpcLink.perform, steps]; rfl, ?_⟩
  refine ⟨streams.client, streams.issued, rfl, streams.toServer, ?_, streams.sent, ?_, plain⟩
  · have sends := streams.toClient.send
      (stream.live.notifications service.live ++ link.service.responses environment event)
    rw [← List.append_assoc, streams.live] at sends
    rw [RpcStream.perform, streams.live]
    exact sends
  · intro message member
    change message ∈ stream.told ++ (stream.live.notifications service.live ++ _)
    rw [streams.live, ← List.append_assoc]
    rcases List.mem_append.mp member with known | response
    · rcases List.mem_append.mp known with earlier | notification
      · exact List.mem_append_left _ (List.mem_append_left _ (streams.told message earlier))
      · exact List.mem_append_left _ (List.mem_append_right _ notification)
    · exact List.mem_append_right _ response

/-- The request whose text is read is the next one of the channel. -/
theorem Streams.serve (streams : Streams environment stream link) {port : Nat} {creation : Creation}
    (steps : stream.step environment (.serve port creation) = some next)
    (plain : next.AllPlain environment.jsonCpp) :
    ∃ view, link.step environment (.serve port creation) = some view ∧ Streams environment next view := by
  obtain ⟨⟨message, toServer⟩, takes, processes⟩ := Option.bind_eq_some_iff.mp steps
  obtain ⟨queue, same, carries⟩ := streams.toServer.next takes
  obtain ⟨sent, rest, first, rfl, rfl⟩ := List.map_eq_cons_iff.mp same
  have isRequest : sent.message.isMember (bytes "method") = true := message_method.1
  dsimp only at processes
  rw [process, if_pos isRequest] at processes
  obtain ⟨live, serves, last⟩ := Option.bind_eq_some_iff.mp processes
  obtain rfl := Option.some.inj last
  let outcome := link.service.live.clear.outcome (environment.give port creation) sent.message
  let service : AdapterService := ⟨live, link.service.replies ++ [⟨sent, outcome.1, outcome.2⟩]⟩
  have served : link.service.step environment (.serve sent port creation) = some service := by
    rw [AdapterService.step, ← streams.live]
    change (stream.live.serve environment sent.message port creation).bind _ = _
    rw [serves]
    simp only [Option.bind_some, service, outcome, ← streams.live]
    rfl
  have shorter : Streams environment { stream with toServer := toServer } { link with toServer := rest } := by
    refine ⟨streams.client, streams.issued, streams.live, carries, streams.toClient, ?_, streams.told, ?_⟩
    · intro other member
      exact streams.sent other (by rw [first]; exact List.mem_cons_of_mem sent member)
    · exact streams.plain
  have responses : link.service.responses environment (.serve sent port creation) =
      if sent.message.isMember (bytes "id") then
        processRequest (stream.live.clear.connectRpcMethods (environment.give port creation)) sent.message 0
      else [] := by
    rw [AdapterService.responses, ← streams.live]
  have performs := shorter.perform served
  rw [show ({ link with toServer := rest } : RpcLink).service = link.service from rfl, responses] at performs
  obtain ⟨view, moves, after⟩ := performs plain
  refine ⟨view, ?_, after⟩
  simp only [RpcLink.step, first]
  exact moves

/-- A step that the link sees is a step of the link. -/
theorem Streams.seen (streams : Streams environment stream link) {event : Event} {own : RpcLink.Event}
    (sees : event.link? = some own) (permits : Permitted environment stream event)
    (steps : stream.step environment event = some next) :
    ∃ view, link.step environment own = some view ∧ Streams environment next view := by
  have plain := permits.2 next steps
  cases event with
  | call method paramsArray resultCb =>
      obtain rfl := Option.some.inj sees
      obtain ⟨client, sends, last⟩ := Option.bind_eq_some_iff.mp steps
      obtain rfl := Option.some.inj last
      rw [streams.client] at sends
      refine ⟨_, by rw [RpcLink.step, sends]; rfl, ?_⟩
      refine ⟨rfl, ?_, streams.live, ?_, streams.toClient, ?_, streams.told, plain⟩
      · exact congrArg₂ (· ++ ·) streams.issued (by rw [streams.client])
      · change Inbox.Carries _ (List.map _ (link.toServer ++ _)) _
        rw [List.map_append, ← streams.client]
        exact streams.toServer.send _
      · intro sent member
        rcases List.mem_append.mp member with known | new
        · exact List.mem_append_left _ (streams.sent sent known)
        · exact List.mem_append_right _ new
  | finishes =>
      obtain rfl := Option.some.inj sees
      obtain ⟨client, finished, last⟩ := Option.bind_eq_some_iff.mp steps
      obtain rfl := Option.some.inj last
      rw [streams.client] at finished
      refine ⟨_, by rw [RpcLink.step, finished]; rfl, ?_⟩
      exact ⟨rfl, streams.issued, streams.live, streams.toServer, streams.toClient, streams.sent, streams.told, plain⟩
  | serve port creation =>
      obtain rfl := Option.some.inj sees
      exact streams.serve steps plain
  | game event =>
      obtain rfl := Option.some.inj sees
      obtain ⟨live, moves, last⟩ := Option.bind_eq_some_iff.mp steps
      obtain rfl := Option.some.inj last
      rw [streams.live] at moves
      exact @Streams.perform environment stream link streams (.game event) ⟨live, link.service.replies⟩
        (by rw [AdapterService.step, moves]; rfl) plain
  | peer remotePlayerId event =>
      obtain rfl := Option.some.inj sees
      obtain ⟨live, moves, last⟩ := Option.bind_eq_some_iff.mp steps
      obtain rfl := Option.some.inj last
      rw [streams.live] at moves
      exact @Streams.perform environment stream link streams (.peer remotePlayerId event) ⟨live, link.service.replies⟩
        (by rw [AdapterService.step, moves]; rfl) plain
  | deliver =>
      obtain rfl := Option.some.inj sees
      obtain ⟨idle, takes⟩ := Option.ite_none_right_eq_some.mp steps
      obtain ⟨⟨message, toClient⟩, taken, last⟩ := Option.bind_eq_some_iff.mp takes
      obtain rfl := Option.some.inj last
      obtain ⟨rest, first, carries⟩ := streams.toClient.next taken
      rw [streams.client] at idle
      refine ⟨_, by simp only [RpcLink.step, first, RpcLink.receive, if_pos idle]; rfl, ?_⟩
      refine ⟨?_, streams.issued, streams.live, streams.toServer, carries, streams.sent, ?_, plain⟩
      · exact congrArg (Requests.processJsonMessage message 0) streams.client
      · intro other member
        exact streams.told other (by rw [first]; exact List.mem_cons_of_mem message member)
  | serverReads count => contradiction
  | clientReads count => contradiction

/-- A read event is no step of the link. -/
theorem Streams.unseen (streams : Streams environment stream link) {event : Event} (sees : event.link? = none)
    (permits : Permitted environment stream event) (steps : stream.step environment event = some next) :
    Streams environment next link := by
  cases event with
  | serverReads count =>
      obtain ⟨toServer, reads, last⟩ := Option.bind_eq_some_iff.mp steps
      obtain rfl := Option.some.inj last
      have plain : ∀ message ∈ link.toServer.map ClientRequest.message, environment.jsonCpp.Plain message := by
        intro message member
        obtain ⟨sent, known, rfl⟩ := List.mem_map.mp member
        exact streams.plain.1 sent (streams.issued ▸ streams.sent sent known)
      exact ⟨streams.client, streams.issued, streams.live,
        streams.toServer.onRead plain permits.1 reads, streams.toClient, streams.sent, streams.told,
        streams.plain⟩
  | clientReads count =>
      obtain ⟨toClient, reads, last⟩ := Option.bind_eq_some_iff.mp steps
      obtain rfl := Option.some.inj last
      have plain : ∀ message ∈ link.toClient, environment.jsonCpp.Plain message := fun message member =>
        streams.plain.2 message (streams.told message member)
      exact ⟨streams.client, streams.issued, streams.live, streams.toServer,
        streams.toClient.onRead plain permits.1 reads, streams.sent, streams.told, streams.plain⟩
  | _ => contradiction

end Steps

section Runs

variable {environment : RpcEnvironment} {options : IceAdapterOptions} {freePort : Int}

/-- What is recorded of the messages only grows. -/
theorem step_grows {stream next : RpcStream} {event : Event} (steps : stream.step environment event = some next) :
    stream.issued ⊆ next.issued ∧ stream.told ⊆ next.told := by
  cases event with
  | serve port creation =>
      obtain ⟨⟨message, toServer⟩, _, processes⟩ := Option.bind_eq_some_iff.mp steps
      change process environment message port creation { stream with toServer := toServer } = some next at processes
      unfold process at processes
      split at processes
      · obtain ⟨live, _, last⟩ := Option.bind_eq_some_iff.mp processes
        obtain rfl := Option.some.inj last
        exact ⟨List.Subset.refl _, List.subset_append_left _ _⟩
      · obtain rfl := Option.some.inj processes
        exact ⟨List.Subset.refl _, List.Subset.refl _⟩
  | deliver =>
      obtain ⟨_, takes⟩ := Option.ite_none_right_eq_some.mp steps
      obtain ⟨_, _, last⟩ := Option.bind_eq_some_iff.mp takes
      obtain rfl := Option.some.inj last
      exact ⟨List.Subset.refl _, List.Subset.refl _⟩
  | _ =>
      obtain ⟨_, _, last⟩ := Option.bind_eq_some_iff.mp steps
      obtain rfl := Option.some.inj last
      constructor
      · first | exact List.Subset.refl _ | exact List.subset_append_left _ _
      · first | exact List.Subset.refl _ | exact List.subset_append_left _ _

end Runs

/-- A jsoncpp that reads the texts of these values. -/
def reading (values : List Value) : JsonCpp := Sample.jsonCpp fun text =>
  match values.find? fun value => (Sample.jsonCpp fun _ => (false, .nullValue)).text value = text with
  | some value => (true, value)
  | none => (false, .nullValue)

def connecting : ClientRequest :=
  ⟨0, bytes "connectToPeer", .arrayValue [.stringValue (bytes "you"), .intValue 2, .booleanValue true], some 0⟩

end RpcStream
end Faf
