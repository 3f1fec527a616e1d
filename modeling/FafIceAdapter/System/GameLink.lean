import FafIceAdapter.Adapter.Peers
import FafIceAdapter.Adapter.Traffic
import FafIceAdapter.Library.Channel
import FafIceAdapter.Library.Sequence

namespace Faf
open Json StreamReader Transition

/-- The adapter and its games. A connection is a stream of bytes in each direction, and what its game has sent and
read is recorded. -/
structure GameLink where
  adapter : IceAdapter
  incoming : Nat → Channel UInt8
  outgoing : Nat → Channel UInt8
  sent : Nat → List GPGNetMessage
  received : Nat → List GPGNetMessage

/-- A message of a game reaches the adapter as bytes only. -/
def IceAdapter.Event.isMessage : IceAdapter.Event → Bool
  | .clientMessage _ _ => true
  | _ => false

namespace GameLink

def initial (options : IceAdapterOptions) (freePort : Int) : GameLink where
  adapter := .initial options freePort
  incoming _ := .empty
  outgoing _ := .empty
  sent _ := []
  received _ := []

/-- The bytes that are sent for a message. There are none when the encoder throws. -/
def wire (jsonCpp : JsonCpp) (message : GPGNetMessage) : Bytes :=
  match message.toBinary jsonCpp with
  | .ok binary => binary
  | .error _ => []

/-- A step of the adapter, which sends bytes to its connections. -/
def perform (jsonCpp : JsonCpp) (event : IceAdapter.Event) (link : GameLink) : Option GameLink := do
  let adapter ← link.adapter.step jsonCpp event
  return { link with
    adapter := adapter
    outgoing := fun handler => (link.outgoing handler).send
      ((sentTo handler (adapter.trace.drop link.adapter.trace.length)).flatMap (wire jsonCpp)) }

/-- A game sends a message. -/
def sendMessage (jsonCpp : JsonCpp) (handler : Nat) (message : GPGNetMessage) (link : GameLink) : GameLink :=
  match message.toBinary jsonCpp with
  | .ok binary =>
      { link with
        incoming := Function.update link.incoming handler ((link.incoming handler).send binary)
        sent := Function.update link.sent handler (link.sent handler ++ [message]) }
  | .error _ => link

/-- The adapter handles the messages of one result of `Recv` in order. An exception of the parser leaves the event
loop. -/
def onRead (jsonCpp : JsonCpp) (handler count : Nat) (link : GameLink) : Option GameLink :=
  let (drained, channel) := (link.incoming handler).receive GPGNetMessage.readMessage count
  if drained.failed then none
  else
    drained.delivered.foldlM (fun link message => link.perform jsonCpp (.clientMessage handler message))
      { link with incoming := Function.update link.incoming handler channel }

/-- A game reads bytes of the adapter. -/
def onClientRead (handler count : Nat) (link : GameLink) : Option GameLink :=
  let (drained, channel) := (link.outgoing handler).receive GPGNetMessage.readMessage count
  if drained.failed then none
  else
    some { link with
      outgoing := Function.update link.outgoing handler channel
      received := Function.update link.received handler (link.received handler ++ drained.delivered) }

/-- A game sends a message, and bytes arrive at the adapter or at a game. -/
inductive Event where
  | adapter (event : IceAdapter.Event)
  | sends (handler : Nat) (message : GPGNetMessage)
  | arrives (handler count : Nat)
  | reads (handler count : Nat)

/-- The adapter reads from its registered connections. A game may still use a connection that the adapter has
removed. -/
def step (jsonCpp : JsonCpp) (link : GameLink) : Event → Option GameLink
  | .adapter event => if event.isMessage then none else link.perform jsonCpp event
  | .sends handler message =>
      if handler < link.adapter.accepted then some (link.sendMessage jsonCpp handler message) else none
  | .arrives handler count =>
      if handler ∈ link.adapter.connectedSockets then link.onRead jsonCpp handler count else none
  | .reads handler count => if handler < link.adapter.accepted then link.onClientRead handler count else none

def machine (jsonCpp : JsonCpp) (options : IceAdapterOptions) (freePort : Int) : Machine GameLink Event where
  initial := initial options freePort
  step := step jsonCpp

/-- The games send what the wire format can hold. -/
def Event.Supported : Event → Prop
  | .sends _ message => message.LengthsBelow (2 ^ 31) ∧ ∀ chunk ∈ message.chunks, chunk.isSupported
  | .adapter _ | .arrives _ _ | .reads _ _ => True

/-- The client keeps to what the wire format can hold. -/
def Event.Bounded : Event → Prop
  | .adapter event => event.Bounded
  | .sends _ _ | .arrives _ _ | .reads _ _ => True

instance (event : Event) : Decidable event.Supported :=
  match event with
  | .sends _ message =>
      inferInstanceAs (Decidable (message.LengthsBelow (2 ^ 31) ∧ ∀ chunk ∈ message.chunks, chunk.isSupported))
  | .adapter _ | .arrives _ _ | .reads _ _ => instDecidableTrue

instance (event : Event) : Decidable event.Bounded :=
  match event with
  | .adapter event => inferInstanceAs (Decidable event.Bounded)
  | .sends _ _ | .arrives _ _ | .reads _ _ => instDecidableTrue

/-- The sent messages are received in order or on their way. -/
abbrev Conveyed (sent received : List GPGNetMessage) (channel : Channel UInt8) : Prop :=
  Channel.Conveys GPGNetMessage.readMessage GPGNetMessage.encode GPGNetMessage.readBack sent received channel

/-- Each connection conveys the messages of its game, where some that the adapter has read are pending. -/
structure Heard (pending : Nat → List GPGNetMessage) (link : GameLink) : Prop where
  encodable : ∀ handler, ∀ message ∈ link.sent handler, message.Encodable
  incoming : ∀ handler, Conveyed (link.sent handler) (receivedFrom handler link.adapter.trace ++ pending handler)
    (link.incoming handler)

/-- Each connection conveys the messages of the adapter. -/
structure Told (link : GameLink) : Prop where
  moderate : link.adapter.Moderate
  outgoing : ∀ handler, Conveyed (sentTo handler link.adapter.trace) (link.received handler) (link.outgoing handler)

theorem wire_encodable (jsonCpp : JsonCpp) {messages : List GPGNetMessage}
    (encodable : ∀ message ∈ messages, message.Encodable) :
    messages.flatMap (wire jsonCpp) = messages.flatMap GPGNetMessage.encode := by
  apply List.flatMap_congr
  intro message member
  rw [wire, (encodable message member).toBinary]

theorem reads_each {messages : List GPGNetMessage} (encodable : ∀ message ∈ messages, message.Encodable) :
    ∀ message ∈ messages, Reader.Reads GPGNetMessage.readMessage message.encode message.readBack :=
  fun message member => GPGNetMessage.reads_message (encodable message member)

/-- No message is pending. -/
abbrev idle : Nat → List GPGNetMessage := fun _ => []

section Steps

variable {jsonCpp : JsonCpp} {link next : GameLink}

/-- A game that sends reaches its own stream to the adapter only. -/
theorem sendMessage_frame (handler : Nat) (message : GPGNetMessage) :
    (link.sendMessage jsonCpp handler message).adapter = link.adapter ∧
      (link.sendMessage jsonCpp handler message).outgoing = link.outgoing ∧
      (link.sendMessage jsonCpp handler message).received = link.received := by
  rw [sendMessage]
  split
  · exact ⟨rfl, rfl, rfl⟩
  · exact ⟨rfl, rfl, rfl⟩

/-- A step of the adapter handles the first of the pending messages or none. -/
theorem Heard.perform {pending later : Nat → List GPGNetMessage} {event : IceAdapter.Event}
    (heard : Heard pending link)
    (handles : ∀ handler, pending handler = event.messageFrom handler ++ later handler)
    (performs : link.perform jsonCpp event = some next) : Heard later next := by
  obtain ⟨adapter, steps, last⟩ := Option.bind_eq_some_iff.mp performs
  obtain rfl := Option.some.inj last
  obtain ⟨observations, grows, receives⟩ := IceAdapter.step_grows steps
  refine ⟨heard.encodable, fun handler => ?_⟩
  have before := heard.incoming handler
  rw [handles, ← receives handler, ← List.append_assoc, ← receivedFrom_append, ← grows] at before
  exact before

theorem Told.perform {event : IceAdapter.Event} (told : Told link) (bounded : event.Bounded)
    (performs : link.perform jsonCpp event = some next) : Told next := by
  obtain ⟨adapter, steps, last⟩ := Option.bind_eq_some_iff.mp performs
  obtain rfl := Option.some.inj last
  have moderate := told.moderate.step bounded steps
  obtain ⟨observations, grows, _⟩ := IceAdapter.step_grows steps
  have fresh : adapter.trace.drop link.adapter.trace.length = observations := by rw [grows, List.drop_left]
  refine ⟨moderate, fun handler => ?_⟩
  have encodable : ∀ message ∈ sentTo handler observations, message.Encodable := by
    intro message member
    apply moderate.sent handler message
    rw [grows, sentTo_append]
    exact List.mem_append_right _ member
  change Conveyed (sentTo handler adapter.trace) (link.received handler) ((link.outgoing handler).send
    ((sentTo handler (adapter.trace.drop link.adapter.trace.length)).flatMap (wire jsonCpp)))
  rw [fresh, wire_encodable jsonCpp encodable, grows, sentTo_append]
  exact (told.outgoing handler).send _

theorem Heard.sendMessage (heard : Heard idle link) {handler : Nat} {message : GPGNetMessage}
    (short : message.LengthsBelow (2 ^ 31)) (supported : ∀ chunk ∈ message.chunks, chunk.isSupported) :
    Heard idle (link.sendMessage jsonCpp handler message) := by
  unfold GameLink.sendMessage
  split
  · rename_i binary encoded
    obtain ⟨numbersFit, rfl⟩ := (GPGNetMessage.toBinary_ok jsonCpp message binary).mp encoded
    have encodable := GPGNetMessage.encodable_of numbersFit short supported
    constructor
    · intro other
      by_cases same : other = handler
      · simp only [same, Function.update_self]
        exact List.forall_mem_append.mpr ⟨heard.encodable handler, List.forall_mem_singleton.mpr encodable⟩
      · simp only [Function.update_of_ne same]
        exact heard.encodable other
    · intro other
      by_cases same : other = handler
      · have sent := (heard.incoming handler).send [message]
        rw [List.flatMap_singleton] at sent
        simp only [same, Function.update_self]
        exact sent
      · simp only [Function.update_of_ne same]
        exact heard.incoming other
  · exact heard

/-- The messages of one read are handled one after the other. -/
theorem Heard.handle {handler : Nat} (messages : List GPGNetMessage)
    (heard : Heard (Function.update idle handler messages) link)
    (handles : messages.foldlM (fun link message => link.perform jsonCpp (.clientMessage handler message)) link =
      some next) : Heard idle next := by
  induction messages generalizing link with
  | nil =>
      obtain rfl := Option.some.inj handles
      rwa [Function.update_eq_self handler idle] at heard
  | cons message rest ih =>
      rw [List.foldlM_cons] at handles
      obtain ⟨middle, performs, others⟩ := Option.bind_eq_some_iff.mp handles
      refine ih (heard.perform ?_ performs) others
      intro other
      rw [IceAdapter.Event.messageFrom]
      by_cases same : other = handler
      · rw [same, Function.update_self, Function.update_self, if_pos rfl]
        rfl
      · rw [Function.update_of_ne same, Function.update_of_ne same, if_neg (Ne.symm same)]
        rfl

theorem Heard.onRead (heard : Heard idle link) {handler count : Nat}
    (reads : link.onRead jsonCpp handler count = some next) : Heard idle next := by
  unfold GameLink.onRead at reads
  have received := (heard.incoming handler).receive GPGNetMessage.readMessage_shortens rfl
    (reads_each (heard.encodable handler)) count
  obtain ⟨completes, conveyed⟩ := received
  simp only [completes, Bool.false_eq_true, if_false] at reads
  refine Heard.handle _ ?_ reads
  refine ⟨heard.encodable, ?_⟩
  intro other
  by_cases same : other = handler
  · rw [List.append_nil] at conveyed
    simp only [same, Function.update_self]
    exact conveyed
  · simp only [Function.update_of_ne same]
    exact heard.incoming other

theorem Told.onRead (told : Told link) {handler count : Nat}
    (reads : link.onRead jsonCpp handler count = some next) : Told next := by
  obtain ⟨_, handles⟩ := Option.ite_none_left_eq_some.mp reads
  refine Sequence.foldlM_invariant Told ?_ ?_ handles
  · intro link message next told performs
    have bounded : IceAdapter.Event.Bounded (.clientMessage handler message) := trivial
    exact told.perform bounded performs
  · exact ⟨told.moderate, told.outgoing⟩

theorem Told.onClientRead (told : Told link) {handler count : Nat}
    (reads : link.onClientRead handler count = some next) : Told next := by
  unfold GameLink.onClientRead at reads
  obtain ⟨completes, conveyed⟩ := (told.outgoing handler).receive GPGNetMessage.readMessage_shortens rfl
    (reads_each (told.moderate.sent handler)) count
  simp only [completes, Bool.false_eq_true, if_false] at reads
  obtain rfl := Option.some.inj reads
  refine ⟨told.moderate, ?_⟩
  intro other
  by_cases same : other = handler
  · simp only [same, Function.update_self]
    exact conveyed
  · simp only [Function.update_of_ne same]
    exact told.outgoing other

theorem Heard.step {event : Event} (heard : Heard idle link) (supported : event.Supported)
    (steps : link.step jsonCpp event = some next) : Heard idle next := by
  cases event with
  | adapter event =>
      obtain ⟨other, performs⟩ := Option.ite_none_left_eq_some.mp steps
      refine heard.perform ?_ performs
      intro handler
      cases event with
      | clientMessage source message => exact absurd rfl other
      | _ => rfl
  | sends handler message =>
      obtain ⟨_, last⟩ := Option.ite_none_right_eq_some.mp steps
      obtain rfl := Option.some.inj last
      exact heard.sendMessage supported.1 supported.2
  | arrives handler count => exact heard.onRead (Option.ite_none_right_eq_some.mp steps).2
  | reads handler count =>
      obtain ⟨_, reads⟩ := Option.ite_none_right_eq_some.mp steps
      obtain ⟨_, last⟩ := Option.ite_none_left_eq_some.mp reads
      obtain rfl := Option.some.inj last
      exact ⟨heard.encodable, heard.incoming⟩

theorem Told.step {event : Event} (told : Told link) (bounded : event.Bounded)
    (steps : link.step jsonCpp event = some next) : Told next := by
  cases event with
  | adapter event => exact told.perform bounded (Option.ite_none_left_eq_some.mp steps).2
  | sends handler message =>
      obtain ⟨_, last⟩ := Option.ite_none_right_eq_some.mp steps
      obtain rfl := Option.some.inj last
      obtain ⟨adapter, outgoing, received⟩ := @sendMessage_frame jsonCpp link handler message
      constructor
      · rw [adapter]
        exact told.moderate
      · rw [adapter, outgoing, received]
        exact told.outgoing
  | arrives handler count => exact told.onRead (Option.ite_none_right_eq_some.mp steps).2
  | reads handler count => exact told.onClientRead (Option.ite_none_right_eq_some.mp steps).2

end Steps

/-- The options fit the messages that carry them. -/
structure Fitting (options : IceAdapterOptions) (freePort : Int) : Prop where
  login : options.localPlayerLogin.length < 2 ^ 31
  playerId : FitsInt32 options.localPlayerId
  lobbyPort : FitsInt32 (IceAdapter.initial options freePort).lobbyPort

theorem heard_initial (options : IceAdapterOptions) (freePort : Int) : Heard idle (initial options freePort) :=
  ⟨fun _ => List.forall_mem_nil _, fun _ => Channel.conveys_empty rfl⟩

theorem told_initial {options : IceAdapterOptions} {freePort : Int} (fitting : Fitting options freePort) :
    Told (initial options freePort) := by
  refine ⟨⟨fitting.login, fitting.playerId, fitting.lobbyPort, List.forall_mem_nil _, ?_, ?_⟩,
    fun _ => Channel.conveys_empty rfl⟩
  · intro playerId relay found
    change (∅ : Relays)[playerId]? = some relay at found
    simp at found
  · intro handler message member
    exact absurd member List.not_mem_nil

theorem told_reaches {jsonCpp : JsonCpp} {options : IceAdapterOptions} {freePort : Int}
    (fitting : Fitting options freePort) {allowed : GameLink → Event → Prop}
    (bounded : ∀ link event, allowed link event → event.Bounded) {events : List Event} {link : GameLink}
    (run : (machine jsonCpp options freePort).Reaches allowed events link) : Told link := by
  apply run.invariant Told (told_initial fitting)
  intro link event next told permits steps
  exact told.step (bounded link event permits) steps

/-- However the bytes are cut, the messages of a game that the wire format can hold reach the adapter in order, without
loss and without duplicates, whatever the client calls: what is not received yet is in the channel, nothing is left when
all bytes have arrived, and the parser does not throw. So do the messages of the adapter reach a game, whatever the
games send, when the client calls for nothing that the wire format cannot hold. -/
theorem link_delivers (jsonCpp : JsonCpp) (options : IceAdapterOptions) (freePort : Int) (events : List Event)
    (link : GameLink) (run : (machine jsonCpp options freePort).Reaches (fun _ _ => True) events link)
    (handler : Nat) :
    ((∀ event ∈ events, event.Supported) →
      Conveyed (link.sent handler) (receivedFrom handler link.adapter.trace) (link.incoming handler) ∧
        ((link.incoming handler).transit = [] →
          receivedFrom handler link.adapter.trace = (link.sent handler).map GPGNetMessage.readBack) ∧
        ∀ count, ((link.incoming handler).receive GPGNetMessage.readMessage count).1.failed = false) ∧
      (Fitting options freePort → (∀ event ∈ events, event.Bounded) →
        Conveyed (sentTo handler link.adapter.trace) (link.received handler) (link.outgoing handler) ∧
          ((link.outgoing handler).transit = [] →
            link.received handler = (sentTo handler link.adapter.trace).map GPGNetMessage.readBack) ∧
          ∀ count, ((link.outgoing handler).receive GPGNetMessage.readMessage count).1.failed = false) := by
  constructor
  · intro supported
    have heard : Heard idle link := by
      apply (run.restrict supported).invariant (Heard idle) (heard_initial options freePort)
      exact fun heard permits steps => heard.step permits.2 steps
    have incoming := heard.incoming handler
    rw [List.append_nil] at incoming
    have toAdapter := reads_each (heard.encodable handler)
    exact ⟨incoming, incoming.arrived toAdapter, fun count =>
      (incoming.receive GPGNetMessage.readMessage_shortens rfl toAdapter count).1⟩
  · intro fitting bounded
    have told := told_reaches fitting (fun _ _ permits => permits.2) (run.restrict bounded)
    have outgoing := told.outgoing handler
    have toGame := reads_each (told.moderate.sent handler)
    exact ⟨outgoing, outgoing.arrived toGame, fun count =>
      (outgoing.receive GPGNetMessage.readMessage_shortens rfl toGame count).1⟩

def plainMachine : Machine GameLink Event :=
  machine (Sample.jsonCpp fun _ => (false, .nullValue)) ⟨1, bytes "Rhiza", 6112⟩ 0

/-- A game reports two states in pieces of bytes, and reads a part of what it is told. -/
def opening : List Event :=
  [.adapter (.connectToPeer (bytes "you") 2 true 6001), .adapter .newClient,
    .sends 0 ⟨bytes "GameState", [.stringValue (bytes "Idle")]⟩, .arrives 0 5, .arrives 0 100,
    .sends 0 ⟨bytes "GameState", [.stringValue (bytes "Lobby")]⟩, .arrives 0 100, .reads 0 70, .reads 0 100]

theorem link_delivers_opening :
    ∃ link, plainMachine.run opening = some link ∧ (link.received 0).length = 2 ∧
      (Conveyed (link.sent 0) (receivedFrom 0 link.adapter.trace) (link.incoming 0) ∧
        ((link.incoming 0).transit = [] →
          receivedFrom 0 link.adapter.trace = (link.sent 0).map GPGNetMessage.readBack) ∧
        ∀ count, ((link.incoming 0).receive GPGNetMessage.readMessage count).1.failed = false) ∧
      Conveyed (sentTo 0 link.adapter.trace) (link.received 0) (link.outgoing 0) ∧
        ((link.outgoing 0).transit = [] →
          link.received 0 = (sentTo 0 link.adapter.trace).map GPGNetMessage.readBack) ∧
        ∀ count, ((link.outgoing 0).receive GPGNetMessage.readMessage count).1.failed = false := by
  have told : (plainMachine.run opening).map (fun link => (link.received 0).length) = some 2 := by
    decide +kernel
  obtain ⟨link, run, two⟩ := Option.map_eq_some_iff.mp told
  have fitting : Fitting ⟨1, bytes "Rhiza", 6112⟩ 0 := ⟨by decide, by decide, by decide⟩
  have supported : ∀ event ∈ opening, event.Supported := by decide
  have bounded : ∀ event ∈ opening, event.Bounded := by decide
  obtain ⟨heard, spoken⟩ := link_delivers _ _ _ opening link (Machine.reaches_iff_run.mpr run) 0
  exact ⟨link, run, two, heard supported, spoken fitting bounded⟩

end GameLink
end Faf
