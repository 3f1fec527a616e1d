import FafIceAdapter.Library.Projection
import FafIceAdapter.Server.Reading

namespace Faf
open Json JsonRpc Transition

/-- A client connects, sends parts of its stream, and leaves. -/
inductive ClientEvent where
  | accepted
  | fragments (parts : List Bytes)
  | closed

/-- The sessions of one socket: the buffer of the current one, and the messages of all. -/
structure ClientSession where
  buffer : Option Bytes
  dispatched : List Value

namespace ClientSession

def initial : ClientSession := ⟨none, []⟩

/-- Every session starts from an empty buffer and reads its own fragments. -/
def step (jsonCpp : JsonCpp) (session : ClientSession) : ClientEvent → ClientSession
  | .accepted => { session with buffer := some [] }
  | .closed => { session with buffer := none }
  | .fragments parts =>
      match session.buffer with
      | none => session
      | some msgBuffer =>
          let (values, left) := JsonRpc.read jsonCpp msgBuffer parts
          ⟨some left, session.dispatched ++ values⟩

def replay (jsonCpp : JsonCpp) (events : List ClientEvent) : ClientSession := events.foldl (step jsonCpp) initial

def machine (jsonCpp : JsonCpp) : Machine ClientSession ClientEvent where
  initial := initial
  step session event := some (session.step jsonCpp event)

theorem replay_of_reaches {jsonCpp : JsonCpp} {events : List ClientEvent} {session : ClientSession}
    (run : (machine jsonCpp).Reaches (fun _ _ => True) events session) : session = replay jsonCpp events := by
  induction run with
  | initial => rfl
  | step _ _ steps ih =>
      obtain rfl := Option.some.inj steps
      rw [replay, List.foldl_append, List.foldl_cons, List.foldl_nil, ih]
      rfl

end ClientSession

namespace Sessions

/-- The events of the other sockets are left out. -/
def Event.concerns (socket : Nat) : Event → Bool
  | newClient other | clientDisconnect other | read other _ _ => other = socket
  | send _ => true

/-- What the events of a socket bring to its sessions. -/
def Event.own? (socket : Nat) : Event → Option ClientEvent
  | newClient other => if other = socket then some .accepted else none
  | clientDisconnect other => if other = socket then some .closed else none
  | read other parts _ => if other = socket then some (.fragments parts) else none
  | send _ => none

/-- The messages of a socket that were passed on for processing. -/
def dispatchedTo (socket : Nat) (dispatched : List (Nat × Value)) : List Value :=
  dispatched.filterMap fun entry => if entry.1 = socket then some entry.2 else none

/-- No call of `Send` returned zero. -/
def Accepted (sessions : Sessions) : Prop := ∀ call ∈ sessions.sends, call.2.result ≠ .accepted 0

theorem Accepted.before {sessions later : Sessions} (accepted : later.Accepted)
    (grows : sessions.sends <+: later.sends) : sessions.Accepted :=
  fun call member => accepted call (grows.subset member)

/-- Nothing changes but the calls of `Send`. -/
structure Undisturbed (sessions next : Sessions) : Prop where
  maps : next.maps = sessions.maps
  dispatched : next.dispatched = sessions.dispatched
  fault : next.fault = none

section Sending

variable {reading : Option Nat} {sessions : Sessions} {outgoing : Outgoing} {outgoings : List Outgoing}

theorem undisturbed_sendMessage (running : sessions.fault = none)
    (accepted : outgoing.Accepted sessions.maps.connectedSockets) :
    Undisturbed sessions (sessions.sendMessage reading outgoing) := by
  rcases @sendMessage_cases reading sessions outgoing with same | ⟨_, same⟩
  · rw [same]
    exact ⟨rfl, rfl, running⟩
  · rw [same, Outgoing.sendLoop_accepted accepted]
    exact ⟨rfl, rfl, rfl⟩

theorem accepted_of_sendMessage (running : sessions.fault = none)
    (accepted : (sessions.sendMessage reading outgoing).Accepted) :
    outgoing.Accepted sessions.maps.connectedSockets := by
  by_cases empty : sessions.maps.connectedSockets = []
  · rw [empty]
    exact List.forall_mem_nil _
  · apply Outgoing.accepted_of_calls
    intro call member
    apply accepted (reading, call)
    rw [sendMessage, running, Outgoing.sendMessage, if_neg empty]
    exact List.mem_append_right _ (List.mem_map.mpr ⟨call, member, rfl⟩)

theorem Undisturbed.trans {middle next : Sessions} (first : Undisturbed sessions middle)
    (second : Undisturbed middle next) : Undisturbed sessions next :=
  ⟨second.maps.trans first.maps, second.dispatched.trans first.dispatched, second.fault⟩

theorem undisturbed_foldl (running : sessions.fault = none)
    (accepted : ∀ outgoing ∈ outgoings, outgoing.Accepted sessions.maps.connectedSockets) :
    Undisturbed sessions (outgoings.foldl (sendMessage reading) sessions) := by
  induction outgoings generalizing sessions with
  | nil => exact ⟨rfl, rfl, running⟩
  | cons outgoing later ih =>
      obtain ⟨here, others⟩ := List.forall_mem_cons.mp accepted
      have first := @undisturbed_sendMessage reading sessions outgoing running here
      apply first.trans (ih first.fault _)
      rw [first.maps]
      exact others

theorem accepted_of_foldl (running : sessions.fault = none)
    (accepted : (outgoings.foldl (sendMessage reading) sessions).Accepted) :
    ∀ outgoing ∈ outgoings, outgoing.Accepted sessions.maps.connectedSockets := by
  induction outgoings generalizing sessions with
  | nil => exact List.forall_mem_nil _
  | cons outgoing later ih =>
      have here := accepted_of_sendMessage running (accepted.before sends_foldl)
      have first := @undisturbed_sendMessage reading sessions outgoing running here
      have others := ih first.fault accepted
      rw [first.maps] at others
      exact List.forall_mem_cons.mpr ⟨here, others⟩

end Sending

/-- What the messages of a read event send is accepted. -/
def Processed (jsonCpp : JsonCpp) (socket : Nat) (handlings : Nat → Handling) (sockets : List Nat) :
    Nat → List Value → Prop
  | _, [] => True
  | count, json :: later =>
      (∀ outgoing ∈ (handlings count).outgoing jsonCpp json socket, outgoing.Accepted sockets) ∧
        Processed jsonCpp socket handlings sockets (count + 1) later

/-- An event is possible, and what it sends is accepted. -/
def Permitted (jsonCpp : JsonCpp) (sessions : Sessions) : Event → Prop
  | .newClient socket => socket ∉ sessions.maps.connectedSockets
  | .clientDisconnect _ => True
  | .read socket parts handlings => socket ∈ sessions.maps.connectedSockets →
      Processed jsonCpp socket handlings sessions.maps.connectedSockets 0
        (drain jsonCpp (sessions.received socket parts)).1
  | .send outgoing => outgoing.Accepted sessions.maps.connectedSockets

/-- What an event does to the maps and to the dispatched messages when all it sends is accepted. -/
def quietly (jsonCpp : JsonCpp) (sessions : Sessions) : Event → SessionMaps × List (Nat × Value)
  | .newClient socket => (sessions.maps.register socket, sessions.dispatched)
  | .clientDisconnect socket => (sessions.maps.erase socket, sessions.dispatched)
  | .read socket parts _ =>
      if socket ∈ sessions.maps.connectedSockets then
        let (values, left) := drain jsonCpp (sessions.received socket parts)
        (sessions.maps.store socket left, sessions.dispatched ++ values.map (socket, ·))
      else (sessions.maps, sessions.dispatched)
  | .send _ => (sessions.maps, sessions.dispatched)

section Reading

variable {jsonCpp : JsonCpp} {socket : Nat} {handlings : Nat → Handling} {sessions : Sessions}
  {msgBuffer : Bytes} {fuel count : Nat}

/-- The message is passed on, and the rest of the buffer is there for the next one. -/
theorem processMessage_accepted {json : Value} {handling : Handling} {left : Bytes} (running : sessions.fault = none)
    (accepted : ∀ outgoing ∈ handling.outgoing jsonCpp json socket,
      outgoing.Accepted sessions.maps.connectedSockets) :
    Undisturbed ((sessions.store socket left).dispatch socket json)
        ((sessions.store socket left).processMessage jsonCpp socket json handling) ∧
      ((sessions.store socket left).processMessage jsonCpp socket json handling).maps.currentMsgs socket =
        some left := by
  have calm := @undisturbed_foldl (some socket) ((sessions.store socket left).dispatch socket json) _ running accepted
  refine ⟨calm, ?_⟩
  exact (congrArg (SessionMaps.currentMsgs · socket) calm.maps).trans (currentMsgs_store socket left sessions)

theorem store_store (first second : Bytes) (sessions : Sessions) :
    (sessions.maps.store socket first).store socket second = sessions.maps.store socket second :=
  congrArg (SessionMaps.mk _ _) (Function.update_idem _ _ _)

/-- A loop whose messages send nothing that fails takes what the buffer alone gives. -/
theorem readMessages_processed (running : sessions.fault = none)
    (present : sessions.maps.currentMsgs socket = some msgBuffer) (enough : msgBuffer.length < fuel)
    (processed : Processed jsonCpp socket handlings sessions.maps.connectedSockets count
      (drain jsonCpp msgBuffer).1) :
    (readMessages jsonCpp socket handlings fuel count sessions).fault = none ∧
      (readMessages jsonCpp socket handlings fuel count sessions).maps =
        sessions.maps.store socket (drain jsonCpp msgBuffer).2 ∧
      (readMessages jsonCpp socket handlings fuel count sessions).dispatched =
        sessions.dispatched ++ (drain jsonCpp msgBuffer).1.map (socket, ·) := by
  induction fuel generalizing count sessions msgBuffer with
  | zero => omega
  | succ fuel ih =>
      rcases @readMessages_cases jsonCpp socket handlings sessions fuel count with
        ⟨_, faulted⟩ | ⟨_, ⟨absent, _⟩ | ⟨held, kept, ending⟩⟩
      · rw [running] at faulted
        contradiction
      · exact absurd (present.symm.trans absent) (Option.some_ne_none _)
      · obtain rfl := Option.some.inj (present.symm.trans kept)
        rcases ending with ⟨left, same, drained⟩ | ⟨json, left, shorter, drained, same⟩
        · rw [same, drained]
          exact ⟨running, rfl, (List.append_nil _).symm⟩
        · rw [drained] at processed
          obtain ⟨first, later⟩ := processed
          obtain ⟨calm, stored⟩ := @processMessage_accepted jsonCpp socket sessions json (handlings count) left
            running first
          have maps : ((sessions.store socket left).processMessage jsonCpp socket json
              (handlings count)).maps = sessions.maps.store socket left := calm.maps
          rw [same, drained]
          obtain ⟨faultless, maps', dispatched⟩ := @ih _ left (count + 1) calm.fault stored (by omega)
            (by rw [maps]; exact later)
          refine ⟨faultless, ?_, ?_⟩
          · rw [maps', maps, store_store]
          · rw [dispatched, calm.dispatched, List.map_cons]
            exact List.append_assoc _ _ _

/-- In a loop without a failed call every message sends only what is accepted. -/
theorem processed_of_readMessages (running : sessions.fault = none)
    (present : sessions.maps.currentMsgs socket = some msgBuffer) (enough : msgBuffer.length < fuel)
    (accepted : (readMessages jsonCpp socket handlings fuel count sessions).Accepted) :
    Processed jsonCpp socket handlings sessions.maps.connectedSockets count (drain jsonCpp msgBuffer).1 := by
  induction fuel generalizing count sessions msgBuffer with
  | zero => omega
  | succ fuel ih =>
      rcases @readMessages_cases jsonCpp socket handlings sessions fuel count with
        ⟨_, faulted⟩ | ⟨_, ⟨absent, _⟩ | ⟨held, kept, ending⟩⟩
      · rw [running] at faulted
        contradiction
      · exact absurd (present.symm.trans absent) (Option.some_ne_none _)
      · obtain rfl := Option.some.inj (present.symm.trans kept)
        rcases ending with ⟨left, _, drained⟩ | ⟨json, left, shorter, drained, same⟩
        · rw [drained]
          trivial
        · rw [same] at accepted
          have here := @accepted_of_foldl (some socket) ((sessions.store socket left).dispatch socket json) _
            running (accepted.before (sends_readMessages fuel (count + 1)))
          obtain ⟨calm, stored⟩ := @processMessage_accepted jsonCpp socket sessions json (handlings count) left
            running here
          have later := @ih _ left (count + 1) calm.fault stored (by omega) accepted
          rw [calm.maps] at later
          rw [drained]
          exact ⟨here, later⟩

theorem sends_step {event : Event} {next : Sessions} (steps : sessions.step jsonCpp event = some next) :
    sessions.sends <+: next.sends := by
  obtain ⟨_, steps⟩ := Option.ite_none_left_eq_some.mp steps
  cases event with
  | newClient socket =>
      obtain ⟨_, last⟩ := Option.ite_none_left_eq_some.mp steps
      obtain rfl := Option.some.inj last
      exact List.prefix_refl _
  | clientDisconnect socket =>
      obtain rfl := Option.some.inj steps
      exact List.prefix_refl _
  | send outgoing =>
      obtain rfl := Option.some.inj steps
      exact sends_sendMessage
  | read socket parts handlings =>
      obtain rfl := Option.some.inj steps
      unfold read
      split
      · exact @sends_readMessages jsonCpp socket handlings (sessions.store socket _) _ 0
      · exact List.prefix_refl _

/-- An event without a failed call is permitted. -/
theorem permitted_of_step {event : Event} {next : Sessions} (steps : sessions.step jsonCpp event = some next)
    (accepted : next.Accepted) : sessions.fault = none ∧ Permitted jsonCpp sessions event := by
  obtain ⟨idle, steps⟩ := Option.ite_none_left_eq_some.mp steps
  have running := Option.not_isSome_iff_eq_none.mp idle
  refine ⟨running, ?_⟩
  cases event with
  | newClient socket => exact (Option.ite_none_left_eq_some.mp steps).1
  | clientDisconnect socket => trivial
  | send outgoing =>
      obtain rfl := Option.some.inj steps
      exact accepted_of_sendMessage running accepted
  | read socket parts handlings =>
      intro registered
      obtain rfl := Option.some.inj steps
      rw [read, if_pos registered] at accepted
      exact @processed_of_readMessages jsonCpp socket handlings (sessions.store socket _) _ _ 0 running
        (currentMsgs_store socket _ sessions) (Nat.lt_succ_self _) accepted

/-- A permitted event has the effect that it has when all it sends is accepted. -/
theorem step_permitted {event : Event} (running : sessions.fault = none)
    (permitted : Permitted jsonCpp sessions event) : ∃ next, sessions.step jsonCpp event = some next ∧
      next.fault = none ∧ (next.maps, next.dispatched) = quietly jsonCpp sessions event := by
  have idle : ¬ sessions.fault.isSome := by simp [running]
  rw [step.eq_def, if_neg idle]
  cases event with
  | newClient socket => exact ⟨_, if_neg permitted, running, rfl⟩
  | clientDisconnect socket => exact ⟨_, rfl, running, rfl⟩
  | send outgoing =>
      have calm := @undisturbed_sendMessage none sessions outgoing running permitted
      exact ⟨_, rfl, calm.fault, Prod.ext calm.maps calm.dispatched⟩
  | read socket parts handlings =>
      refine ⟨_, rfl, ?_⟩
      by_cases registered : socket ∈ sessions.maps.connectedSockets
      · obtain ⟨faultless, maps, dispatched⟩ := @readMessages_processed jsonCpp socket handlings
          (sessions.store socket (sessions.received socket parts)) _ _ 0 running
          (currentMsgs_store socket _ sessions) (Nat.lt_succ_self _) (permitted registered)
        rw [read, if_pos registered, quietly, if_pos registered]
        refine ⟨faultless, Prod.ext ?_ dispatched⟩
        exact maps.trans (store_store _ _ sessions)
      · rw [read, if_neg registered, quietly, if_neg registered]
        exact ⟨running, rfl⟩

/-- The events that leave no failed call behind. -/
def Quiet (jsonCpp : JsonCpp) (sessions : Sessions) (event : Event) : Prop :=
  ∀ next, sessions.step jsonCpp event = some next → next.Accepted

/-- Such an event is permitted, and it has no other effect. -/
theorem Quiet.effect {event : Event} {next : Sessions} (quiet : Quiet jsonCpp sessions event)
    (steps : sessions.step jsonCpp event = some next) :
    Permitted jsonCpp sessions event ∧ (next.maps, next.dispatched) = quietly jsonCpp sessions event := by
  obtain ⟨running, permitted⟩ := permitted_of_step steps (quiet next steps)
  obtain ⟨other, steps', _, effect⟩ := step_permitted running permitted
  obtain rfl := Option.some.inj (steps.symm.trans steps')
  exact ⟨permitted, effect⟩

/-- Every event of a run without a failed call leaves none behind. -/
theorem reaches_quiet {events : List Event} (run : (machine jsonCpp).Reaches (fun _ _ => True) events sessions)
    (accepted : sessions.Accepted) : (machine jsonCpp).Reaches (Quiet jsonCpp) events sessions := by
  induction run with
  | initial => exact .initial
  | @step _ state next event _ _ steps ih =>
      refine .step (ih (accepted.before (sends_step steps))) ?_ steps
      intro other steps'
      obtain rfl := Option.some.inj (steps.symm.trans steps')
      exact accepted

end Reading

end Sessions

namespace SessionMaps

/-- The buffer of a registered socket. -/
def buffer (socket : Nat) (maps : SessionMaps) : Option Bytes :=
  if socket ∈ maps.connectedSockets then some ((maps.currentMsgs socket).getD []) else none

theorem isSome_buffer {socket : Nat} {maps : SessionMaps} :
    (maps.buffer socket).isSome ↔ socket ∈ maps.connectedSockets := by
  unfold buffer
  split <;> simp_all

/-- Every key of the buffers is a registered socket. -/
def Keyed (maps : SessionMaps) : Prop := ∀ key, maps.currentMsgs key ≠ none → key ∈ maps.connectedSockets

variable {maps : SessionMaps} {socket other : Nat} {msgBuffer : Bytes}

theorem mem_register : other ∈ (maps.register socket).connectedSockets ↔
    other = socket ∨ other ∈ maps.connectedSockets := mem_insertSocket

theorem mem_erase : other ∈ (maps.erase socket).connectedSockets ↔
    other ∈ maps.connectedSockets ∧ other ≠ socket := by
  simp [erase]

theorem keyed_register (keyed : maps.Keyed) : (maps.register socket).Keyed := by
  intro key present
  exact mem_register.mpr (.inr (keyed key present))

theorem keyed_erase (keyed : maps.Keyed) : (maps.erase socket).Keyed := by
  intro key present
  by_cases own : key = socket
  · subst own
    exact absurd (Function.update_self _ _ _) present
  · have kept : (maps.erase socket).currentMsgs key = maps.currentMsgs key := Function.update_of_ne own _ _
    rw [kept] at present
    exact mem_erase.mpr ⟨keyed key present, own⟩

theorem keyed_store (keyed : maps.Keyed) (registered : socket ∈ maps.connectedSockets) :
    (maps.store socket msgBuffer).Keyed := by
  intro key present
  by_cases own : key = socket
  · rw [own]
    exact registered
  · have kept : (maps.store socket msgBuffer).currentMsgs key = maps.currentMsgs key :=
      Function.update_of_ne own _ _
    rw [kept] at present
    exact keyed key present

/-- A socket that is not registered has no bytes left from an earlier session. -/
theorem buffer_register (keyed : maps.Keyed) (fresh : socket ∉ maps.connectedSockets) :
    (maps.register socket).buffer socket = some [] := by
  have absent : maps.currentMsgs socket = none := by
    by_contra present
    exact fresh (keyed socket present)
  rw [buffer, if_pos (mem_register.mpr (.inl rfl))]
  exact congrArg (fun msgBuffer => some (Option.getD msgBuffer [])) absent

theorem buffer_register_other (different : other ≠ socket) :
    (maps.register socket).buffer other = maps.buffer other := by
  simp only [buffer, mem_register, different, false_or]
  rfl

theorem buffer_erase : (maps.erase socket).buffer socket = none := by
  simp [buffer, mem_erase]

theorem buffer_erase_other (different : other ≠ socket) : (maps.erase socket).buffer other = maps.buffer other := by
  simp [buffer, different, erase]

theorem buffer_store (registered : socket ∈ maps.connectedSockets) :
    (maps.store socket msgBuffer).buffer socket = some msgBuffer := by
  simp [buffer, store, registered]

theorem buffer_store_other (different : other ≠ socket) :
    (maps.store socket msgBuffer).buffer other = maps.buffer other := by
  simp [buffer, store, different]

end SessionMaps

namespace Sessions

section Messages

variable {socket other : Nat} {dispatched : List (Nat × Value)} {values : List Value}

theorem dispatchedTo_append :
    dispatchedTo socket (dispatched ++ values.map (socket, ·)) = dispatchedTo socket dispatched ++ values := by
  rw [dispatchedTo, List.filterMap_append, List.filterMap_map]
  congr 1
  simp

theorem dispatchedTo_append_other (different : other ≠ socket) :
    dispatchedTo socket (dispatched ++ values.map (other, ·)) = dispatchedTo socket dispatched := by
  rw [dispatchedTo, List.filterMap_append, List.filterMap_map]
  simp [different, dispatchedTo]

end Messages

/-- A session of its own fragments follows the sessions of its socket. -/
structure Follows (socket : Nat) (sessions : Sessions) (session : ClientSession) : Prop where
  keyed : sessions.maps.Keyed
  buffer : sessions.maps.buffer socket = session.buffer
  dispatched : dispatchedTo socket sessions.dispatched = session.dispatched

/-- A socket that is alone in a server has the sessions that it has among others. -/
structure Resembles (socket : Nat) (sessions alone : Sessions) : Prop where
  keyed : sessions.maps.Keyed
  keyedAlone : alone.maps.Keyed
  only : ∀ it ∈ alone.maps.connectedSockets, it = socket
  buffer : sessions.maps.buffer socket = alone.maps.buffer socket
  dispatched : dispatchedTo socket sessions.dispatched = dispatchedTo socket alone.dispatched
  fault : alone.fault = none

/-- The keys stay among the registered sockets. -/
theorem keyed_quietly {jsonCpp : JsonCpp} {sessions : Sessions} {event : Event} (keyed : sessions.maps.Keyed) :
    (quietly jsonCpp sessions event).1.Keyed := by
  cases event with
  | newClient socket => exact SessionMaps.keyed_register keyed
  | clientDisconnect socket => exact SessionMaps.keyed_erase keyed
  | send outgoing => exact keyed
  | read socket parts handlings =>
      by_cases registered : socket ∈ sessions.maps.connectedSockets
      · rw [quietly, if_pos registered]
        exact SessionMaps.keyed_store keyed registered
      · rw [quietly, if_neg registered]
        exact keyed

/-- The events of the other sockets do nothing to a socket. -/
theorem quietly_other {jsonCpp : JsonCpp} {sessions : Sessions} {event : Event} {socket : Nat}
    (foreign : event.own? socket = none) :
    (quietly jsonCpp sessions event).1.buffer socket = sessions.maps.buffer socket ∧
      dispatchedTo socket (quietly jsonCpp sessions event).2 = dispatchedTo socket sessions.dispatched := by
  have different {other : Nat} {own : ClientEvent} (brings : (if other = socket then some own else none) = none) :
      socket ≠ other := by
    intro same
    rw [if_pos same.symm] at brings
    contradiction
  cases event with
  | newClient other => exact ⟨SessionMaps.buffer_register_other (different foreign), rfl⟩
  | clientDisconnect other => exact ⟨SessionMaps.buffer_erase_other (different foreign), rfl⟩
  | send outgoing => exact ⟨rfl, rfl⟩
  | read other parts handlings =>
      by_cases registered : other ∈ sessions.maps.connectedSockets
      · rw [quietly, if_pos registered]
        exact ⟨SessionMaps.buffer_store_other (different foreign),
          dispatchedTo_append_other (different foreign).symm⟩
      · rw [quietly, if_neg registered]
        exact ⟨rfl, rfl⟩

/-- An event of a socket does to it what its session does. -/
theorem quietly_own {jsonCpp : JsonCpp} {sessions : Sessions} {event : Event} {socket : Nat} {own : ClientEvent}
    {session : ClientSession} (follows : Follows socket sessions session) (permitted : Permitted jsonCpp sessions event)
    (brings : event.own? socket = some own) :
    (quietly jsonCpp sessions event).1.buffer socket = (session.step jsonCpp own).buffer ∧
      dispatchedTo socket (quietly jsonCpp sessions event).2 = (session.step jsonCpp own).dispatched := by
  cases event with
  | newClient other =>
      obtain ⟨rfl, same⟩ := Option.ite_none_right_eq_some.mp brings
      obtain rfl := Option.some.inj same
      exact ⟨SessionMaps.buffer_register follows.keyed permitted, follows.dispatched⟩
  | clientDisconnect other =>
      obtain ⟨rfl, same⟩ := Option.ite_none_right_eq_some.mp brings
      obtain rfl := Option.some.inj same
      exact ⟨SessionMaps.buffer_erase, follows.dispatched⟩
  | send outgoing => contradiction
  | read other parts handlings =>
      obtain ⟨rfl, same⟩ := Option.ite_none_right_eq_some.mp brings
      obtain rfl := Option.some.inj same
      have held := follows.buffer
      by_cases registered : other ∈ sessions.maps.connectedSockets
      · rw [SessionMaps.buffer, if_pos registered] at held
        rw [quietly, if_pos registered, ClientSession.step, ← held]
        refine ⟨SessionMaps.buffer_store registered, ?_⟩
        rw [dispatchedTo_append, follows.dispatched]
        rfl
      · rw [SessionMaps.buffer, if_neg registered] at held
        rw [quietly, if_neg registered, ClientSession.step, ← held]
        exact ⟨follows.buffer, follows.dispatched⟩

/-- The sessions of a socket are a function of its own events. -/
theorem projects_session (jsonCpp : JsonCpp) (socket : Nat) :
    (machine jsonCpp).Projects (ClientSession.machine jsonCpp) (Quiet jsonCpp) (Event.own? socket)
      (Follows socket) := by
  constructor
  · constructor
    · intro key present
      contradiction
    · rfl
    · rfl
  · intro sessions session event own next follows brings quiet steps
    obtain ⟨permitted, effect⟩ := quiet.effect steps
    obtain ⟨buffer, dispatched⟩ := quietly_own follows permitted brings
    have keyed := @keyed_quietly jsonCpp _ event follows.keyed
    rw [← effect] at buffer dispatched keyed
    exact ⟨_, rfl, keyed, buffer, dispatched⟩
  · intro sessions session event next follows foreign quiet steps
    obtain ⟨_, effect⟩ := quiet.effect steps
    obtain ⟨buffer, dispatched⟩ := @quietly_other jsonCpp sessions _ _ foreign
    have keyed := @keyed_quietly jsonCpp _ event follows.keyed
    rw [← effect] at buffer dispatched keyed
    exact ⟨keyed, buffer.trans follows.buffer, dispatched.trans follows.dispatched⟩

section Alone

variable {jsonCpp : JsonCpp} {socket : Nat} {sessions alone : Sessions} {event : Event}

theorem Resembles.registered (resembles : Resembles socket sessions alone) :
    socket ∈ alone.maps.connectedSockets ↔ socket ∈ sessions.maps.connectedSockets := by
  rw [← SessionMaps.isSome_buffer, ← SessionMaps.isSome_buffer, resembles.buffer]

theorem Resembles.subset (resembles : Resembles socket sessions alone) :
    ∀ it ∈ alone.maps.connectedSockets, it ∈ sessions.maps.connectedSockets := by
  intro it member
  obtain rfl := resembles.only it member
  exact resembles.registered.mp member

theorem Processed.subset {handlings : Nat → Handling} {sockets fewer : List Nat} {count : Nat} {values : List Value}
    (processed : Processed jsonCpp socket handlings sockets count values) (subset : ∀ it ∈ fewer, it ∈ sockets) :
    Processed jsonCpp socket handlings fewer count values := by
  induction values generalizing count with
  | nil => trivial
  | cons json later ih =>
      obtain ⟨first, others⟩ := processed
      refine ⟨?_, ih others⟩
      intro outgoing member it fewer
      exact first outgoing member it (subset it fewer)

/-- What a socket does among others it can do alone. -/
theorem Resembles.permitted (resembles : Resembles socket sessions alone) (concerned : event.concerns socket = true)
    (permitted : Permitted jsonCpp sessions event) : Permitted jsonCpp alone event := by
  cases event with
  | newClient other =>
      obtain rfl := of_decide_eq_true concerned
      exact mt resembles.registered.mp permitted
  | clientDisconnect other => trivial
  | send outgoing =>
      intro it member
      exact permitted it (resembles.subset it member)
  | read other parts handlings =>
      obtain rfl := of_decide_eq_true concerned
      intro registered
      have registered' := resembles.registered.mp registered
      have same := resembles.buffer
      rw [SessionMaps.buffer, if_pos registered', SessionMaps.buffer, if_pos registered] at same
      have received : sessions.received other parts = alone.received other parts :=
        congrArg (held · parts) (Option.some.inj same)
      have processed := permitted registered'
      rw [received] at processed
      exact processed.subset resembles.subset

theorem only_quietly (only : ∀ it ∈ alone.maps.connectedSockets, it = socket)
    (concerned : event.concerns socket = true) :
    ∀ it ∈ (quietly jsonCpp alone event).1.connectedSockets, it = socket := by
  cases event with
  | newClient other =>
      obtain rfl := of_decide_eq_true concerned
      intro it member
      rcases SessionMaps.mem_register.mp member with rfl | before
      · rfl
      · exact only it before
  | clientDisconnect other =>
      intro it member
      exact only it (SessionMaps.mem_erase.mp member).1
  | send outgoing => exact only
  | read other parts handlings =>
      intro it member
      by_cases registered : other ∈ alone.maps.connectedSockets
      · rw [quietly, if_pos registered] at member
        exact only it member
      · rw [quietly, if_neg registered] at member
        exact only it member

/-- An event does the same to a socket that is alone. -/
theorem Resembles.quietly (resembles : Resembles socket sessions alone) (permitted : Permitted jsonCpp sessions event)
    (permitted' : Permitted jsonCpp alone event) :
    (quietly jsonCpp sessions event).1.buffer socket = (Sessions.quietly jsonCpp alone event).1.buffer socket ∧
      dispatchedTo socket (Sessions.quietly jsonCpp sessions event).2 =
        dispatchedTo socket (Sessions.quietly jsonCpp alone event).2 := by
  cases brings : event.own? socket with
  | none =>
      obtain ⟨buffer, dispatched⟩ := @quietly_other jsonCpp sessions _ _ brings
      obtain ⟨buffer', dispatched'⟩ := @quietly_other jsonCpp alone _ _ brings
      constructor
      · rw [buffer, buffer', resembles.buffer]
      · rw [dispatched, dispatched', resembles.dispatched]
  | some own =>
      have follows : Follows socket sessions ⟨_, _⟩ := ⟨resembles.keyed, resembles.buffer, resembles.dispatched⟩
      have follows' : Follows socket alone ⟨_, _⟩ := ⟨resembles.keyedAlone, rfl, rfl⟩
      obtain ⟨buffer, dispatched⟩ := quietly_own follows permitted brings
      obtain ⟨buffer', dispatched'⟩ := quietly_own follows' permitted' brings
      exact ⟨buffer.trans buffer'.symm, dispatched.trans dispatched'.symm⟩

end Alone

/-- The sessions of a socket are what they are when the other sockets never connect. -/
theorem projects_alone (jsonCpp : JsonCpp) (socket : Nat) :
    (machine jsonCpp).Projects (machine jsonCpp) (Quiet jsonCpp) (Option.guard (Event.concerns socket))
      (Resembles socket) := by
  constructor
  · constructor
    · intro key present
      contradiction
    · intro key present
      contradiction
    · exact List.forall_mem_nil _
    · rfl
    · rfl
    · rfl
  · intro sessions alone event own next resembles sees quiet steps
    obtain ⟨rfl, concerned⟩ := Option.guard_eq_some_iff.mp sees
    obtain ⟨permitted, effect⟩ := quiet.effect steps
    have permitted' := resembles.permitted concerned permitted
    obtain ⟨next', steps', fault, effect'⟩ := step_permitted resembles.fault permitted'
    obtain ⟨buffer, dispatched⟩ := resembles.quietly permitted permitted'
    have keyed := @keyed_quietly jsonCpp _ event resembles.keyed
    have keyed' := @keyed_quietly jsonCpp _ event resembles.keyedAlone
    have only := @only_quietly jsonCpp _ _ _ resembles.only concerned
    rw [← effect] at buffer dispatched keyed
    rw [← effect'] at buffer dispatched keyed' only
    exact ⟨next', steps', keyed, keyed', only, buffer, dispatched, fault⟩
  · intro sessions alone event next resembles sees quiet steps
    have foreign : event.own? socket = none := by
      cases event <;> simp_all [Option.guard, Event.concerns, Event.own?]
    obtain ⟨_, effect⟩ := quiet.effect steps
    obtain ⟨buffer, dispatched⟩ := @quietly_other jsonCpp sessions _ _ foreign
    have keyed := @keyed_quietly jsonCpp _ event resembles.keyed
    rw [← effect] at buffer dispatched keyed
    exact ⟨keyed, resembles.keyedAlone, resembles.only, buffer.trans resembles.buffer,
      dispatched.trans resembles.dispatched, resembles.fault⟩

/-- In every run without a failed call of `Send`, every key of the buffers is a registered socket, a socket that
connects starts with an empty buffer, and the messages and the buffer of each socket are a function of its own
events. They are the same when the other sockets never connect. -/
theorem sessions_isolated (jsonCpp : JsonCpp) (events : List Event) (sessions : Sessions)
    (run : (machine jsonCpp).Reaches (fun _ _ => True) events sessions) (accepted : sessions.Accepted) :
    (∀ key, sessions.maps.currentMsgs key ≠ none → key ∈ sessions.maps.connectedSockets) ∧
      (∀ socket next, sessions.step jsonCpp (.newClient socket) = some next →
        next.maps.buffer socket = some []) ∧
      ∀ socket, dispatchedTo socket sessions.dispatched =
          (ClientSession.replay jsonCpp (events.filterMap (Event.own? socket))).dispatched ∧
        sessions.maps.buffer socket = (ClientSession.replay jsonCpp (events.filterMap (Event.own? socket))).buffer ∧
        ∃ alone, (machine jsonCpp).Reaches (fun _ _ => True) (events.filter (Event.concerns socket)) alone ∧
          dispatchedTo socket alone.dispatched = dispatchedTo socket sessions.dispatched ∧
          alone.maps.buffer socket = sessions.maps.buffer socket := by
  have quiet := reaches_quiet run accepted
  have followed (socket : Nat) := (projects_session jsonCpp socket).reaches quiet
  have keyed : sessions.maps.Keyed := by
    obtain ⟨_, _, follows⟩ := followed 0
    exact follows.keyed
  refine ⟨keyed, ?_, ?_⟩
  · intro socket next steps
    obtain ⟨_, steps⟩ := Option.ite_none_left_eq_some.mp steps
    obtain ⟨fresh, last⟩ := Option.ite_none_left_eq_some.mp steps
    obtain rfl := Option.some.inj last
    exact SessionMaps.buffer_register keyed fresh
  · intro socket
    obtain ⟨session, replayed, follows⟩ := followed socket
    obtain rfl := ClientSession.replay_of_reaches replayed
    obtain ⟨alone, reached, resembles⟩ := (projects_alone jsonCpp socket).reaches quiet
    rw [List.filterMap_eq_filter] at reached
    exact ⟨follows.dispatched, follows.buffer, alone, reached, resembles.dispatched.symm, resembles.buffer.symm⟩

/-- A client leaves in the middle of a message, and the next one has the same address. -/
def reconnecting : List Event :=
  [.newClient 1, .newClient 2, .read 1 [statusText.take 9] fun _ => answering (.accepted 44), .clientDisconnect 1,
    .newClient 1, .read 2 [statusText.drop 9] fun _ => answering (.accepted 44),
    .read 1 [statusText] fun _ => answering (.accepted 44)]

def reconnected : Sessions := ((machine statusJsonCpp).run reconnecting).getD initial

theorem sessions_isolated_reconnected : reconnected.Accepted ∧
    dispatchedTo 1 reconnected.dispatched = [sampleRequest] ∧
    ∃ alone, (machine statusJsonCpp).Reaches (fun _ _ => True) (reconnecting.filter (Event.concerns 1)) alone ∧
      dispatchedTo 1 alone.dispatched = [sampleRequest] := by
  have run : (machine statusJsonCpp).run reconnecting = some reconnected := rfl
  have dispatched : dispatchedTo 1 reconnected.dispatched = [sampleRequest] := rfl
  have accepted : reconnected.Accepted := by
    have results : reconnected.sends.map (·.2.result) = [.accepted 44] := rfl
    intro call member zero
    have listed : call.2.result ∈ reconnected.sends.map (·.2.result) := List.mem_map_of_mem member
    rw [results, zero] at listed
    exact absurd listed (by decide)
  obtain ⟨_, _, separate⟩ := sessions_isolated statusJsonCpp reconnecting reconnected
    (Machine.reaches_iff_run.mpr run) accepted
  obtain ⟨_, _, alone, reached, same, _⟩ := separate 1
  exact ⟨accepted, dispatched, alone, reached, same.trans dispatched⟩

end Sessions
end Faf
