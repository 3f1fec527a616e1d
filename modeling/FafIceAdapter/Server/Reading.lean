import FafIceAdapter.JsonRpc.Processing
import FafIceAdapter.JsonRpc.Buffer
import FafIceAdapter.Library.Transition
import FafIceAdapter.Server.Broadcast

namespace Faf
open Json JsonRpc Transition

/-- What is undefined in C++: to move an iterator over the end, and to use a reference into an erased element. -/
inductive Fault where
  | iteratorPastEnd
  | bufferErased
  deriving DecidableEq

/-- The processing of one message: the callbacks at that moment, the requests that they send before and after the
responses, and the results of each response. -/
structure Handling where
  table : Callbacks
  before : List Outgoing
  results : Nat → Nat → SendResult
  after : List Outgoing

def Handling.outgoing (jsonCpp : JsonCpp) (jsonMessage : Value) (socket : Nat) (handling : Handling) :
    List Outgoing :=
  handling.before ++
    (processJsonMessage jsonCpp handling.table jsonMessage socket).mapIdx (fun index response =>
      ⟨response.1, some response.2, handling.results index⟩) ++ handling.after

/-- The maps of a server, the calls of `Send` so far, each with the socket that was read meanwhile, the messages
that were passed on for processing, and the fault that ended the run. -/
structure Sessions where
  maps : SessionMaps
  sends : List (Option Nat × SendCall)
  dispatched : List (Nat × Value)
  fault : Option Fault

namespace Sessions

def initial : Sessions := ⟨.empty, [], [], none⟩

def store (socket : Nat) (msgBuffer : Bytes) (sessions : Sessions) : Sessions :=
  { sessions with maps := sessions.maps.store socket msgBuffer }

def dispatch (socket : Nat) (jsonMessage : Value) (sessions : Sessions) : Sessions :=
  { sessions with dispatched := sessions.dispatched ++ [(socket, jsonMessage)] }

/-- Nothing happens after a fault. -/
def sendMessage (reading : Option Nat) (sessions : Sessions) (outgoing : Outgoing) : Sessions :=
  if sessions.fault.isSome then sessions
  else
    let (_, sent) := outgoing.sendMessage sessions.maps
    { sessions with
      maps := sent.maps
      sends := sessions.sends ++ sent.calls.map (reading, ·)
      fault := if sent.pastEnd then some .iteratorPastEnd else none }

def processMessage (jsonCpp : JsonCpp) (socket : Nat) (jsonMessage : Value) (handling : Handling)
    (sessions : Sessions) : Sessions :=
  (handling.outgoing jsonCpp jsonMessage socket).foldl (sendMessage (some socket))
    (sessions.dispatch socket jsonMessage)

/-- The second loop of a read event. It finds its buffer through a reference into the map. -/
def readMessages (jsonCpp : JsonCpp) (socket : Nat) (handlings : Nat → Handling) :
    Nat → Nat → Sessions → Sessions
  | 0, _, sessions => sessions
  | fuel + 1, count, sessions =>
      if sessions.fault.isSome then sessions
      else
        match sessions.maps.currentMsgs socket with
        | none => { sessions with fault := some .bufferErased }
        | some msgBuffer =>
            let msgBuffer := trimWhitespace msgBuffer
            if msgBuffer = [] then sessions.store socket []
            else
              let (json, msgBuffer) := parseJsonFromMsgBuffer jsonCpp msgBuffer
              if json.isNull then sessions.store socket msgBuffer
              else
                readMessages jsonCpp socket handlings fuel (count + 1)
                  ((sessions.store socket msgBuffer).processMessage jsonCpp socket json (handlings count))

/-- The bytes at hand when the second loop starts. The index operator of the map creates a missing entry. -/
def received (socket : Nat) (parts : List Bytes) (sessions : Sessions) : Bytes :=
  held ((sessions.maps.currentMsgs socket).getD []) parts

/-- A read event of a registered socket. -/
def read (jsonCpp : JsonCpp) (socket : Nat) (parts : List Bytes) (handlings : Nat → Handling)
    (sessions : Sessions) : Sessions :=
  if socket ∈ sessions.maps.connectedSockets then
    let msgBuffer := sessions.received socket parts
    (sessions.store socket msgBuffer).readMessages jsonCpp socket handlings (msgBuffer.length + 1) 0
  else sessions

/-- The events of the sockets, and the messages that the server sends on its own. -/
inductive Event where
  | newClient (socket : Nat)
  | clientDisconnect (socket : Nat)
  | read (socket : Nat) (parts : List Bytes) (handlings : Nat → Handling)
  | send (outgoing : Outgoing)

/-- A new socket is none of the registered ones, and a fault ends the run. -/
def step (jsonCpp : JsonCpp) (sessions : Sessions) (event : Event) : Option Sessions :=
  if sessions.fault.isSome then none
  else
    match event with
    | .newClient socket =>
        if socket ∈ sessions.maps.connectedSockets then none
        else some { sessions with maps := sessions.maps.register socket }
    | .clientDisconnect socket => some { sessions with maps := sessions.maps.erase socket }
    | .read socket parts handlings => some (sessions.read jsonCpp socket parts handlings)
    | .send outgoing => some (sessions.sendMessage none outgoing)

def machine (jsonCpp : JsonCpp) : Machine Sessions Event where
  initial := initial
  step := step jsonCpp

section Sending

variable {reading : Option Nat} {sessions : Sessions} {outgoing : Outgoing} {socket : Nat}

/-- A message is sent as `_sendMessage` does, or not at all after a fault. -/
theorem sendMessage_cases :
    sessions.sendMessage reading outgoing = sessions ∨
      sessions.fault = none ∧ sessions.sendMessage reading outgoing = { sessions with
        maps := (outgoing.sendLoop sessions.maps.connectedSockets sessions.maps).maps
        sends := sessions.sends ++
          (outgoing.sendLoop sessions.maps.connectedSockets sessions.maps).calls.map (reading, ·)
        fault := if (outgoing.sendLoop sessions.maps.connectedSockets sessions.maps).pastEnd then
          some .iteratorPastEnd else none } := by
  unfold sendMessage
  split
  · exact .inl rfl
  · rename_i idle
    have running := Option.not_isSome_iff_eq_none.mp idle
    by_cases empty : sessions.maps.connectedSockets = []
    · left
      rw [Outgoing.sendMessage, if_pos empty]
      simp [← running]
    · right
      rw [Outgoing.sendMessage, if_neg empty]
      exact ⟨running, rfl⟩

theorem sends_sendMessage : sessions.sends <+: (sessions.sendMessage reading outgoing).sends := by
  rcases @sendMessage_cases reading sessions outgoing with same | ⟨_, same⟩
  · rw [same]
  · rw [same]
    exact List.prefix_append _ _

theorem fault_sendMessage (unerased : sessions.fault ≠ some .bufferErased) :
    (sessions.sendMessage reading outgoing).fault ≠ some .bufferErased := by
  rcases @sendMessage_cases reading sessions outgoing with same | ⟨_, same⟩
  · rw [same]
    exact unerased
  · rw [same]
    simp only
    split <;> simp

/-- A message can only take the buffer of a socket away. -/
theorem currentMsgs_sendMessage_or :
    (sessions.sendMessage reading outgoing).maps.currentMsgs socket = sessions.maps.currentMsgs socket ∨
      (sessions.sendMessage reading outgoing).maps.currentMsgs socket = none := by
  rcases @sendMessage_cases reading sessions outgoing with same | ⟨_, same⟩
  · rw [same]
    exact .inl rfl
  · rw [same]
    simp only [Outgoing.currentMsgs_sendLoop]
    split
    · exact .inr rfl
    · exact .inl rfl

/-- No call of `Send` on a socket fails while its messages are processed. -/
def Unfailed (sessions : Sessions) : Prop :=
  ∀ call ∈ sessions.sends, call.1 = some call.2.socket → call.2.result ≠ .accepted 0

theorem Unfailed.before {later : Sessions} (unfailed : later.Unfailed) (grows : sessions.sends <+: later.sends) :
    sessions.Unfailed :=
  fun call member => unfailed call (grows.subset member)

theorem currentMsgs_sendMessage (unfailed : (sessions.sendMessage (some socket) outgoing).Unfailed) :
    (sessions.sendMessage (some socket) outgoing).maps.currentMsgs socket = sessions.maps.currentMsgs socket := by
  rcases @sendMessage_cases (some socket) sessions outgoing with same | ⟨_, same⟩
  · rw [same]
  · rw [same] at unfailed ⊢
    rw [Outgoing.currentMsgs_sendLoop, if_neg]
    intro failing
    obtain ⟨call, member, own, failed⟩ := mem_failedSockets.mp failing
    have listed : (some socket, call) ∈ sessions.sends ++ _ :=
      List.mem_append_right _ (List.mem_map.mpr ⟨call, member, rfl⟩)
    exact unfailed _ listed (congrArg some own.symm) failed

/-- A message that is sent meanwhile takes the buffer away when its call on the socket fails. -/
theorem unfailed_sendMessage (unfailed : sessions.Unfailed) :
    (sessions.sendMessage (some socket) outgoing).Unfailed ∨
      (sessions.sendMessage (some socket) outgoing).maps.currentMsgs socket = none := by
  rcases @sendMessage_cases (some socket) sessions outgoing with same | ⟨_, same⟩
  · rw [same]
    exact .inl unfailed
  · rw [same]
    by_cases fails : socket ∈ failedSockets
        (outgoing.sendLoop sessions.maps.connectedSockets sessions.maps).calls
    · right
      exact Outgoing.currentMsgs_sendLoop.trans (if_pos fails)
    · left
      intro call member own failed
      rcases List.mem_append.mp member with before | now
      · exact unfailed call before own failed
      · obtain ⟨called, inside, rfl⟩ := List.mem_map.mp now
        exact fails (mem_failedSockets.mpr ⟨called, inside, (Option.some.inj own).symm, failed⟩)

section Processing

variable {outgoings : List Outgoing}

theorem sends_foldl : sessions.sends <+: (outgoings.foldl (sendMessage reading) sessions).sends := by
  induction outgoings generalizing sessions with
  | nil => exact List.prefix_refl _
  | cons outgoing later ih => exact sends_sendMessage.trans ih

theorem fault_foldl (unerased : sessions.fault ≠ some .bufferErased) :
    (outgoings.foldl (sendMessage reading) sessions).fault ≠ some .bufferErased := by
  induction outgoings generalizing sessions with
  | nil => exact unerased
  | cons outgoing later ih => exact ih (fault_sendMessage unerased)

theorem currentMsgs_foldl_or :
    (outgoings.foldl (sendMessage reading) sessions).maps.currentMsgs socket = sessions.maps.currentMsgs socket ∨
      (outgoings.foldl (sendMessage reading) sessions).maps.currentMsgs socket = none := by
  induction outgoings generalizing sessions with
  | nil => exact .inl rfl
  | cons outgoing later ih =>
      rcases @ih (sessions.sendMessage reading outgoing) with same | gone
      · rcases @currentMsgs_sendMessage_or reading sessions outgoing socket with before | before
        · exact .inl (same.trans before)
        · exact .inr (same.trans before)
      · exact .inr gone

theorem currentMsgs_foldl (unfailed : (outgoings.foldl (sendMessage (some socket)) sessions).Unfailed) :
    (outgoings.foldl (sendMessage (some socket)) sessions).maps.currentMsgs socket =
      sessions.maps.currentMsgs socket := by
  induction outgoings generalizing sessions with
  | nil => rfl
  | cons outgoing later ih => exact (ih unfailed).trans (currentMsgs_sendMessage (unfailed.before sends_foldl))

theorem unfailed_foldl (unfailed : sessions.Unfailed) :
    (outgoings.foldl (sendMessage (some socket)) sessions).Unfailed ∨
      (outgoings.foldl (sendMessage (some socket)) sessions).maps.currentMsgs socket = none := by
  induction outgoings generalizing sessions with
  | nil => exact .inl unfailed
  | cons outgoing later ih =>
      rcases @unfailed_sendMessage sessions outgoing socket unfailed with still | gone
      · exact ih still
      · right
        rw [List.foldl_cons]
        rcases @currentMsgs_foldl_or (some socket) (sessions.sendMessage (some socket) outgoing) socket later with
          same | gone'
        · exact same.trans gone
        · exact gone'

end Processing

end Sending

section Reading

variable {jsonCpp : JsonCpp} {socket : Nat} {handlings : Nat → Handling} {sessions : Sessions}

theorem currentMsgs_store (socket : Nat) (msgBuffer : Bytes) (sessions : Sessions) :
    (sessions.store socket msgBuffer).maps.currentMsgs socket = some msgBuffer := Function.update_self _ _ _

/-- The loop stops at a fault, at a missing buffer, at a buffer that gives no value, or goes on with the next one. -/
theorem readMessages_cases (fuel count : Nat) :
    (readMessages jsonCpp socket handlings (fuel + 1) count sessions = sessions ∧ sessions.fault.isSome) ∨
      sessions.fault = none ∧
        (sessions.maps.currentMsgs socket = none ∧
            readMessages jsonCpp socket handlings (fuel + 1) count sessions =
              { sessions with fault := some .bufferErased } ∨
          ∃ msgBuffer, sessions.maps.currentMsgs socket = some msgBuffer ∧
            ((∃ left, readMessages jsonCpp socket handlings (fuel + 1) count sessions = sessions.store socket left ∧
                drain jsonCpp msgBuffer = ([], left)) ∨
              ∃ json left, left.length < msgBuffer.length ∧
                drain jsonCpp msgBuffer = (json :: (drain jsonCpp left).1, (drain jsonCpp left).2) ∧
                readMessages jsonCpp socket handlings (fuel + 1) count sessions =
                  readMessages jsonCpp socket handlings fuel (count + 1)
                    ((sessions.store socket left).processMessage jsonCpp socket json (handlings count)))) := by
  rw [readMessages]
  split
  · exact .inl ⟨rfl, ‹_›⟩
  · rename_i idle
    refine .inr ⟨Option.not_isSome_iff_eq_none.mp idle, ?_⟩
    split
    · rename_i absent
      exact .inl ⟨absent, rfl⟩
    · rename_i msgBuffer present
      refine .inr ⟨msgBuffer, present, ?_⟩
      by_cases empty : trimWhitespace msgBuffer = []
      · simp only [empty, if_true]
        exact .inl ⟨[], rfl, drain_empty empty⟩
      · obtain ⟨json, left, parsed⟩ : ∃ json left,
            parseJsonFromMsgBuffer jsonCpp (trimWhitespace msgBuffer) = (json, left) := ⟨_, _, rfl⟩
        simp only [empty, if_false, parsed]
        cases null : json.isNull with
        | true =>
            have isNull : json = .nullValue := by
              cases json with
              | nullValue => rfl
              | _ => contradiction
            subst isNull
            exact .inl ⟨left, rfl, drain_null rfl empty parsed⟩
        | false =>
            have shorter := parseJsonFromMsgBuffer_shortens jsonCpp (trimWhitespace msgBuffer)
              (by rw [parsed]; exact null)
            have trimmed := trimWhitespace_length_le msgBuffer
            rw [parsed] at shorter
            exact .inr ⟨json, left, shorter.trans_le trimmed, drain_value rfl empty parsed null, rfl⟩

theorem sends_processMessage (sessions : Sessions) (json : Value) (handling : Handling) :
    sessions.sends <+: (sessions.processMessage jsonCpp socket json handling).sends :=
  @sends_foldl (some socket) (sessions.dispatch socket json) _

theorem currentMsgs_processMessage_or (sessions : Sessions) (json : Value) (handling : Handling) :
    (sessions.processMessage jsonCpp socket json handling).maps.currentMsgs socket =
        sessions.maps.currentMsgs socket ∨
      (sessions.processMessage jsonCpp socket json handling).maps.currentMsgs socket = none :=
  @currentMsgs_foldl_or (some socket) (sessions.dispatch socket json) socket _

theorem currentMsgs_processMessage {json : Value} {handling : Handling}
    (unfailed : (sessions.processMessage jsonCpp socket json handling).Unfailed) :
    (sessions.processMessage jsonCpp socket json handling).maps.currentMsgs socket =
      sessions.maps.currentMsgs socket :=
  @currentMsgs_foldl (sessions.dispatch socket json) socket _ unfailed

/-- What is left of the buffer is there after the processing, or nothing is. -/
theorem eq_of_currentMsgs_processMessage {left held : Bytes} {json : Value} {handling : Handling}
    (kept : ((sessions.store socket left).processMessage jsonCpp socket json handling).maps.currentMsgs socket =
      some held) : held = left := by
  rcases currentMsgs_processMessage_or (sessions.store socket left) json handling with same | gone
  · have stored := (currentMsgs_store socket left sessions).symm.trans (same.symm.trans kept)
    exact (Option.some.inj stored).symm
  · exact absurd (kept.symm.trans gone) (Option.some_ne_none held)

theorem sends_readMessages (fuel count : Nat) :
    sessions.sends <+: (readMessages jsonCpp socket handlings fuel count sessions).sends := by
  induction fuel generalizing count sessions with
  | zero => exact List.prefix_refl _
  | succ fuel ih =>
      rcases @readMessages_cases jsonCpp socket handlings sessions fuel count with
        ⟨same, _⟩ | ⟨_, ⟨_, same⟩ | ⟨msgBuffer, _, ⟨left, same, _⟩ | ⟨json, left, _, _, same⟩⟩⟩
      · rw [same]
      · rw [same]
      · rw [same]
        exact List.prefix_refl _
      · rw [same]
        exact (sends_processMessage (sessions.store socket left) json (handlings count)).trans (ih (count + 1))

/-- The loop finds its buffer each time when no call on its socket fails. -/
theorem readMessages_unerased {fuel count : Nat}
    (unfailed : (readMessages jsonCpp socket handlings fuel count sessions).Unfailed)
    (unerased : sessions.fault ≠ some .bufferErased) (present : sessions.maps.currentMsgs socket ≠ none) :
    (readMessages jsonCpp socket handlings fuel count sessions).fault ≠ some .bufferErased := by
  induction fuel generalizing count sessions with
  | zero => exact unerased
  | succ fuel ih =>
      rcases @readMessages_cases jsonCpp socket handlings sessions fuel count with
        ⟨same, _⟩ | ⟨_, ⟨absent, _⟩ | ⟨msgBuffer, _, ⟨left, same, _⟩ | ⟨json, left, _, _, same⟩⟩⟩
      · rw [same]
        exact unerased
      · exact absurd absent present
      · rw [same]
        exact unerased
      · rw [same] at unfailed ⊢
        have processed := unfailed.before (sends_readMessages fuel (count + 1))
        apply ih unfailed (fault_foldl unerased)
        rw [currentMsgs_processMessage processed, currentMsgs_store]
        exact Option.some_ne_none left

/-- The loop always ends, so more fuel than the buffer is long changes nothing. -/
theorem readMessages_fuel {first second count : Nat} (positive : 0 < first) (positive' : 0 < second)
    (enough : ∀ msgBuffer, sessions.maps.currentMsgs socket = some msgBuffer →
      msgBuffer.length < first ∧ msgBuffer.length < second) :
    readMessages jsonCpp socket handlings first count sessions =
      readMessages jsonCpp socket handlings second count sessions := by
  induction first generalizing second count sessions with
  | zero => omega
  | succ first ih =>
      obtain ⟨second, rfl⟩ : ∃ other, second = other + 1 := ⟨second - 1, by omega⟩
      simp only [readMessages]
      split
      · rfl
      · split
        · rfl
        · rename_i msgBuffer present
          obtain ⟨bound, bound'⟩ := enough msgBuffer present
          have trimmed := trimWhitespace_length_le msgBuffer
          split_ifs with empty null
          · rfl
          · rfl
          · have shorter := parseJsonFromMsgBuffer_shortens jsonCpp (trimWhitespace msgBuffer)
              (Bool.not_eq_true _ ▸ null)
            apply ih (by omega) (by omega)
            intro left kept
            obtain rfl := eq_of_currentMsgs_processMessage kept
            omega

/-- A loop that ends without a fault had no failed call on its socket. -/
theorem readMessages_unfailed {fuel count : Nat} (positive : 0 < fuel)
    (enough : ∀ msgBuffer, sessions.maps.currentMsgs socket = some msgBuffer → msgBuffer.length < fuel)
    (start : sessions.Unfailed ∨ sessions.maps.currentMsgs socket = none)
    (faultless : (readMessages jsonCpp socket handlings fuel count sessions).fault = none) :
    (readMessages jsonCpp socket handlings fuel count sessions).Unfailed := by
  induction fuel generalizing count sessions with
  | zero => omega
  | succ fuel ih =>
      rcases @readMessages_cases jsonCpp socket handlings sessions fuel count with
        ⟨same, faulted⟩ | ⟨_, ⟨_, same⟩ | ⟨msgBuffer, present, ending⟩⟩
      · rw [same] at faultless
        rw [faultless] at faulted
        contradiction
      · rw [same] at faultless
        contradiction
      · have unfailed : sessions.Unfailed := by
          rcases start with unfailed | absent
          · exact unfailed
          · rw [absent] at present
            contradiction
        have bound := enough msgBuffer present
        rcases ending with ⟨left, same, _⟩ | ⟨json, left, shorter, _, same⟩
        · rw [same]
          exact unfailed
        · rw [same] at faultless ⊢
          refine ih (by omega) ?_ ?_ faultless
          · intro held kept
            obtain rfl := eq_of_currentMsgs_processMessage kept
            omega
          · exact @unfailed_foldl ((sessions.store socket left).dispatch socket json) socket _ unfailed

end Reading

/-- In every run, a loop that reads finds its buffer in the map each time, when no call of `Send` on the socket that
is read fails while its messages are processed. -/
theorem buffer_outlives (jsonCpp : JsonCpp) (events : List Event) (sessions : Sessions)
    (run : (machine jsonCpp).Reaches (fun _ _ => True) events sessions) (unfailed : sessions.Unfailed) :
    sessions.fault ≠ some .bufferErased := by
  cases run with
  | initial => exact (Option.some_ne_none _).symm
  | @step _ state _ event _ _ steps =>
      obtain ⟨idle, steps⟩ := Option.ite_none_left_eq_some.mp steps
      have unerased : state.fault ≠ some .bufferErased := by
        rw [Option.not_isSome_iff_eq_none.mp idle]
        exact (Option.some_ne_none _).symm
      cases event with
      | newClient socket =>
          obtain ⟨_, last⟩ := Option.ite_none_left_eq_some.mp steps
          obtain rfl := Option.some.inj last
          exact unerased
      | clientDisconnect socket =>
          obtain rfl := Option.some.inj steps
          exact unerased
      | send outgoing =>
          obtain rfl := Option.some.inj steps
          exact fault_sendMessage unerased
      | read socket parts handlings =>
          obtain rfl := Option.some.inj steps
          unfold read at unfailed ⊢
          split at unfailed
          · rename_i registered
            rw [if_pos registered]
            apply readMessages_unerased unfailed unerased
            rw [currentMsgs_store]
            exact Option.some_ne_none _
          · rename_i unknown
            rw [if_neg unknown]
            exact unerased

/-- In every run without a fault, no call on a socket fails while its messages are processed. -/
theorem unfailed_of_faultless (jsonCpp : JsonCpp) (events : List Event) (sessions : Sessions)
    (run : (machine jsonCpp).Reaches (fun _ _ => True) events sessions) (faultless : sessions.fault = none) :
    sessions.Unfailed := by
  induction run with
  | initial =>
      intro call member
      contradiction
  | @step _ state next event _ _ steps ih =>
      obtain ⟨idle, steps⟩ := Option.ite_none_left_eq_some.mp steps
      have unfailed := ih (Option.not_isSome_iff_eq_none.mp idle)
      cases event with
      | newClient socket =>
          obtain ⟨_, last⟩ := Option.ite_none_left_eq_some.mp steps
          obtain rfl := Option.some.inj last
          exact unfailed
      | clientDisconnect socket =>
          obtain rfl := Option.some.inj steps
          exact unfailed
      | send outgoing =>
          obtain rfl := Option.some.inj steps
          rcases @sendMessage_cases none state outgoing with same | ⟨_, same⟩
          · rw [same]
            exact unfailed
          · rw [same]
            intro call member own
            rcases List.mem_append.mp member with before | now
            · exact unfailed call before own
            · obtain ⟨called, _, rfl⟩ := List.mem_map.mp now
              contradiction
      | read socket parts handlings =>
          obtain rfl := Option.some.inj steps
          unfold read at faultless ⊢
          split at faultless
          · rename_i registered
            rw [if_pos registered]
            refine readMessages_unfailed (Nat.succ_pos _) ?_ (.inl unfailed) faultless
            intro msgBuffer present
            obtain rfl := Option.some.inj ((currentMsgs_store socket _ state).symm.trans present)
            exact Nat.lt_succ_self _
          · rename_i unknown
            rw [if_neg unknown]
            exact unfailed

/-- A request with an id, and a jsoncpp that reads its text. -/
def statusText : Bytes := bytes "\x7b\"id\":7,\"method\":\"status\"\x7d"

def statusJsonCpp : JsonCpp := Sample.jsonCpp fun text =>
  if text = statusText then (true, sampleRequest) else (false, .nullValue)

/-- The request is answered, and the call of `Send` for the answer has a result. -/
def answering (result : SendResult) : Handling where
  table := .always fun _ _ => .ok (.stringValue (bytes "ok"), .nullValue)
  before := []
  results _ _ := result
  after := []

/-- Two clients connect, and the request of the first one comes in two parts. -/
def asking (result : SendResult) : List Event :=
  [.newClient 1, .newClient 2, .read 1 [statusText.take 9, statusText.drop 9] fun _ => answering result]

theorem buffer_outlives_asking :
    ∃ sessions, (machine statusJsonCpp).run (asking (.accepted 44)) = some sessions ∧ sessions.Unfailed ∧
      sessions.fault ≠ some .bufferErased := by
  have run : (machine statusJsonCpp).run (asking (.accepted 44)) = some _ := rfl
  have unfailed : Unfailed _ := unfailed_of_faultless statusJsonCpp _ _ (Machine.reaches_iff_run.mpr run) rfl
  exact ⟨_, run, unfailed, buffer_outlives statusJsonCpp _ _ (Machine.reaches_iff_run.mpr run) unfailed⟩

/-- The answer cannot be sent, and the loop goes on with the erased buffer. -/
theorem buffer_erased : ¬ ∀ (jsonCpp : JsonCpp) (events : List Event) (sessions : Sessions),
    (machine jsonCpp).Reaches (fun _ _ => True) events sessions → sessions.fault ≠ some .bufferErased := by
  intro claim
  have run : (machine statusJsonCpp).run (asking (.accepted 0)) = some _ := rfl
  exact claim _ _ _ (Machine.reaches_iff_run.mpr run) rfl

end Sessions
end Faf
