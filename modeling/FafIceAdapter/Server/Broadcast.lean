import FafIceAdapter.Server.Connections

namespace Faf

/-- The sockets of a map are listed in the order of their addresses. -/
def insertSocket (socket : Nat) : List Nat → List Nat
  | [] => [socket]
  | it :: rest =>
      if socket < it then socket :: it :: rest
      else if socket = it then it :: rest
      else it :: insertSocket socket rest

theorem mem_insertSocket {socket other : Nat} {sockets : List Nat} :
    other ∈ insertSocket socket sockets ↔ other = socket ∨ other ∈ sockets := by
  induction sockets with
  | nil => simp [insertSocket]
  | cons it rest ih =>
      unfold insertSocket
      split
      · exact List.mem_cons
      · split
        · rename_i same
          subst same
          simp
        · simp only [List.mem_cons, ih, or_left_comm]

theorem ordered_insertSocket (socket : Nat) {sockets : List Nat} (ordered : sockets.Pairwise (· < ·)) :
    (insertSocket socket sockets).Pairwise (· < ·) := by
  induction sockets with
  | nil => exact List.pairwise_singleton _ _
  | cons it rest ih =>
      obtain ⟨first, later⟩ := List.pairwise_cons.mp ordered
      unfold insertSocket
      split
      · rename_i before
        apply List.pairwise_cons.mpr
        refine ⟨?_, ordered⟩
        intro other member
        rcases List.mem_cons.mp member with rfl | member
        · exact before
        · exact before.trans (first other member)
      · split
        · exact ordered
        · apply List.pairwise_cons.mpr
          refine ⟨?_, ih later⟩
          intro other member
          rcases mem_insertSocket.mp member with rfl | member
          · omega
          · exact first other member

/-- The registered sockets and the buffer of each one. -/
structure SessionMaps where
  connectedSockets : List Nat
  ordered : connectedSockets.Pairwise (· < ·)
  currentMsgs : Nat → Option Bytes

/-- A call of `_sendMessage`, with what `Send` gives for each socket. -/
structure Outgoing where
  message : Bytes
  socket : Option Nat
  results : Nat → SendResult

/-- A call of `Send`. -/
structure SendCall where
  socket : Nat
  message : Bytes
  result : SendResult
  deriving DecidableEq

/-- The sockets of the calls that fail. -/
def failedSockets (calls : List SendCall) : List Nat :=
  (calls.filter (·.result = .accepted 0)).map SendCall.socket

theorem mem_failedSockets {calls : List SendCall} {socket : Nat} :
    socket ∈ failedSockets calls ↔ ∃ call ∈ calls, call.socket = socket ∧ call.result = .accepted 0 := by
  simp only [failedSockets, List.mem_map, List.mem_filter, decide_eq_true_eq]
  constructor
  · rintro ⟨call, ⟨member, failed⟩, same⟩
    exact ⟨call, member, same, failed⟩
  · rintro ⟨call, member, same, failed⟩
    exact ⟨call, ⟨member, failed⟩, same⟩

theorem failedSockets_failed {call : SendCall} (calls : List SendCall) (failed : call.result = .accepted 0) :
    failedSockets (call :: calls) = call.socket :: failedSockets calls := by
  simp [failedSockets, failed]

theorem failedSockets_accepted {call : SendCall} (calls : List SendCall) (accepted : call.result ≠ .accepted 0) :
    failedSockets (call :: calls) = failedSockets calls := by
  simp [failedSockets, accepted]

/-- What the loop of `_sendMessage` leaves, its calls, and whether it moves its iterator over the end. -/
structure SendOutcome where
  maps : SessionMaps
  calls : List SendCall
  pastEnd : Bool

/-- An earlier call. -/
def SendOutcome.after (call : SendCall) (sent : SendOutcome) : SendOutcome := { sent with calls := call :: sent.calls }

namespace SessionMaps

def empty : SessionMaps := ⟨[], .nil, fun _ => none⟩

def register (socket : Nat) (maps : SessionMaps) : SessionMaps :=
  { maps with
    connectedSockets := insertSocket socket maps.connectedSockets
    ordered := ordered_insertSocket socket maps.ordered }

/-- Both maps lose the socket. -/
def erase (socket : Nat) (maps : SessionMaps) : SessionMaps where
  connectedSockets := maps.connectedSockets.filter (· ≠ socket)
  ordered := maps.ordered.filter _
  currentMsgs := Function.update maps.currentMsgs socket none

def store (socket : Nat) (msgBuffer : Bytes) (maps : SessionMaps) : SessionMaps :=
  { maps with currentMsgs := Function.update maps.currentMsgs socket (some msgBuffer) }

theorem currentMsgs_erase (it socket : Nat) (maps : SessionMaps) :
    (maps.erase it).currentMsgs socket = if socket = it then none else maps.currentMsgs socket :=
  Function.update_apply _ _ _ _

end SessionMaps

namespace Outgoing

/-- The loop passes over the other sockets. -/
def Addresses (outgoing : Outgoing) (it : Nat) : Prop := outgoing.socket = none ∨ outgoing.socket = some it

instance (outgoing : Outgoing) (it : Nat) : Decidable (outgoing.Addresses it) :=
  inferInstanceAs (Decidable (_ ∨ _))

def call (outgoing : Outgoing) (it : Nat) : SendCall := ⟨it, outgoing.message, outgoing.results it⟩

/-- The loop from its iterator on. When it erases an element it also moves over the next one. -/
def sendLoop (outgoing : Outgoing) : List Nat → SessionMaps → SendOutcome
  | [], maps => ⟨maps, [], false⟩
  | it :: rest, maps =>
      if ¬ outgoing.Addresses it then sendLoop outgoing rest maps
      else if outgoing.results it = .accepted 0 then
        match rest with
        | [] => ⟨maps.erase it, [outgoing.call it], true⟩
        | _ :: later => (sendLoop outgoing later (maps.erase it)).after (outgoing.call it)
      else (sendLoop outgoing rest maps).after (outgoing.call it)

def sendMessage (outgoing : Outgoing) (maps : SessionMaps) : Bool × SendOutcome :=
  if maps.connectedSockets = [] then (false, ⟨maps, [], false⟩)
  else (true, outgoing.sendLoop maps.connectedSockets maps)

/-- No addressed socket gives the result that the loop tests for. -/
def Accepted (outgoing : Outgoing) (sockets : List Nat) : Prop :=
  ∀ it ∈ sockets, outgoing.Addresses it → outgoing.results it ≠ .accepted 0

section Loop

variable {outgoing : Outgoing} {it : Nat} {rest : List Nat} {maps : SessionMaps}

theorem sendLoop_passed (passed : ¬ outgoing.Addresses it) :
    outgoing.sendLoop (it :: rest) maps = outgoing.sendLoop rest maps := by
  rw [sendLoop.eq_def]
  exact if_pos passed

theorem sendLoop_sent (addressed : outgoing.Addresses it) (nonzero : outgoing.results it ≠ .accepted 0) :
    outgoing.sendLoop (it :: rest) maps = (outgoing.sendLoop rest maps).after (outgoing.call it) := by
  rw [sendLoop.eq_def]
  exact (if_neg (not_not.mpr addressed)).trans (if_neg nonzero)

theorem sendLoop_last (addressed : outgoing.Addresses it) (zero : outgoing.results it = .accepted 0) :
    outgoing.sendLoop [it] maps = ⟨maps.erase it, [outgoing.call it], true⟩ := by
  rw [sendLoop, if_neg (not_not.mpr addressed), if_pos zero]

theorem sendLoop_skipped {skipped : Nat} (addressed : outgoing.Addresses it)
    (zero : outgoing.results it = .accepted 0) :
    outgoing.sendLoop (it :: skipped :: rest) maps =
      (outgoing.sendLoop rest (maps.erase it)).after (outgoing.call it) := by
  rw [sendLoop, if_neg (not_not.mpr addressed), if_pos zero]

/-- The loop calls only sockets that its iterator comes to, with the message. -/
theorem mem_calls {sockets : List Nat} {call : SendCall} (member : call ∈ (outgoing.sendLoop sockets maps).calls) :
    call.socket ∈ sockets ∧ outgoing.Addresses call.socket ∧ call = outgoing.call call.socket := by
  induction sockets, maps using sendLoop.induct outgoing with
  | case1 => contradiction
  | case2 it rest maps passed ih =>
      rw [sendLoop_passed passed] at member
      obtain ⟨inside, own⟩ := ih member
      exact ⟨List.mem_cons_of_mem it inside, own⟩
  | case3 it maps addressed zero =>
      rw [sendLoop_last (not_not.mp addressed) zero] at member
      obtain rfl := List.mem_singleton.mp member
      exact ⟨List.mem_cons_self, not_not.mp addressed, rfl⟩
  | case4 it maps addressed zero skipped later ih =>
      rw [sendLoop_skipped (not_not.mp addressed) zero] at member
      rcases List.mem_cons.mp member with rfl | member
      · exact ⟨List.mem_cons_self, not_not.mp addressed, rfl⟩
      · obtain ⟨inside, own⟩ := ih member
        exact ⟨List.mem_cons_of_mem it (List.mem_cons_of_mem skipped inside), own⟩
  | case5 it rest maps addressed nonzero ih =>
      rw [sendLoop_sent (not_not.mp addressed) nonzero] at member
      rcases List.mem_cons.mp member with rfl | member
      · exact ⟨List.mem_cons_self, not_not.mp addressed, rfl⟩
      · obtain ⟨inside, own⟩ := ih member
        exact ⟨List.mem_cons_of_mem it inside, own⟩

/-- The loop erases the buffers of the sockets whose call fails, and no others. -/
theorem currentMsgs_sendLoop {sockets : List Nat} {socket : Nat} :
    (outgoing.sendLoop sockets maps).maps.currentMsgs socket =
      if socket ∈ failedSockets (outgoing.sendLoop sockets maps).calls then none
      else maps.currentMsgs socket := by
  induction sockets, maps using sendLoop.induct outgoing with
  | case1 => rfl
  | case2 it rest maps passed ih =>
      rw [sendLoop_passed passed]
      exact ih
  | case3 it maps addressed zero =>
      rw [sendLoop_last (not_not.mp addressed) zero, failedSockets_failed [] zero, SessionMaps.currentMsgs_erase]
      simp only [call, failedSockets, List.filter_nil, List.map_nil, List.mem_singleton]
  | case4 it maps addressed zero skipped later ih =>
      rw [sendLoop_skipped (not_not.mp addressed) zero]
      have failing : failedSockets ((outgoing.sendLoop later (maps.erase it)).after (outgoing.call it)).calls =
          it :: failedSockets (outgoing.sendLoop later (maps.erase it)).calls := failedSockets_failed _ zero
      rw [failing]
      change (outgoing.sendLoop later (maps.erase it)).maps.currentMsgs socket = _
      rw [ih, SessionMaps.currentMsgs_erase]
      by_cases own : socket = it
      · simp [own]
      · simp [own]
  | case5 it rest maps addressed nonzero ih =>
      rw [sendLoop_sent (not_not.mp addressed) nonzero]
      have failing : failedSockets ((outgoing.sendLoop rest maps).after (outgoing.call it)).calls =
          failedSockets (outgoing.sendLoop rest maps).calls := failedSockets_accepted _ nonzero
      rw [failing]
      exact ih

/-- A loop that erases nothing calls each addressed socket once. -/
theorem sendLoop_accepted {sockets : List Nat} (accepted : outgoing.Accepted sockets) :
    outgoing.sendLoop sockets maps = ⟨maps, (sockets.filter outgoing.Addresses).map outgoing.call, false⟩ := by
  induction sockets with
  | nil => rfl
  | cons it rest ih =>
      obtain ⟨first, later⟩ := List.forall_mem_cons.mp accepted
      by_cases addressed : outgoing.Addresses it
      · rw [sendLoop_sent addressed (first addressed), ih later, List.filter_cons_of_pos (by simpa using addressed)]
        rfl
      · rw [sendLoop_passed addressed, ih later, List.filter_cons_of_neg (by simpa using addressed)]

/-- The first failure is among the calls of the loop. -/
theorem accepted_of_calls {sockets : List Nat}
    (nonzero : ∀ call ∈ (outgoing.sendLoop sockets maps).calls, call.result ≠ .accepted 0) :
    outgoing.Accepted sockets := by
  induction sockets, maps using sendLoop.induct outgoing with
  | case1 => exact List.forall_mem_nil _
  | case2 it rest maps passed ih =>
      rw [sendLoop_passed passed] at nonzero
      exact List.forall_mem_cons.mpr ⟨fun addressed => absurd addressed passed, ih nonzero⟩
  | case3 it maps addressed zero =>
      rw [sendLoop_last (not_not.mp addressed) zero] at nonzero
      exact absurd zero (nonzero _ List.mem_cons_self)
  | case4 it maps addressed zero skipped later ih =>
      rw [sendLoop_skipped (not_not.mp addressed) zero] at nonzero
      exact absurd zero (nonzero _ List.mem_cons_self)
  | case5 it rest maps addressed accepted ih =>
      rw [sendLoop_sent (not_not.mp addressed) accepted] at nonzero
      obtain ⟨_, later⟩ := List.forall_mem_cons.mp nonzero
      exact List.forall_mem_cons.mpr ⟨fun _ => accepted, ih later⟩

/-- A broadcast that erases a socket ends over the end, or leaves out the socket behind the first erased one. -/
theorem sendLoop_broadcast {sockets : List Nat} (broadcast : outgoing.socket = none)
    (ordered : sockets.Pairwise (· < ·)) (reached : ∀ it ∈ sockets, ∃ call ∈ (outgoing.sendLoop sockets maps).calls,
      call.socket = it) (inside : (outgoing.sendLoop sockets maps).pastEnd = false) : outgoing.Accepted sockets := by
  induction sockets generalizing maps with
  | nil => exact List.forall_mem_nil _
  | cons it rest ih =>
      obtain ⟨first, later⟩ := List.pairwise_cons.mp ordered
      have addressed : outgoing.Addresses it := .inl broadcast
      by_cases zero : outgoing.results it = .accepted 0
      · cases rest with
        | nil =>
            rw [sendLoop_last addressed zero] at inside
            contradiction
        | cons skipped others =>
            obtain ⟨call, member, same⟩ := reached skipped (List.mem_cons_of_mem it List.mem_cons_self)
            rw [sendLoop_skipped addressed zero] at member
            rcases List.mem_cons.mp member with rfl | member
            · have before := first skipped List.mem_cons_self
              change it = skipped at same
              omega
            · have after := (List.pairwise_cons.mp later).1 call.socket (mem_calls member).1
              omega
      · rw [sendLoop_sent addressed zero] at reached inside
        have accepted : outgoing.Accepted rest := by
          apply ih later ?_ inside
          intro other member
          obtain ⟨call, called, same⟩ := reached other (List.mem_cons_of_mem it member)
          rcases List.mem_cons.mp called with rfl | called
          · have before := first other member
            change it = other at same
            omega
          · exact ⟨call, called, same⟩
        exact List.forall_mem_cons.mpr ⟨fun _ => zero, accepted⟩

theorem sendMessage_accepted (accepted : outgoing.Accepted maps.connectedSockets) :
    (outgoing.sendMessage maps).2 =
      ⟨maps, (maps.connectedSockets.filter outgoing.Addresses).map outgoing.call, false⟩ := by
  unfold sendMessage
  split
  · rename_i empty
    rw [empty]
    rfl
  · exact sendLoop_accepted accepted

/-- The socket that the iterator stands at is erased from the map. -/
theorem connectedSockets_erase {before : List Nat} (split : maps.connectedSockets = before ++ it :: rest) :
    (maps.erase it).connectedSockets = before ++ rest := by
  have ordered := maps.ordered
  rw [split] at ordered
  obtain ⟨_, after, apart⟩ := List.pairwise_append.mp ordered
  have kept {other : Nat} (different : other ≠ it) : decide (other ≠ it) = true := decide_eq_true different
  change maps.connectedSockets.filter _ = _
  rw [split, List.filter_append, List.filter_cons_of_neg (by simp)]
  congr 1
  · apply List.filter_eq_self.mpr
    intro other member
    exact kept (apart other member it List.mem_cons_self).ne
  · apply List.filter_eq_self.mpr
    intro other member
    exact kept ((List.pairwise_cons.mp after).1 other member).ne'

theorem addresses_iff : outgoing.Addresses it ↔ ¬ (outgoing.socket ≠ none ∧ outgoing.socket ≠ some it) := by
  unfold Addresses
  tauto

/-- The loop over the maps erases the sockets that the loop over the connections erases. -/
theorem sendLoop_connections {connections : List Connection} {before : List Nat}
    (split : maps.connectedSockets = before ++ Connection.registered connections) :
    (JsonRpcServer.sendLoop outgoing.message outgoing.socket outgoing.results connections).map
        (fun next => before ++ Connection.registered next) =
      if (outgoing.sendLoop (Connection.registered connections) maps).pastEnd then none
      else some (outgoing.sendLoop (Connection.registered connections) maps).maps.connectedSockets := by
  induction connections using JsonRpcServer.sendLoop.induct outgoing.socket outgoing.results
    generalizing before maps with
  | case1 => exact congrArg some split.symm
  | case2 it rest passed ih =>
      have other : ¬ outgoing.Addresses it.socket := not_or.mpr passed
      rw [JsonRpcServer.sendLoop_passed passed, Option.map_map, Connection.registered, List.map_cons,
        sendLoop_passed other]
      have later := @ih maps (before ++ [it.socket]) (by rw [split]; simp [Connection.registered])
      rw [← Connection.registered, ← later]
      congr 1
      funext next
      simp [Connection.registered]
  | case3 it addressed zero =>
      have own : outgoing.Addresses it.socket := addresses_iff.mpr addressed
      rw [JsonRpcServer.sendLoop, if_neg addressed, if_pos zero, Connection.registered, List.map_singleton,
        sendLoop_last own zero]
      rfl
  | case4 it addressed zero skipped later ih =>
      have own : outgoing.Addresses it.socket := addresses_iff.mpr addressed
      rw [JsonRpcServer.sendLoop, if_neg addressed, if_pos zero, Option.map_map, Connection.registered, List.map_cons,
        List.map_cons, sendLoop_skipped own zero]
      have erased := connectedSockets_erase split
      have onward := @ih (maps.erase it.socket) (before ++ [skipped.socket])
        (by rw [erased]; simp [Connection.registered])
      change _ = if (outgoing.sendLoop _ _).pastEnd then none else some (outgoing.sendLoop _ _).maps.connectedSockets
      rw [← Connection.registered, ← onward]
      have same : (if outgoing.socket = none then skipped.send outgoing.message .refused else skipped).socket =
          skipped.socket := by
        split <;> rfl
      congr 1
      funext next
      simp [Connection.registered, same]
  | case5 it rest addressed nonzero ih =>
      have own : outgoing.Addresses it.socket := addresses_iff.mpr addressed
      rw [JsonRpcServer.sendLoop_addressed addressed nonzero, Option.map_map, Connection.registered, List.map_cons,
        sendLoop_sent own nonzero]
      have later := @ih maps (before ++ [it.socket]) (by rw [split]; simp [Connection.registered])
      change _ = if (outgoing.sendLoop _ _).pastEnd then none else some (outgoing.sendLoop _ _).maps.connectedSockets
      rw [← Connection.registered, ← later]
      congr 1
      funext next
      simp [Connection.registered, Connection.send]

end Loop

/-- Every registered socket gets the message in one call, the iterator stays inside the map, and exactly the sockets
whose call fails are gone from both maps. -/
structure Broadcast (outgoing : Outgoing) (maps : SessionMaps) (sent : SendOutcome) : Prop where
  once : ∀ socket, sent.calls.filter (·.socket = socket) =
    if socket ∈ maps.connectedSockets then [⟨socket, outgoing.message, outgoing.results socket⟩] else []
  inside : sent.pastEnd = false
  connectedSockets : sent.maps.connectedSockets =
    maps.connectedSockets.filter fun socket => outgoing.results socket ≠ .accepted 0
  currentMsgs : ∀ socket, sent.maps.currentMsgs socket =
    if socket ∈ maps.connectedSockets ∧ outgoing.results socket = .accepted 0 then none
    else maps.currentMsgs socket

/-- A broadcast works for every registered socket exactly when no call of `Send` fails. -/
theorem sendMessage_broadcast_iff (message : Bytes) (results : Nat → SendResult) (maps : SessionMaps) :
    Broadcast ⟨message, none, results⟩ maps (sendMessage ⟨message, none, results⟩ maps).2 ↔
      ∀ socket ∈ maps.connectedSockets, results socket ≠ .accepted 0 := by
  constructor
  · intro broadcast socket registered
    have some : maps.connectedSockets ≠ [] := List.ne_nil_of_mem registered
    rw [sendMessage, if_neg some] at broadcast
    refine sendLoop_broadcast rfl maps.ordered ?_ broadcast.inside socket registered (.inl rfl)
    intro it member
    have one := broadcast.once it
    rw [if_pos member] at one
    obtain ⟨called, same⟩ := List.mem_filter.mp (one ▸ List.mem_singleton.mpr rfl)
    exact ⟨_, called, rfl⟩
  · intro accepted
    have all : maps.connectedSockets.filter (Addresses ⟨message, none, results⟩) = maps.connectedSockets :=
      List.filter_eq_self.mpr fun _ _ => decide_eq_true (.inl rfl)
    rw [sendMessage_accepted fun it member _ => accepted it member, all]
    constructor
    · intro socket
      have mapped : (maps.connectedSockets.map (call ⟨message, none, results⟩)).filter (·.socket = socket) =
          (maps.connectedSockets.filter (· = socket)).map (call ⟨message, none, results⟩) := List.filter_map
      rw [mapped, List.filter_eq, maps.ordered.nodup.count]
      split
      · rfl
      · rfl
    · rfl
    · apply (List.filter_eq_self.mpr _).symm
      intro socket registered
      exact decide_eq_true (accepted socket registered)
    · intro socket
      rw [if_neg]
      intro failed
      exact accepted socket failed.1 failed.2

/-- The first of two sockets fails, and the second one gets no message. -/
theorem sendMessage_skips : ¬ ∀ (message : Bytes) (results : Nat → SendResult) (maps : SessionMaps),
    Broadcast ⟨message, none, results⟩ maps (sendMessage ⟨message, none, results⟩ maps).2 := by
  intro claim
  have once := (claim [openBrace, closeBrace] (fun socket => .accepted (socket - 1))
    ((SessionMaps.empty.register 2).register 1)).once 2
  exact absurd once (by decide)

end Outgoing
end Faf
