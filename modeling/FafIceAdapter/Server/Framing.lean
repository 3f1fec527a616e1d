import FafIceAdapter.Json.Sample
import FafIceAdapter.Library.Transition
import FafIceAdapter.Server.Connections

namespace Faf
open Json Transition

/-- The registered sockets of the two servers. -/
structure Servers where
  gpgnet : List Connection
  jsonRpc : List Connection

namespace Servers

/-- A client connects to a server or leaves it, or a server sends a message. -/
inductive Event where
  | gpgnetClient (socket : Nat)
  | gpgnetGone (socket : Nat)
  | gpgnetSend (message : GPGNetMessage) (results : Nat → SendResult)
  | jsonRpcClient (socket : Nat)
  | jsonRpcGone (socket : Nat)
  | jsonRpcSend (message : Bytes) (socket : Option Nat) (results : Nat → SendResult)

/-- A new socket is none of the registered ones. A message whose encoder throws is not sent. -/
def step (jsonCpp : JsonCpp) (servers : Servers) : Event → Option Servers
  | .gpgnetClient socket =>
      if socket ∈ Connection.registered servers.gpgnet then none
      else some { servers with gpgnet := Connection.register socket servers.gpgnet }
  | .gpgnetGone socket => some { servers with gpgnet := Connection.erase socket servers.gpgnet }
  | .gpgnetSend message results =>
      match message.toBinary jsonCpp with
      | .error _ => some servers
      | .ok binary => some { servers with gpgnet := GPGNetServer.sendMessage binary results servers.gpgnet }
  | .jsonRpcClient socket =>
      if socket ∈ Connection.registered servers.jsonRpc then none
      else some { servers with jsonRpc := Connection.register socket servers.jsonRpc }
  | .jsonRpcGone socket => some { servers with jsonRpc := Connection.erase socket servers.jsonRpc }
  | .jsonRpcSend message socket results =>
      (JsonRpcServer.sendMessage message socket results servers.jsonRpc).map fun sent =>
        { servers with jsonRpc := sent.2 }

def machine (jsonCpp : JsonCpp) : Machine Servers Event where
  initial := ⟨[], []⟩
  step := step jsonCpp

/-- The calls of `Send` on a socket of the GPGNet server since it was registered, each with its message and the number
of bytes that were accepted. -/
def Event.gpgnetSends (jsonCpp : JsonCpp) (socket : Nat) (sends : List (Bytes × Nat)) : Event → List (Bytes × Nat)
  | .gpgnetClient newSocket => if newSocket = socket then [] else sends
  | .gpgnetSend message results =>
      match message.toBinary jsonCpp with
      | .error _ => sends
      | .ok binary => sends ++ [(binary, (results socket).taken)]
  | .gpgnetGone _ | .jsonRpcClient _ | .jsonRpcGone _ | .jsonRpcSend _ _ _ => sends

/-- The calls of `Send` on a socket of the JSON-RPC server since it was registered. -/
def Event.jsonRpcSends (socket : Nat) (sends : List (Bytes × Nat)) : Event → List (Bytes × Nat)
  | .jsonRpcClient newSocket => if newSocket = socket then [] else sends
  | .jsonRpcSend message target results =>
      if target = none ∨ target = some socket then sends ++ [(message, (results socket).taken)] else sends
  | .gpgnetClient _ | .gpgnetGone _ | .gpgnetSend _ _ | .jsonRpcGone _ => sends

def gpgnetSends (jsonCpp : JsonCpp) (socket : Nat) (events : List Event) : List (Bytes × Nat) :=
  events.foldl (Event.gpgnetSends jsonCpp socket) []

def jsonRpcSends (socket : Nat) (events : List Event) : List (Bytes × Nat) :=
  events.foldl (Event.jsonRpcSends socket) []

/-- No `Send` of a broadcast returns zero. -/
def Allowed (servers : Servers) : Event → Prop
  | .jsonRpcSend _ none results => ∀ it ∈ servers.jsonRpc, results it.socket ≠ .accepted 0
  | _ => True

instance (servers : Servers) (event : Event) : Decidable (Allowed servers event) := by
  unfold Allowed
  split
  · infer_instance
  · infer_instance

section Loop

variable {message : Bytes} {target : Option Nat} {results : Nat → SendResult} {connections next : List Connection}

/-- The loop erases sockets and adds none. -/
theorem registered_sendLoop (sent : JsonRpcServer.sendLoop message target results connections = some next) :
    (Connection.registered next).Sublist (Connection.registered connections) := by
  induction connections using JsonRpcServer.sendLoop.induct target results generalizing next with
  | case1 =>
      obtain rfl := Option.some.inj sent
      exact List.Sublist.refl _
  | case2 it rest passed ih =>
      rw [JsonRpcServer.sendLoop_passed passed] at sent
      obtain ⟨later, looped, rfl⟩ := Option.map_eq_some_iff.mp sent
      exact (ih looped).cons_cons it.socket
  | case3 it addressed zero =>
      rw [JsonRpcServer.sendLoop, if_neg addressed, if_pos zero] at sent
      contradiction
  | case4 it addressed zero skipped later ih =>
      rw [JsonRpcServer.sendLoop, if_neg addressed, if_pos zero] at sent
      obtain ⟨after, looped, rfl⟩ := Option.map_eq_some_iff.mp sent
      have same : (if target = none then skipped.send message .refused else skipped).socket = skipped.socket := by
        split <;> rfl
      rw [Connection.registered, List.map_cons, same]
      exact ((ih looped).cons_cons skipped.socket).cons it.socket
  | case5 it rest addressed nonzero ih =>
      rw [JsonRpcServer.sendLoop_addressed addressed nonzero] at sent
      obtain ⟨later, looped, rfl⟩ := Option.map_eq_some_iff.mp sent
      exact (ih looped).cons_cons it.socket

/-- The sockets that are left got the message if it was addressed to them. -/
theorem mem_sendLoop (distinct : (Connection.registered connections).Nodup)
    (nonzero : target = none → ∀ it ∈ connections, results it.socket ≠ .accepted 0)
    (sent : JsonRpcServer.sendLoop message target results connections = some next) :
    ∀ it ∈ next, ∃ before ∈ connections, it =
      if target = none ∨ target = some before.socket then before.send message (results before.socket) else before := by
  induction connections using JsonRpcServer.sendLoop.induct target results generalizing next with
  | case1 =>
      obtain rfl := Option.some.inj sent
      exact List.forall_mem_nil _
  | case2 it rest passed ih =>
      rw [JsonRpcServer.sendLoop_passed passed] at sent
      obtain ⟨later, looped, rfl⟩ := Option.map_eq_some_iff.mp sent
      have others := ih (List.nodup_cons.mp distinct).2
        (fun broadcast => (List.forall_mem_cons.mp (nonzero broadcast)).2) looped
      refine List.forall_mem_cons.mpr ⟨⟨it, List.mem_cons_self, ?_⟩, ?_⟩
      · rw [if_neg (by simpa using passed)]
      · intro left member
        obtain ⟨before, inside, same⟩ := others left member
        exact ⟨before, List.mem_cons_of_mem it inside, same⟩
  | case3 it addressed zero =>
      rw [JsonRpcServer.sendLoop, if_neg addressed, if_pos zero] at sent
      contradiction
  | case4 it addressed zero skipped later ih =>
      have targeted : target ≠ none := fun broadcast => nonzero broadcast it List.mem_cons_self zero
      obtain ⟨fresh, tailDistinct⟩ := List.nodup_cons.mp distinct
      obtain ⟨_, laterDistinct⟩ := List.nodup_cons.mp tailDistinct
      rw [JsonRpcServer.sendLoop, if_neg addressed, if_pos zero] at sent
      obtain ⟨after, looped, rfl⟩ := Option.map_eq_some_iff.mp sent
      have own : target = some it.socket := by
        by_contra other
        exact addressed ⟨targeted, other⟩
      have others := ih laterDistinct (fun broadcast => absurd broadcast targeted) looped
      rw [if_neg targeted]
      refine List.forall_mem_cons.mpr ⟨⟨skipped, List.mem_cons_of_mem it List.mem_cons_self, ?_⟩, ?_⟩
      · rw [if_neg]
        rintro (broadcast | same)
        · exact targeted broadcast
        · have equal : it.socket = skipped.socket := Option.some.inj (own.symm.trans same)
          exact fresh (equal ▸ List.mem_cons_self)
      · intro left member
        obtain ⟨before, inside, same⟩ := others left member
        exact ⟨before, List.mem_cons_of_mem it (List.mem_cons_of_mem skipped inside), same⟩
  | case5 it rest addressed nonzero' ih =>
      rw [JsonRpcServer.sendLoop_addressed addressed nonzero'] at sent
      obtain ⟨later, looped, rfl⟩ := Option.map_eq_some_iff.mp sent
      have others := ih (List.nodup_cons.mp distinct).2
        (fun broadcast => (List.forall_mem_cons.mp (nonzero broadcast)).2) looped
      refine List.forall_mem_cons.mpr ⟨⟨it, List.mem_cons_self, ?_⟩, ?_⟩
      · rw [if_pos]
        by_contra other
        exact addressed (not_or.mp other)
      · intro left member
        obtain ⟨before, inside, same⟩ := others left member
        exact ⟨before, List.mem_cons_of_mem it inside, same⟩

end Loop

/-- The ledgers are those of the calls of `Send`. -/
structure Recorded (jsonCpp : JsonCpp) (events : List Event) (servers : Servers) : Prop where
  gpgnet : ∀ it ∈ servers.gpgnet, it.ledger = .after (gpgnetSends jsonCpp it.socket events)
  jsonRpc : ∀ it ∈ servers.jsonRpc, it.ledger = .after (jsonRpcSends it.socket events)
  distinct : (Connection.registered servers.jsonRpc).Nodup

section Steps

variable {jsonCpp : JsonCpp} {events : List Event} {servers next : Servers}

theorem gpgnetSends_concat (socket : Nat) (event : Event) : gpgnetSends jsonCpp socket (events ++ [event]) =
    event.gpgnetSends jsonCpp socket (gpgnetSends jsonCpp socket events) := List.foldl_concat ..

theorem jsonRpcSends_concat (socket : Nat) (event : Event) : jsonRpcSends socket (events ++ [event]) =
    event.jsonRpcSends socket (jsonRpcSends socket events) := List.foldl_concat ..

/-- A socket that is registered has got nothing yet. -/
theorem ledger_register {socket : Nat} {connections : List Connection} (sends : Nat → List (Bytes × Nat))
    (fresh : socket ∉ Connection.registered connections)
    (recorded : ∀ it ∈ connections, it.ledger = .after (sends it.socket)) :
    ∀ it ∈ Connection.register socket connections,
      it.ledger = .after (if socket = it.socket then [] else sends it.socket) := by
  intro it member
  rcases Connection.mem_register member with rfl | old
  · rw [if_pos rfl]
    rfl
  · rw [if_neg, recorded it old]
    rintro rfl
    exact fresh (List.mem_map_of_mem old)

theorem Recorded.gpgnetSend {message : GPGNetMessage} {results : Nat → SendResult}
    (recorded : Recorded jsonCpp events servers)
    (steps : servers.step jsonCpp (.gpgnetSend message results) = some next) :
    Recorded jsonCpp (events ++ [.gpgnetSend message results]) next := by
  simp only [Servers.step] at steps
  split at steps
  · rename_i exception failed
    obtain rfl := Option.some.inj steps
    refine ⟨fun it member => ?_, fun it member => ?_, recorded.distinct⟩
    · rw [gpgnetSends_concat, Event.gpgnetSends, failed]
      exact recorded.gpgnet it member
    · rw [jsonRpcSends_concat]
      exact recorded.jsonRpc it member
  · rename_i binary encoded
    obtain rfl := Option.some.inj steps
    refine ⟨fun it member => ?_, fun it member => ?_, recorded.distinct⟩
    · obtain ⟨before, inside, rfl⟩ := List.mem_map.mp member
      rw [gpgnetSends_concat, Event.gpgnetSends, encoded]
      change before.ledger.send binary (results before.socket).taken = _
      rw [recorded.gpgnet before inside]
      exact (Ledger.after_concat ..).symm
    · rw [jsonRpcSends_concat]
      exact recorded.jsonRpc it member

theorem Recorded.jsonRpcSend {message : Bytes} {target : Option Nat} {results : Nat → SendResult}
    (recorded : Recorded jsonCpp events servers) (permits : Allowed servers (.jsonRpcSend message target results))
    (steps : servers.step jsonCpp (.jsonRpcSend message target results) = some next) :
    Recorded jsonCpp (events ++ [.jsonRpcSend message target results]) next := by
  obtain ⟨⟨flag, connections⟩, sent, rfl⟩ := Option.map_eq_some_iff.mp steps
  have others : ∀ it ∈ servers.gpgnet,
      it.ledger = .after (gpgnetSends jsonCpp it.socket (events ++ [.jsonRpcSend message target results])) := by
    intro it member
    rw [gpgnetSends_concat]
    exact recorded.gpgnet it member
  unfold JsonRpcServer.sendMessage at sent
  split at sent
  · obtain ⟨_, rfl⟩ := Prod.mk.inj (Option.some.inj sent)
    exact ⟨others, List.forall_mem_nil _, List.nodup_nil⟩
  · obtain ⟨_, looped, same⟩ := Option.map_eq_some_iff.mp sent
    obtain ⟨_, rfl⟩ := Prod.mk.inj same
    refine ⟨others, fun it member => ?_, recorded.distinct.sublist (registered_sendLoop looped)⟩
    have nonzero : target = none → ∀ it ∈ servers.jsonRpc, results it.socket ≠ .accepted 0 := by
      rintro rfl
      exact permits
    obtain ⟨before, inside, rfl⟩ := mem_sendLoop recorded.distinct nonzero looped it member
    rw [jsonRpcSends_concat]
    split
    · rename_i addressed
      change before.ledger.send message (results before.socket).taken =
        .after (if target = none ∨ target = some before.socket then _ else _)
      rw [if_pos addressed, recorded.jsonRpc before inside]
      exact (Ledger.after_concat ..).symm
    · rename_i passed
      rw [Event.jsonRpcSends, if_neg passed]
      exact recorded.jsonRpc before inside

theorem Recorded.step {event : Event} (recorded : Recorded jsonCpp events servers) (permits : Allowed servers event)
    (steps : servers.step jsonCpp event = some next) : Recorded jsonCpp (events ++ [event]) next := by
  have gpgnetKept (quiet : ∀ socket sends, event.gpgnetSends jsonCpp socket sends = sends) :
      ∀ it ∈ servers.gpgnet, it.ledger = .after (gpgnetSends jsonCpp it.socket (events ++ [event])) := by
    intro it member
    rw [gpgnetSends_concat, quiet]
    exact recorded.gpgnet it member
  have jsonRpcKept (quiet : ∀ socket sends, event.jsonRpcSends socket sends = sends) :
      ∀ it ∈ servers.jsonRpc, it.ledger = .after (jsonRpcSends it.socket (events ++ [event])) := by
    intro it member
    rw [jsonRpcSends_concat, quiet]
    exact recorded.jsonRpc it member
  cases event with
  | gpgnetClient socket =>
      obtain ⟨fresh, last⟩ := Option.ite_none_left_eq_some.mp steps
      obtain rfl := Option.some.inj last
      refine ⟨fun it member => ?_, jsonRpcKept fun _ _ => rfl, recorded.distinct⟩
      rw [gpgnetSends_concat]
      exact ledger_register (gpgnetSends jsonCpp · events) fresh recorded.gpgnet it member
  | gpgnetGone socket =>
      obtain rfl := Option.some.inj steps
      exact ⟨fun it member => gpgnetKept (fun _ _ => rfl) it (Connection.mem_of_mem_erase member),
        jsonRpcKept fun _ _ => rfl, recorded.distinct⟩
  | gpgnetSend message results => exact recorded.gpgnetSend steps
  | jsonRpcClient socket =>
      obtain ⟨fresh, last⟩ := Option.ite_none_left_eq_some.mp steps
      obtain rfl := Option.some.inj last
      refine ⟨gpgnetKept fun _ _ => rfl, fun it member => ?_, ?_⟩
      · rw [jsonRpcSends_concat]
        exact ledger_register (jsonRpcSends · events) fresh recorded.jsonRpc it member
      · exact (Connection.registered_register socket _).nodup_iff.mpr (List.nodup_cons.mpr ⟨fresh, recorded.distinct⟩)
  | jsonRpcGone socket =>
      obtain rfl := Option.some.inj steps
      exact ⟨gpgnetKept fun _ _ => rfl,
        fun it member => jsonRpcKept (fun _ _ => rfl) it (Connection.mem_of_mem_erase member),
        recorded.distinct.sublist (Connection.registered_erase socket _)⟩
  | jsonRpcSend message target results => exact recorded.jsonRpcSend permits steps

end Steps

/-- In every run in which no `Send` of a broadcast returns zero, each registered socket has accepted the start of the
messages that were addressed to it, if no byte was accepted behind a `Send` that had not taken its whole message. -/
theorem accepted_framed (jsonCpp : JsonCpp) (events : List Event) (servers : Servers)
    (run : (machine jsonCpp).Reaches Allowed events servers) :
    (∀ it ∈ servers.gpgnet, Ledger.Stops (gpgnetSends jsonCpp it.socket events) →
        it.ledger.accepted <+: it.ledger.addressed.flatten) ∧
      ∀ it ∈ servers.jsonRpc, Ledger.Stops (jsonRpcSends it.socket events) →
        it.ledger.accepted <+: it.ledger.addressed.flatten := by
  have recorded : Recorded jsonCpp events servers := by
    induction run with
    | initial => exact ⟨List.forall_mem_nil _, List.forall_mem_nil _, List.nodup_nil⟩
    | step _ permits steps ih => exact ih.step permits steps
  constructor
  · intro it member stops
    rw [recorded.gpgnet it member]
    exact stops.framed
  · intro it member stops
    rw [recorded.jsonRpc it member]
    exact stops.framed

/-- The game and the client read slowly and then not at all. -/
def slowReaders : List Event :=
  [.gpgnetClient 5, .gpgnetSend ⟨bytes "ping", []⟩ fun _ => .accepted 3,
    .gpgnetSend ⟨bytes "ping", []⟩ fun _ => .refused, .jsonRpcClient 1,
    .jsonRpcSend [openBrace, closeBrace] none fun _ => .accepted 2,
    .jsonRpcSend [openBrace, closeBrace] (some 1) fun _ => .accepted 1]

theorem accepted_framed_slowReaders :
    ∃ servers, (machine (Sample.jsonCpp fun _ => (false, .nullValue))).runWhere Allowed slowReaders = some servers ∧
      (Connection.registered servers.gpgnet = [5] ∧ Connection.registered servers.jsonRpc = [1]) ∧
      ∀ it ∈ servers.gpgnet ++ servers.jsonRpc, it.ledger.accepted <+: it.ledger.addressed.flatten := by
  have told : ((machine (Sample.jsonCpp fun _ => (false, .nullValue))).runWhere Allowed slowReaders).map (fun servers =>
      (Connection.registered servers.gpgnet, Connection.registered servers.jsonRpc,
        decide (∀ it ∈ servers.gpgnet, Ledger.Stops (gpgnetSends (Sample.jsonCpp fun _ => (false, .nullValue)) it.socket
          slowReaders)),
        decide (∀ it ∈ servers.jsonRpc, Ledger.Stops (jsonRpcSends it.socket slowReaders)))) =
      some ([5], [1], true, true) := by
    decide +kernel
  obtain ⟨servers, run, same⟩ := Option.map_eq_some_iff.mp told
  simp only [Prod.mk.injEq, decide_eq_true_eq] at same
  obtain ⟨games, clients, gpgnetStops, jsonRpcStops⟩ := same
  obtain ⟨gpgnet, jsonRpc⟩ := accepted_framed (Sample.jsonCpp fun _ => (false, .nullValue)) slowReaders servers
    (Machine.reaches_iff_runWhere.mpr run)
  refine ⟨servers, run, ⟨games, clients⟩, ?_⟩
  intro it member
  rcases List.mem_append.mp member with game | client
  · exact gpgnet it game (gpgnetStops it game)
  · exact jsonRpc it client (jsonRpcStops it client)

/-- A refused write counts as a success, and the next message follows the gap. -/
theorem accepted_gap : ¬ ∀ (jsonCpp : JsonCpp) (events : List Event) (servers : Servers),
    (machine jsonCpp).Reaches (fun _ _ => True) events servers →
    ∀ it ∈ servers.gpgnet ++ servers.jsonRpc, it.ledger.accepted <+: it.ledger.addressed.flatten := by
  intro claim
  have run : (machine (Sample.jsonCpp fun _ => (false, .nullValue))).run
      [.jsonRpcClient 1, .jsonRpcSend [openBrace, closeBrace] none fun _ => .refused,
        .jsonRpcSend [openBrace, quote, quote, closeBrace] none fun _ => .accepted 4] = some _ := rfl
  have framed := claim _ _ _ (Machine.reaches_iff_run.mpr run) _ (List.mem_singleton.mpr rfl)
  exact absurd framed (by decide)

end Servers
end Faf
