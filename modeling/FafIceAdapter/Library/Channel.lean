import FafIceAdapter.Library.StreamReader

namespace StreamReader

variable {A M N : Type}

/-- What was sent to a reader and has not arrived, and what the reader keeps of an incomplete message. -/
structure Channel (A : Type) where
  transit : List A
  buffer : List A

namespace Channel

def empty : Channel A := ⟨[], []⟩

def send (message : List A) (channel : Channel A) : Channel A :=
  { channel with transit := channel.transit ++ message }

/-- A number of elements arrives, and the reader takes every message that is complete. -/
def receive (reader : Reader A M) (count : Nat) (channel : Channel A) : Reader.Drained A M × Channel A :=
  let drained := reader.drain (channel.buffer ++ channel.transit.take count)
  (drained, ⟨channel.transit.drop count, drained.buffer⟩)

/-- A part of a queue's encoding ends inside one of its messages or between two of them. -/
theorem prefix_encoded (encode : N → List A) {queue : List N} {part : List A}
    (within : part <+: queue.flatMap encode) :
    ∃ now later tail, queue = now ++ later ∧ part = now.flatMap encode ++ tail ∧ tail <+: later.flatMap encode ∧
      (tail = [] ∨ ∃ message ∈ later, tail <+: encode message ∧ tail ≠ encode message) := by
  induction queue generalizing part with
  | nil =>
      obtain rfl := List.prefix_nil.mp within
      exact ⟨[], [], [], rfl, rfl, List.nil_prefix, .inl rfl⟩
  | cons head others ih =>
      have whole := within
      rw [List.flatMap_cons] at within
      rcases Sequence.prefix_append_cases within with ⟨inside, short⟩ | ⟨rest, rfl, inside⟩
      · exact ⟨[], head :: others, part, rfl, rfl, whole, .inr ⟨head, List.mem_cons_self, inside, short⟩⟩
      · obtain ⟨now, later, tail, rfl, rfl, follows, ends⟩ := ih inside
        refine ⟨head :: now, later, tail, rfl, ?_, follows, ends⟩
        rw [List.flatMap_cons, List.append_assoc]

/-- The channel carries exactly the messages of a queue, and the reader waits for more of the first one. -/
structure Carries (reader : Reader A M) (encode : N → List A) (queue : List N) (channel : Channel A) : Prop where
  content : channel.buffer ++ channel.transit = queue.flatMap encode
  waits : reader channel.buffer = .waiting

section Carrying

variable {reader : Reader A M} {encode : N → List A} {queue : List N} {channel : Channel A}

theorem carries_empty (waits : reader [] = .waiting) : Carries reader encode [] empty := ⟨rfl, waits⟩

theorem Carries.send (carries : Carries reader encode queue channel) (messages : List N) :
    Carries reader encode (queue ++ messages) (channel.send (messages.flatMap encode)) where
  content := by
    rw [List.flatMap_append, ← carries.content, List.append_assoc]
    rfl
  waits := carries.waits

/-- An arrival takes messages from the front of the queue and leaves the others. -/
theorem Carries.receive (carries : Carries reader encode queue channel) (shortens : reader.Shortens)
    (waits : reader [] = .waiting) (decoded : N → M)
    (each : ∀ message ∈ queue, reader.Reads (encode message) (decoded message)) (count : Nat) :
    ∃ now later, queue = now ++ later ∧ (channel.receive reader count).1.delivered = now.map decoded ∧
      (channel.receive reader count).1.failed = false ∧
      Carries reader encode later (channel.receive reader count).2 := by
  have arrived : channel.buffer ++ channel.transit.take count <+: queue.flatMap encode := by
    refine ⟨channel.transit.drop count, ?_⟩
    rw [List.append_assoc, List.take_append_drop, carries.content]
  obtain ⟨now, later, tail, rfl, split, _, ends⟩ := prefix_encoded encode arrived
  have stops : reader tail = .waiting := by
    rcases ends with rfl | ⟨message, member, inside, short⟩
    · exact waits
    · exact (each message (List.mem_append_right now member)).truncated tail inside short
  have drained := Reader.drain_encoded shortens encode decoded now
    (fun message member => each message (List.mem_append_left later member)) tail stops
  rw [← split] at drained
  refine ⟨now, later, rfl, congrArg Reader.Drained.delivered drained, congrArg Reader.Drained.failed drained, ?_, ?_⟩
  · have whole := carries.content
    rw [← List.take_append_drop count channel.transit, ← List.append_assoc, split, List.flatMap_append,
      List.append_assoc] at whole
    have kept : (channel.receive reader count).2.buffer = tail := congrArg Reader.Drained.buffer drained
    rw [kept]
    exact List.append_cancel_left whole
  · have kept : (channel.receive reader count).2.buffer = tail := congrArg Reader.Drained.buffer drained
    rw [kept]
    exact stops

/-- A channel whose elements have all arrived has handed out every message. -/
theorem Carries.arrived (carries : Carries reader encode queue channel) (decoded : N → M)
    (each : ∀ message ∈ queue, reader.Reads (encode message) (decoded message))
    (none : channel.transit = []) : queue = [] := by
  cases queue with
  | nil => rfl
  | cons head others =>
      have content := carries.content
      rw [none, List.append_nil, List.flatMap_cons] at content
      have read := (each head List.mem_cons_self).whole (others.flatMap encode)
      rw [← content, carries.waits] at read
      contradiction

end Carrying

/-- The first messages that were sent are received, and the channel carries the others. -/
def Conveys (reader : Reader A M) (encode : N → List A) (decoded : N → M) (sent : List N) (received : List M)
    (channel : Channel A) : Prop :=
  ∃ taken queue, sent = taken ++ queue ∧ received = taken.map decoded ∧ Carries reader encode queue channel

section Conveying

variable {reader : Reader A M} {encode : N → List A} {decoded : N → M} {sent : List N} {received : List M}
  {channel : Channel A}

theorem conveys_empty (waits : reader [] = .waiting) : Conveys reader encode decoded [] [] empty :=
  ⟨[], [], rfl, rfl, carries_empty waits⟩

theorem Conveys.send (conveys : Conveys reader encode decoded sent received channel) (messages : List N) :
    Conveys reader encode decoded (sent ++ messages) received (channel.send (messages.flatMap encode)) := by
  obtain ⟨taken, queue, rfl, same, carries⟩ := conveys
  exact ⟨taken, queue ++ messages, List.append_assoc .., same, carries.send messages⟩

/-- An arrival hands out messages and never fails. -/
theorem Conveys.receive (conveys : Conveys reader encode decoded sent received channel)
    (shortens : reader.Shortens) (waits : reader [] = .waiting)
    (each : ∀ message ∈ sent, reader.Reads (encode message) (decoded message)) (count : Nat) :
    (channel.receive reader count).1.failed = false ∧
      Conveys reader encode decoded sent (received ++ (channel.receive reader count).1.delivered)
        (channel.receive reader count).2 := by
  obtain ⟨taken, queue, rfl, same, carries⟩ := conveys
  obtain ⟨now, later, rfl, delivered, completes, carries'⟩ := carries.receive shortens waits decoded
    (fun message member => each message (List.mem_append_right taken member)) count
  refine ⟨completes, taken ++ now, later, (List.append_assoc ..).symm, ?_, carries'⟩
  rw [same, delivered, List.map_append]

/-- When everything has arrived, everything is received. -/
theorem Conveys.arrived (conveys : Conveys reader encode decoded sent received channel)
    (each : ∀ message ∈ sent, reader.Reads (encode message) (decoded message)) (none : channel.transit = []) :
    received = sent.map decoded := by
  obtain ⟨taken, queue, rfl, same, carries⟩ := conveys
  have empty := carries.arrived decoded (fun message member => each message (List.mem_append_right taken member)) none
  rw [same, empty, List.append_nil]

end Conveying

end Channel
end StreamReader
