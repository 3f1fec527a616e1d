import FafIceAdapter.JsonRpc.Segments

namespace Faf.JsonRpc
open Json

/-- The bytes on their way to an endpoint, its buffer, and the values of the last read event that are not processed. -/
structure Inbox where
  transit : Bytes
  msgBuffer : Bytes
  parsed : List Value

namespace Inbox

def empty : Inbox := ⟨[], [], []⟩

/-- The messages are written one after the other. -/
def send (jsonCpp : JsonCpp) (messages : List Value) (inbox : Inbox) : Inbox :=
  { inbox with transit := inbox.transit ++ stream jsonCpp messages }

/-- A number of bytes is read. The loop over the values of the last read event has ended. -/
def onRead (jsonCpp : JsonCpp) (count : Nat) (inbox : Inbox) : Option Inbox :=
  match inbox.parsed with
  | [] =>
      let (values, msgBuffer) := read jsonCpp inbox.msgBuffer [inbox.transit.take count]
      some ⟨inbox.transit.drop count, msgBuffer, values⟩
  | _ => none

/-- The next value is taken for processing. -/
def next (inbox : Inbox) : Option (Value × Inbox) :=
  match inbox.parsed with
  | [] => none
  | message :: rest => some (message, { inbox with parsed := rest })

/-- Trimming after a read event loses nothing of a message. -/
def KeepsRead (count : Nat) (inbox : Inbox) : Prop := Keeps (held inbox.msgBuffer [inbox.transit.take count])

instance (count : Nat) (inbox : Inbox) : Decidable (inbox.KeepsRead count) := inferInstanceAs (Decidable (_ ∨ _))

/-- Every byte is read, and every value is processed. -/
def Idle (inbox : Inbox) : Prop := inbox.transit = [] ∧ inbox.parsed = []

/-- The inbox holds the messages of a queue, first the values to process and then the bytes to read. -/
def Carries (jsonCpp : JsonCpp) (queue : List Value) (inbox : Inbox) : Prop :=
  ∃ todo, queue = inbox.parsed ++ todo ∧ Rests jsonCpp inbox.transit todo inbox.msgBuffer

theorem carries_empty (jsonCpp : JsonCpp) : Carries jsonCpp [] empty := ⟨[], rfl, .inl ⟨rfl, .inl rfl⟩⟩

section Carrying

variable {jsonCpp : JsonCpp} {queue : List Value} {inbox : Inbox}

theorem Carries.send (carries : Carries jsonCpp queue inbox) (messages : List Value) :
    Carries jsonCpp (queue ++ messages) (inbox.send jsonCpp messages) := by
  obtain ⟨todo, rfl, rests⟩ := carries
  have longer : stream jsonCpp (todo ++ messages) = stream jsonCpp todo ++ stream jsonCpp messages :=
    List.flatMap_append
  refine ⟨todo ++ messages, List.append_assoc .., ?_⟩
  unfold Rests Follows
  rw [longer]
  rcases rests with ⟨empty, same | same⟩ | ⟨same, unread⟩
  · exact .inl ⟨empty, .inl (congrArg (· ++ stream jsonCpp messages) same)⟩
  · exact .inl ⟨empty, .inr (congrArg (· ++ stream jsonCpp messages) same)⟩
  · refine .inr ⟨?_, List.append_ne_nil_of_left_ne_nil unread _⟩
    rw [← same]
    exact (List.append_assoc ..).symm

/-- A read event only moves messages from the bytes to the values. -/
theorem Carries.onRead (carries : Carries jsonCpp queue inbox) (plain : ∀ value ∈ queue, jsonCpp.Plain value)
    {count : Nat} (keeps : inbox.KeepsRead count) {after : Inbox} (reads : inbox.onRead jsonCpp count = some after) :
    Carries jsonCpp queue after := by
  obtain ⟨todo, rfl, rests⟩ := carries
  unfold Inbox.onRead at reads
  split at reads
  · rename_i processed
    obtain rfl := Option.some.inj reads
    rw [processed, List.nil_append] at plain ⊢
    rw [← List.take_append_drop count inbox.transit] at rests
    obtain ⟨lead, text, short, same, holds⟩ := holds_of_rests rests
    have all : held inbox.msgBuffer [inbox.transit.take count] = lead ++ text := same
    rw [KeepsRead, all] at keeps
    obtain ⟨left, split, kept⟩ := drain_holds plain holds short keeps
    rw [← all] at split kept
    exact ⟨left, split, kept⟩
  · contradiction

/-- The value that is processed is the first one of the queue. -/
theorem Carries.next (carries : Carries jsonCpp queue inbox) {message : Value} {after : Inbox}
    (takes : inbox.next = some (message, after)) : ∃ rest, queue = message :: rest ∧ Carries jsonCpp rest after := by
  obtain ⟨todo, rfl, rests⟩ := carries
  unfold Inbox.next at takes
  split at takes
  · contradiction
  · rename_i first rest parsed
    obtain ⟨rfl, rfl⟩ := Prod.mk.inj (Option.some.inj takes)
    exact ⟨rest ++ todo, congrArg (· ++ todo) parsed, todo, rfl, rests⟩

/-- Nothing is left in the buffer when every byte is read. -/
theorem Carries.idle (carries : Carries jsonCpp queue inbox) (idle : inbox.Idle) : queue = [] := by
  obtain ⟨todo, rfl, rests⟩ := carries
  rw [idle.2, List.nil_append]
  cases todo with
  | nil => rfl
  | cons value todo =>
      rw [idle.1] at rests
      rcases rests with ⟨_, none | none⟩ | ⟨_, none⟩
      · rw [stream_cons] at none
        simp at none
      · contradiction
      · contradiction

end Carrying
end Inbox
end Faf.JsonRpc
