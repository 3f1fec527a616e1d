import FafIceAdapter.Library.Sequence

namespace StreamReader

variable {A M N : Type}

/-- A buffer holds too little, holds an error, or starts with a value. -/
inductive Reading (A M : Type) where
  | waiting
  | failed
  | value (result : M) (rest : List A)

instance (reading : Reading A M) : Decidable (reading = .waiting) :=
  match reading with
  | .waiting => isTrue rfl
  | .failed => isFalse nofun
  | .value _ _ => isFalse nofun

def Reader (A M : Type) := List A → Reading A M

namespace Reader

def pure (result : M) : Reader A M := fun buffer => .value result buffer

def bind (reader : Reader A M) (next : M → Reader A N) : Reader A N := fun buffer =>
  match reader buffer with
  | .waiting => .waiting
  | .failed => .failed
  | .value result rest => next result rest

instance : Monad (Reader A) where
  pure := pure
  bind := bind

/-- The reader stops without consuming anything. -/
def wait : Reader A M := fun _ => .waiting

def fail : Reader A M := fun _ => .failed

/-- The reader takes a fixed number of elements. -/
def take (count : Nat) : Reader A (List A) := fun buffer =>
  if buffer.length < count then .waiting else .value (buffer.take count) (buffer.drop count)

/-- The reader first requires a number of elements and consumes none of them. -/
def require (count : Nat) (reader : Reader A M) : Reader A M := fun buffer =>
  if buffer.length < count then .waiting else reader buffer

/-- The reader repeats a fixed number of times. -/
def times (reader : Reader A M) : Nat → Reader A (List M)
  | 0 => pure []
  | count + 1 => do
      let head ← reader
      let tail ← times reader count
      return head :: tail

/-- A sequence gives a value exactly when both parts do. -/
theorem bind_value {reader : Reader A M} {next : M → Reader A N} {buffer rest : List A} {result : N} :
    (reader >>= next) buffer = .value result rest ↔
      ∃ first middle, reader buffer = .value first middle ∧ next first middle = .value result rest := by
  change bind reader next buffer = _ ↔ _
  unfold bind
  cases reader buffer <;> simp

theorem bind_of_value {reader : Reader A M} {next : M → Reader A N} {buffer middle : List A} {first : M}
    (read : reader buffer = .value first middle) : (reader >>= next) buffer = next first middle := by
  change bind reader next buffer = _
  simp [bind, read]

theorem bind_of_waiting {reader : Reader A M} {next : M → Reader A N} {buffer : List A}
    (waits : reader buffer = .waiting) : (reader >>= next) buffer = .waiting := by
  change bind reader next buffer = _
  simp [bind, waits]

theorem bind_of_failed {reader : Reader A M} {next : M → Reader A N} {buffer : List A}
    (fails : reader buffer = .failed) : (reader >>= next) buffer = .failed := by
  change bind reader next buffer = _
  simp [bind, fails]

theorem take_value {count : Nat} {buffer bytes rest : List A} :
    take count buffer = .value bytes rest ↔ buffer = bytes ++ rest ∧ bytes.length = count := by
  unfold take
  split
  · rename_i short
    simp only [reduceCtorEq, false_iff, not_and]
    intro same exact
    subst same
    simp only [List.length_append] at short
    omega
  · rename_i enough
    simp only [Reading.value.injEq]
    constructor
    · intro parts
      obtain ⟨rfl, rfl⟩ := parts
      exact ⟨(List.take_append_drop count buffer).symm, List.length_take_of_le (by omega)⟩
    · intro parts
      obtain ⟨rfl, rfl⟩ := parts
      exact ⟨List.take_left, List.drop_left⟩

theorem require_value {count : Nat} {reader : Reader A M} {buffer rest : List A} {result : M}
    (read : require count reader buffer = .value result rest) : reader buffer = .value result rest := by
  unfold require at read
  split at read
  · contradiction
  · exact read

/-- The reader recognises an encoding, whatever follows it, and waits on each truncation of it. -/
structure Reads (reader : Reader A M) (bytes : List A) (result : M) : Prop where
  whole : ∀ rest, reader (bytes ++ rest) = .value result rest
  truncated : ∀ part, part <+: bytes → part ≠ bytes → reader part = .waiting

theorem reads_pure (result : M) : Reads (Pure.pure result : Reader A M) [] result where
  whole _ := rfl
  truncated _ within different := absurd (List.prefix_nil.mp within) different

theorem reads_take (bytes : List A) : Reads (take bytes.length) bytes bytes where
  whole rest := take_value.mpr ⟨rfl, rfl⟩
  truncated part within different := by
    have shorter : part.length < bytes.length :=
      lt_of_le_of_ne within.length_le fun same => different (within.eq_of_length same)
    simp [take, shorter]

theorem reads_bind {reader : Reader A M} (next : M → Reader A N) {first second : List A}
    {head : M} {result : N} (start : Reads reader first head) (continued : Reads (next head) second result) :
    Reads (reader >>= next) (first ++ second) result where
  whole rest := by
    rw [List.append_assoc, bind_of_value (start.whole _)]
    exact continued.whole rest
  truncated part within different := by
    rcases Sequence.prefix_append_cases within with ⟨inside, short⟩ | ⟨tail, rfl, inside⟩
    · exact bind_of_waiting (start.truncated part inside short)
    · rw [bind_of_value (start.whole tail)]
      exact continued.truncated tail inside fun same => different (by rw [same])

/-- A final pure map keeps the encoding. -/
theorem reads_map {reader : Reader A M} {bytes : List A} {head : M} (start : Reads reader bytes head)
    (f : M → N) : Reads (do let value ← reader; return f value) bytes (f head) := by
  have mapped := reads_bind (fun value => Pure.pure (f value)) start (reads_pure (f head))
  rwa [List.append_nil] at mapped

theorem reads_require {reader : Reader A M} {bytes : List A} {result : M} {count : Nat}
    (start : Reads reader bytes result) (long : count ≤ bytes.length) :
    Reads (require count reader) bytes result where
  whole rest := by
    have enough : ¬ (bytes ++ rest).length < count := by
      simp only [List.length_append]
      omega
    simp only [require, if_neg enough, start.whole]
  truncated part within different := by
    unfold require
    split
    · rfl
    · exact start.truncated part within different

/-- Repeated readings follow the concatenated encodings. -/
theorem reads_times {reader : Reader A M} (encode : N → List A) (decoded : N → M) (values : List N)
    (each : ∀ value ∈ values, Reads reader (encode value) (decoded value)) :
    Reads (times reader values.length) (values.flatMap encode) (values.map decoded) := by
  induction values with
  | nil => exact reads_pure []
  | cons head tail ih =>
      have first := each head List.mem_cons_self
      have others := ih fun value member => each value (List.mem_cons_of_mem head member)
      rw [List.flatMap_cons]
      exact reads_bind _ first (reads_map others (decoded head :: ·))

/-- The reader decides on the bytes, whatever follows them. -/
def Settles (reader : Reader A M) (bytes : List A) : Prop :=
  ∀ rest, reader (bytes ++ rest) = .failed ∨ ∃ result, reader (bytes ++ rest) = .value result rest

theorem Reads.settles {reader : Reader A M} {bytes : List A} {result : M}
    (reads : Reads reader bytes result) : Settles reader bytes :=
  fun rest => .inr ⟨result, reads.whole rest⟩

/-- A part that is read hands over to the rest of the sequence. -/
theorem Reads.settles_bind {reader : Reader A M} {next : M → Reader A N} {first second : List A}
    {head : M} (start : Reads reader first head) (continued : Settles (next head) second) :
    Settles (reader >>= next) (first ++ second) := by
  intro rest
  rw [List.append_assoc, bind_of_value (start.whole _)]
  exact continued rest

/-- A part that is decided either fails or hands over to the rest of the sequence. -/
theorem Settles.bind {reader : Reader A M} {next : M → Reader A N} {first second : List A}
    (start : Settles reader first) (continued : ∀ head, Settles (next head) second) :
    Settles (reader >>= next) (first ++ second) := by
  intro rest
  rw [List.append_assoc]
  rcases start (second ++ rest) with failed | ⟨head, read⟩
  · exact .inl (bind_of_failed failed)
  · rw [bind_of_value read]
    exact continued head rest

theorem Settles.map {reader : Reader A M} {bytes : List A} (start : Settles reader bytes) (f : M → N) :
    Settles (do let value ← reader; return f value) bytes := by
  have mapped := start.bind fun value => (reads_pure (f value)).settles
  rwa [List.append_nil] at mapped

theorem Settles.require {reader : Reader A M} {bytes : List A} {count : Nat}
    (start : Settles reader bytes) (long : count ≤ bytes.length) : Settles (require count reader) bytes := by
  intro rest
  have enough : ¬ (bytes ++ rest).length < count := by
    simp only [List.length_append]
    omega
  simp only [Reader.require, if_neg enough]
  exact start rest

theorem settles_times {reader : Reader A M} (encode : N → List A) (values : List N)
    (each : ∀ value ∈ values, Settles reader (encode value)) :
    Settles (times reader values.length) (values.flatMap encode) := by
  induction values with
  | nil => exact (reads_pure []).settles
  | cons head tail ih =>
      have first := each head List.mem_cons_self
      have others := ih fun value member => each value (List.mem_cons_of_mem head member)
      rw [List.flatMap_cons]
      exact first.bind fun decoded => others.map (decoded :: ·)

/-- A repetition that reads at least as many values as were encoded needs each of them to be readable. -/
theorem times_value {reader : Reader A M} (encode : N → List A) {valid : N → Prop} (values : List N)
    (each : ∀ value ∈ values, encode value = [] ∨
      ∀ rest result after, reader (encode value ++ rest) = .value result after → after = rest ∧ valid value)
    (empty : reader [] = .waiting) {count : Nat} (enough : values.length ≤ count) {results : List M}
    {rest : List A} (read : times reader count (values.flatMap encode) = .value results rest) :
    count = values.length ∧ ∀ value ∈ values, valid value := by
  induction values generalizing count results rest with
  | nil =>
      cases count with
      | zero => simp
      | succ count =>
          have waits := @bind_of_waiting _ _ _ reader
            (fun head => do let tail ← times reader count; return head :: tail) _ empty
          have stuck : Reading.waiting = .value results rest := waits.symm.trans read
          contradiction
  | cons head tail ih =>
      have others := fun value member => each value (List.mem_cons_of_mem head member)
      rw [List.length_cons] at enough
      rw [List.flatMap_cons] at read
      rcases each head List.mem_cons_self with silent | readable
      · rw [silent, List.nil_append] at read
        obtain ⟨counted, _⟩ := ih others (Nat.le_of_succ_le enough) read
        omega
      · obtain ⟨count, rfl⟩ : ∃ other, count = other + 1 := ⟨count - 1, by omega⟩
        obtain ⟨first, middle, headRead, later⟩ := bind_value.mp read
        obtain ⟨rfl, headValid⟩ := readable _ first middle headRead
        obtain ⟨_, _, tailRead, _⟩ := bind_value.mp later
        obtain ⟨rfl, tailValid⟩ := ih others (Nat.le_of_succ_le_succ enough) tailRead
        exact ⟨rfl, List.forall_mem_cons.mpr ⟨headValid, tailValid⟩⟩

/-- An exact reader gives only valid values, each from its own encoding. -/
def Exact (reader : Reader A M) (encode : M → List A) (valid : M → Prop) : Prop :=
  ∀ ⦃buffer rest value⦄, reader buffer = .value value rest →
    buffer = encode value ++ rest ∧ valid value

/-- Repeated exact readings consume exactly the concatenated encodings. -/
theorem times_exact {reader : Reader A M} {encode : M → List A} {valid : M → Prop}
    (precise : Exact reader encode valid) {count : Nat} {buffer rest : List A} {values : List M}
    (read : times reader count buffer = .value values rest) :
    buffer = values.flatMap encode ++ rest ∧ values.length = count ∧ ∀ value ∈ values, valid value := by
  induction count generalizing buffer values with
  | zero =>
      obtain ⟨rfl, rfl⟩ := Reading.value.inj read
      simp
  | succ count ih =>
      obtain ⟨head, middle, first, read⟩ := bind_value.mp read
      obtain ⟨tail, after, others, last⟩ := bind_value.mp read
      obtain ⟨rfl, rfl⟩ := Reading.value.inj last
      obtain ⟨rfl, headValid⟩ := precise first
      obtain ⟨rfl, counted, tailValid⟩ := ih others
      exact ⟨by simp, by simp [counted], List.forall_mem_cons.mpr ⟨headValid, tailValid⟩⟩

/-- The messages read from a buffer, what is left of it, and whether an error stopped the reading. -/
structure Drained (A M : Type) where
  delivered : List M
  buffer : List A
  failed : Bool

def Drained.push (message : M) (later : Drained A M) : Drained A M :=
  { later with delivered := message :: later.delivered }

/-- The loop reads messages until one is incomplete or wrong. -/
def drainFor (reader : Reader A M) : Nat → List A → Drained A M
  | 0, buffer => ⟨[], buffer, false⟩
  | fuel + 1, buffer =>
      match reader buffer with
      | .waiting => ⟨[], buffer, false⟩
      | .failed => ⟨[], buffer, true⟩
      | .value message rest => (drainFor reader fuel rest).push message

def drain (reader : Reader A M) (buffer : List A) : Drained A M :=
  drainFor reader (buffer.length + 1) buffer

/-- Every message takes something from the buffer. -/
def Shortens (reader : Reader A M) : Prop :=
  ∀ ⦃buffer rest message⦄, reader buffer = .value message rest → rest.length < buffer.length

section Draining

variable {reader : Reader A M} (shortens : Shortens reader)
include shortens

/-- More fuel than the buffer is long changes nothing. -/
theorem drainFor_fuel (first second : Nat) (buffer : List A) (enough : buffer.length < first)
    (enough' : buffer.length < second) : drainFor reader first buffer = drainFor reader second buffer := by
  induction first generalizing second buffer with
  | zero => omega
  | succ first ih =>
      obtain ⟨second, rfl⟩ : ∃ count, second = count + 1 := ⟨second - 1, by omega⟩
      rw [drainFor, drainFor]
      cases read : reader buffer with
      | waiting => rfl
      | failed => rfl
      | value message rest =>
          have shorter := shortens read
          simp only [ih second rest (by omega) (by omega)]

/-- The loop delivers a complete message and goes on with the rest. -/
theorem drain_value {buffer rest : List A} {message : M} (read : reader buffer = .value message rest) :
    drain reader buffer = (drain reader rest).push message := by
  have shorter := shortens read
  rw [drain, drainFor, read]
  exact congrArg (Drained.push message) (drainFor_fuel shortens _ _ rest (by omega) (by omega))

omit shortens in
theorem drain_waiting {buffer : List A} (waits : reader buffer = .waiting) :
    drain reader buffer = ⟨[], buffer, false⟩ := by
  rw [drain, drainFor, waits]

/-- The loop recovers encoded messages and keeps an incomplete one. -/
theorem drain_encoded (encode : N → List A) (decoded : N → M) (messages : List N)
    (each : ∀ message ∈ messages, Reads reader (encode message) (decoded message)) (tail : List A)
    (waits : reader tail = .waiting) :
    drain reader (messages.flatMap encode ++ tail) = ⟨messages.map decoded, tail, false⟩ := by
  induction messages with
  | nil => exact drain_waiting waits
  | cons head others ih =>
      have first := (each head List.mem_cons_self).whole (others.flatMap encode ++ tail)
      rw [List.flatMap_cons, List.append_assoc, drain_value shortens first,
        ih fun message member => each message (List.mem_cons_of_mem head member)]
      rfl

/-- The loop loses and invents nothing, and it stops only where no message can be read. -/
theorem drain_exact {encode : M → List A} {valid : M → Prop} (precise : Exact reader encode valid)
    (buffer : List A) :
    buffer = (drain reader buffer).delivered.flatMap encode ++ (drain reader buffer).buffer ∧
      (∀ message ∈ (drain reader buffer).delivered, valid message) ∧
      reader (drain reader buffer).buffer = if (drain reader buffer).failed then .failed else .waiting := by
  induction size : buffer.length using Nat.strong_induction_on generalizing buffer with
  | _ size ih =>
      subst size
      cases read : reader buffer with
      | waiting => simp [drain, drainFor, read]
      | failed => simp [drain, drainFor, read]
      | value message rest =>
          obtain ⟨kept, others, stopped⟩ := ih _ (shortens read) rest rfl
          obtain ⟨used, headValid⟩ := precise read
          rw [drain_value shortens read]
          refine ⟨?_, List.forall_mem_cons.mpr ⟨headValid, others⟩, stopped⟩
          simp only [Drained.push, List.flatMap_cons, List.append_assoc]
          rwa [← kept]

end Draining

end Reader
end StreamReader
