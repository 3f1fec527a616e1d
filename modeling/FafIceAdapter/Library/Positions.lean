import FafIceAdapter.Library.Fragments

namespace StreamReader

variable {A O M N : Type}

/-- A parser of a buffer returns because too little is left, throws, or goes on from a position. -/
inductive Ending (M : Type) where
  | returned
  | threw
  | next (value : M) (it : Nat)

/-- What a parser does with its buffer, in order, and how it ends. -/
structure Recorded (O M : Type) where
  operations : List O
  ending : Ending M

def Parser (A O M : Type) := List A → Nat → Recorded O M

namespace Parser

def pure (value : M) : Parser A O M := fun _ it => ⟨[], .next value it⟩

def bind (parser : Parser A O M) (next : M → Parser A O N) : Parser A O N := fun buffer it =>
  match parser buffer it with
  | ⟨operations, .returned⟩ => ⟨operations, .returned⟩
  | ⟨operations, .threw⟩ => ⟨operations, .threw⟩
  | ⟨operations, .next value it⟩ =>
      ⟨operations ++ (next value buffer it).operations, (next value buffer it).ending⟩

instance : Monad (Parser A O) where
  pure := pure
  bind := bind

def returned : Parser A O M := fun _ _ => ⟨[], .returned⟩

/-- The parser returns when too little is left. The distance to the end is negative behind the end. -/
def returnIf (short : Int → Prop) [DecidablePred short] : Parser A O Unit := fun buffer it =>
  ⟨[], if short (buffer.length - it) then .returned else .next () it⟩

/-- The elements at the position, which stays. -/
def peek (count : Nat) : Parser A O (List A) := fun buffer it => ⟨[], .next ((buffer.drop it).take count) it⟩

/-- The position moves, which is recorded with the end of the buffer. -/
def advance (operation : Nat → Nat → O) (count : Nat) : Parser A O Unit := fun buffer it =>
  ⟨[operation (it + count) buffer.length], .next () (it + count)⟩

/-- The parser does something that may throw. -/
def perform (operation : Int → O) (throws : Prop) [Decidable throws] : Parser A O Unit := fun buffer it =>
  ⟨[operation (buffer.length - it)], if throws then .threw else .next () it⟩

/-- The parser repeats a fixed number of times. -/
def times (parser : Parser A O M) : Nat → Parser A O (List M)
  | 0 => pure []
  | count + 1 => do
      let head ← parser
      let tail ← times parser count
      return head :: tail

theorem bind_of_returned {parser : Parser A O M} {next : M → Parser A O N} {buffer : List A} {it : Nat}
    {operations : List O} (returns : parser buffer it = ⟨operations, .returned⟩) :
    (parser >>= next) buffer it = ⟨operations, .returned⟩ := by
  change bind parser next buffer it = _
  rw [bind, returns]

theorem bind_of_threw {parser : Parser A O M} {next : M → Parser A O N} {buffer : List A} {it : Nat}
    {operations : List O} (throws : parser buffer it = ⟨operations, .threw⟩) :
    (parser >>= next) buffer it = ⟨operations, .threw⟩ := by
  change bind parser next buffer it = _
  rw [bind, throws]

theorem bind_of_next {parser : Parser A O M} {next : M → Parser A O N} {buffer : List A} {it after : Nat}
    {operations : List O} {value : M} (parsed : parser buffer it = ⟨operations, .next value after⟩) :
    (parser >>= next) buffer it =
      ⟨operations ++ (next value buffer after).operations, (next value buffer after).ending⟩ := by
  change bind parser next buffer it = _
  rw [bind, parsed]

theorem returnIf_short {short : Int → Prop} [DecidablePred short] {buffer : List A} {it : Nat}
    (few : short (buffer.length - it)) : (returnIf short : Parser A O Unit) buffer it = ⟨[], .returned⟩ :=
  congrArg (Recorded.mk []) (if_pos few)

theorem returnIf_enough {short : Int → Prop} [DecidablePred short] {buffer : List A} {it : Nat}
    (enough : ¬ short (buffer.length - it)) : (returnIf short : Parser A O Unit) buffer it = ⟨[], .next () it⟩ :=
  congrArg (Recorded.mk []) (if_neg enough)

theorem perform_throws {operation : Int → O} {throws : Prop} [Decidable throws] {buffer : List A} {it : Nat}
    (holds : throws) : perform operation throws buffer it = ⟨[operation (buffer.length - it)], .threw⟩ :=
  congrArg (Recorded.mk _) (if_pos holds)

theorem perform_passes {operation : Int → O} {throws : Prop} [Decidable throws] {buffer : List A} {it : Nat}
    (passes : ¬ throws) : perform operation throws buffer it = ⟨[operation (buffer.length - it)], .next () it⟩ :=
  congrArg (Recorded.mk _) (if_neg passes)

/-- A parser that goes on from a position inside of the buffer has read what a reader reads. -/
inductive Agrees (buffer : List A) : Ending M → Reading A M → Prop
  | returned : Agrees buffer .returned .waiting
  | threw : Agrees buffer .threw .failed
  | next (value : M) {it : Nat} (inside : it ≤ buffer.length) :
      Agrees buffer (.next value it) (.value value (buffer.drop it))

/-- A parser ends as a reader of the rest of the buffer does, and what it does is safe for certain rests only. A rest
on which the reader fails is none of them. -/
structure Follows (Safe : O → Prop) (parser : Parser A O M) (reader : Reader A M) (safe : List A → Prop) : Prop where
  agrees : ∀ {buffer : List A} {it : Nat}, it ≤ buffer.length →
    Agrees buffer (parser buffer it).ending (reader (buffer.drop it))
  safe_iff : ∀ {buffer : List A} {it : Nat}, it ≤ buffer.length →
    ((∀ operation ∈ (parser buffer it).operations, Safe operation) ↔ safe (buffer.drop it))
  fails : ∀ {rest : List A}, reader rest = .failed → ¬ safe rest

section Composition

variable {Safe : O → Prop}

theorem Follows.congr {parser : Parser A O M} {reader : Reader A M} {safe safe' : List A → Prop}
    (follows : Follows Safe parser reader safe) (same : ∀ rest, safe rest ↔ safe' rest) :
    Follows Safe parser reader safe' := by
  obtain rfl : safe = safe' := funext fun rest => propext (same rest)
  exact follows

/-- The parser and its reader end in the same way. -/
theorem Follows.cases {parser : Parser A O M} {reader : Reader A M} {safe : List A → Prop}
    (follows : Follows Safe parser reader safe) {buffer : List A} {it : Nat} (inside : it ≤ buffer.length) :
    ∃ operations, ((∀ operation ∈ operations, Safe operation) ↔ safe (buffer.drop it)) ∧
      (parser buffer it = ⟨operations, .returned⟩ ∧ reader (buffer.drop it) = .waiting ∨
        parser buffer it = ⟨operations, .threw⟩ ∧ reader (buffer.drop it) = .failed ∨
        ∃ value after, after ≤ buffer.length ∧ parser buffer it = ⟨operations, .next value after⟩ ∧
          reader (buffer.drop it) = .value value (buffer.drop after)) := by
  refine ⟨_, follows.safe_iff inside, ?_⟩
  have agrees := follows.agrees inside
  obtain ⟨operations, ending, recorded⟩ : ∃ operations ending, parser buffer it = ⟨operations, ending⟩ :=
    ⟨_, _, rfl⟩
  rw [recorded] at agrees ⊢
  generalize reader (buffer.drop it) = reading at agrees
  cases agrees with
  | returned => exact .inl ⟨rfl, rfl⟩
  | threw => exact .inr (.inl ⟨rfl, rfl⟩)
  | next value after => exact .inr (.inr ⟨value, _, after, rfl, rfl⟩)

theorem follows_pure (value : M) :
    Follows Safe (Pure.pure value : Parser A O M) (Pure.pure value) fun _ => True where
  agrees inside := .next value inside
  safe_iff _ := by simp [Pure.pure, pure]
  fails failed := by contradiction

theorem follows_returned : Follows Safe (returned : Parser A O M) Reader.wait fun _ => True where
  agrees _ := .returned
  safe_iff _ := by simp [returned]
  fails failed := by contradiction

/-- A sequence is safe for the rests that both parts are safe for. -/
theorem follows_bind {parser : Parser A O M} {reader : Reader A M} {safe : List A → Prop}
    {next : M → Parser A O N} {following : M → Reader A N} {safe' : M → List A → Prop}
    (first : Follows Safe parser reader safe)
    (later : ∀ value, Follows Safe (next value) (following value) (safe' value)) :
    Follows Safe (parser >>= next) (reader >>= following) fun rest =>
      safe rest ∧ ∀ value after, reader rest = .value value after → safe' value after where
  agrees {buffer it} inside := by
    obtain ⟨_, _, ⟨recorded, read⟩ | ⟨recorded, read⟩ | ⟨value, after, inside', recorded, read⟩⟩ :=
      first.cases inside
    · rw [bind_of_returned recorded, Reader.bind_of_waiting read]
      exact .returned
    · rw [bind_of_threw recorded, Reader.bind_of_failed read]
      exact .threw
    · rw [bind_of_next recorded, Reader.bind_of_value read]
      exact (later value).agrees inside'
  safe_iff {buffer it} inside := by
    obtain ⟨_, safe_iff, ⟨recorded, read⟩ | ⟨recorded, read⟩ | ⟨value, after, inside', recorded, read⟩⟩ :=
      first.cases inside
    · rw [bind_of_returned recorded, read]
      simp only [reduceCtorEq, false_implies, implies_true, and_true]
      exact safe_iff
    · rw [bind_of_threw recorded, read]
      simp only [reduceCtorEq, false_implies, implies_true, and_true]
      exact safe_iff
    · rw [bind_of_next recorded, read]
      simp only [List.forall_mem_append, Reading.value.injEq, and_imp, forall_apply_eq_imp_iff, forall_eq']
      exact and_congr safe_iff ((later value).safe_iff inside')
  fails {rest} failed := by
    rintro ⟨here, others⟩
    rcases Reader.bind_failed.mp failed with stops | ⟨value, after, read, stops⟩
    · exact first.fails stops here
    · exact (later value).fails stops (others value after read)

/-- A final pure map is as safe as what it maps. -/
theorem follows_map {parser : Parser A O M} {reader : Reader A M} {safe : List A → Prop}
    (first : Follows Safe parser reader safe) (f : M → N) :
    Follows Safe (do let value ← parser; return f value) (do let value ← reader; return f value) safe :=
  (follows_bind first fun value => follows_pure (f value)).congr fun _ => by simp

theorem follows_ite {parser parser' : Parser A O M} {reader reader' : Reader A M} {safe safe' : List A → Prop}
    (condition : Prop) [Decidable condition] (first : Follows Safe parser reader safe)
    (second : Follows Safe parser' reader' safe') :
    Follows Safe (if condition then parser else parser') (if condition then reader else reader')
      (if condition then safe else safe') := by
  split
  · exact first
  · exact second

/-- A parser that first tests what is left follows a reader that requires as much. -/
theorem follows_returnIf {short : Int → Prop} [DecidablePred short] {count : Nat} {parser : Parser A O M}
    {reader : Reader A M} {safe : List A → Prop} (same : ∀ length : Nat, short length ↔ length < count)
    (follows : Follows Safe parser reader safe) :
    Follows Safe (returnIf short >>= fun _ => parser) (reader.require count)
      fun rest => count ≤ rest.length → safe rest := by
  have tested (buffer : List A) (it : Nat) : (returnIf short >>= fun _ => parser) buffer it =
      if short (buffer.length - it) then ⟨[], .returned⟩ else parser buffer it := by
    split
    · rename_i few
      exact bind_of_returned (returnIf_short few)
    · rename_i enough
      exact bind_of_next (returnIf_enough enough)
  have left {buffer : List A} {it : Nat} (inside : it ≤ buffer.length) :
      short (buffer.length - it) ↔ (buffer.drop it).length < count := by
    rw [List.length_drop, ← same, Nat.cast_sub inside]
  constructor
  · intro buffer it inside
    rw [tested, Reader.require]
    by_cases few : (buffer.drop it).length < count
    · rw [if_pos few, if_pos ((left inside).mpr few)]
      exact .returned
    · rw [if_neg few, if_neg (mt (left inside).mp few)]
      exact follows.agrees inside
  · intro buffer it inside
    rw [tested]
    by_cases few : (buffer.drop it).length < count
    · rw [if_pos ((left inside).mpr few)]
      simp only [List.not_mem_nil, false_implies, implies_true, true_iff]
      omega
    · rw [if_neg (mt (left inside).mp few), follows.safe_iff inside]
      simp only [Nat.le_of_not_lt few, true_implies]
  · intro rest failed safe
    unfold Reader.require at failed
    split at failed
    · contradiction
    · exact follows.fails failed (safe (by omega))

/-- The rests on which a number of repetitions is safe. -/
def SafeTimes (reader : Reader A M) (safe : List A → Prop) : Nat → List A → Prop
  | 0, _ => True
  | count + 1, rest =>
      safe rest ∧ ∀ value after, reader rest = .value value after → SafeTimes reader safe count after

theorem follows_times {parser : Parser A O M} {reader : Reader A M} {safe : List A → Prop}
    (one : Follows Safe parser reader safe) (count : Nat) :
    Follows Safe (parser.times count) (reader.times count) (SafeTimes reader safe count) := by
  induction count with
  | zero => exact follows_pure []
  | succ count ih => exact follows_bind one fun head => follows_map ih (head :: ·)

/-- A repetition is unsafe when one of its readings is, after fewer values. -/
theorem unsafeTimes_iff {reader : Reader A M} {safe : List A → Prop} {encode : M → List A} {decoded : M → M}
    {valid validRead : M → Prop} (precise : Reader.Exact reader encode validRead)
    (covers : ∀ value, validRead value → valid value)
    (reads : ∀ value, valid value → Reader.Reads reader (encode value) (decoded value)) {count : Nat}
    {rest : List A} :
    ¬ SafeTimes reader safe count rest ↔ ∃ (values : List M) (after : List A),
      rest = values.flatMap encode ++ after ∧ values.length < count ∧ (∀ value ∈ values, valid value) ∧
        ¬ safe after := by
  induction count generalizing rest with
  | zero => simp [SafeTimes]
  | succ count ih =>
      rw [SafeTimes, not_and_or]
      constructor
      · rintro (here | later)
        · exact ⟨[], rest, rfl, Nat.succ_pos count, List.forall_mem_nil _, here⟩
        · simp only [not_forall] at later
          obtain ⟨value, after, read, breaks⟩ := later
          obtain ⟨values, last, rfl, few, others, string⟩ := ih.mp breaks
          obtain ⟨rfl, first⟩ := precise read
          exact ⟨value :: values, last, by simp, by simpa using few,
            List.forall_mem_cons.mpr ⟨covers value first, others⟩, string⟩
      · rintro ⟨values, after, rfl, few, each, breaks⟩
        cases values with
        | nil => exact .inl breaks
        | cons value values =>
            obtain ⟨first, others⟩ := List.forall_mem_cons.mp each
            right
            intro safe
            have read := (reads value first).whole (values.flatMap encode ++ after)
            rw [← List.append_assoc, ← List.flatMap_cons] at read
            exact ih.mpr ⟨values, after, rfl, by simpa using few, others, breaks⟩ (safe _ _ read)

end Composition

/-- The messages that a loop delivers, what it leaves and does, and how it ends unless its fuel does. -/
structure Looped (A O M : Type) where
  delivered : List M
  buffer : List A
  operations : List O
  throws : Option Bool

/-- The loop takes each message from the start of the buffer until its parser returns or throws. -/
def loopFor (parser : Parser A O M) : Nat → List A → Looped A O M
  | 0, buffer => ⟨[], buffer, [], none⟩
  | fuel + 1, buffer =>
      match parser buffer 0 with
      | ⟨operations, .returned⟩ => ⟨[], buffer, operations, some false⟩
      | ⟨operations, .threw⟩ => ⟨[], buffer, operations, some true⟩
      | ⟨operations, .next message it⟩ =>
          let later := loopFor parser fuel (buffer.drop it)
          ⟨message :: later.delivered, later.buffer, operations ++ later.operations, later.throws⟩

/-- What is left of a buffer after some messages. -/
inductive Remains (reader : Reader A M) : List A → List A → Prop
  | all (buffer : List A) : Remains reader buffer buffer
  | after {buffer middle rest : List A} {message : M} (read : reader buffer = .value message middle)
      (later : Remains reader middle rest) : Remains reader buffer rest

/-- Complete messages come before what remains. -/
theorem remains_iff {reader : Reader A M} {encode : M → List A} {decoded : M → M} {valid validRead : M → Prop}
    (precise : Reader.Exact reader encode validRead) (covers : ∀ message, validRead message → valid message)
    (reads : ∀ message, valid message → Reader.Reads reader (encode message) (decoded message))
    {buffer rest : List A} :
    Remains reader buffer rest ↔
      ∃ messages : List M, buffer = messages.flatMap encode ++ rest ∧ ∀ message ∈ messages, valid message := by
  constructor
  · intro remains
    induction remains with
    | all => exact ⟨[], rfl, List.forall_mem_nil _⟩
    | after read _ ih =>
        obtain ⟨messages, rfl, others⟩ := ih
        obtain ⟨rfl, first⟩ := precise read
        exact ⟨_ :: messages, by simp, List.forall_mem_cons.mpr ⟨covers _ first, others⟩⟩
  · rintro ⟨messages, rfl, each⟩
    induction messages with
    | nil => exact .all rest
    | cons message messages ih =>
        obtain ⟨first, others⟩ := List.forall_mem_cons.mp each
        rw [List.flatMap_cons, List.append_assoc]
        exact .after ((reads message first).whole _) (ih others)

/-- A rest is the whole buffer, or it remains behind the first message. -/
theorem forall_remains {reader : Reader A M} {safe : List A → Prop} {buffer : List A} :
    (∀ rest, Remains reader buffer rest → safe rest) ↔ safe buffer ∧
      ∀ message middle, reader buffer = .value message middle → ∀ rest, Remains reader middle rest → safe rest := by
  constructor
  · intro all
    exact ⟨all buffer (.all buffer), fun message middle read rest later => all rest (.after read later)⟩
  · rintro ⟨here, later⟩ rest remains
    cases remains with
    | all => exact here
    | after read remains => exact later _ _ read rest remains

/-- A loop with enough fuel ends as the loop of the reader does, and what it does is safe when every rest that it comes
to is. -/
theorem Follows.loopFor {Safe : O → Prop} {parser : Parser A O M} {reader : Reader A M} {safe : List A → Prop}
    (follows : Follows Safe parser reader safe) (shortens : Reader.Shortens reader) {fuel : Nat} {buffer : List A}
    (enough : buffer.length < fuel) :
    (⟨(parser.loopFor fuel buffer).delivered, (parser.loopFor fuel buffer).buffer,
        (parser.loopFor fuel buffer).throws.getD false⟩ : Reader.Drained A M) = Reader.drain reader buffer ∧
      (parser.loopFor fuel buffer).throws.isSome ∧
      ((∀ operation ∈ (parser.loopFor fuel buffer).operations, Safe operation) ↔
        ∀ rest, Remains reader buffer rest → safe rest) := by
  induction fuel generalizing buffer with
  | zero => omega
  | succ fuel ih =>
      obtain ⟨operations, safe_iff, ends⟩ := follows.cases (Nat.zero_le buffer.length)
      rw [List.drop_zero] at safe_iff ends
      rw [forall_remains]
      rcases ends with ⟨recorded, read⟩ | ⟨recorded, read⟩ | ⟨message, it, inside, recorded, read⟩
      · rw [Parser.loopFor, recorded, Reader.drain_waiting read, read]
        exact ⟨rfl, rfl, by simpa using safe_iff⟩
      · rw [Parser.loopFor, recorded, Reader.drain, Reader.drainFor, read]
        exact ⟨rfl, rfl, by simpa using safe_iff⟩
      · have shorter := shortens read
        obtain ⟨drained, ends, safe⟩ := ih (shorter.trans_le (Nat.le_of_lt_succ enough))
        rw [Parser.loopFor, recorded, Reader.drain_value shortens read, ← drained, read]
        refine ⟨rfl, ends, ?_⟩
        simp only [List.forall_mem_append, Reading.value.injEq, and_imp, forall_apply_eq_imp_iff, forall_eq']
        exact and_congr safe_iff safe

/-- A loop that comes to safe rests only does not throw. -/
theorem Follows.loopFor_completes {Safe : O → Prop} {parser : Parser A O M} {reader : Reader A M}
    {safe : List A → Prop} (follows : Follows Safe parser reader safe) (shortens : Reader.Shortens reader)
    {fuel : Nat} {buffer : List A} (enough : buffer.length < fuel)
    (safely : ∀ rest, Remains reader buffer rest → safe rest) :
    (parser.loopFor fuel buffer).throws = some false := by
  induction fuel generalizing buffer with
  | zero => omega
  | succ fuel ih =>
      obtain ⟨here, later⟩ := forall_remains.mp safely
      obtain ⟨operations, _, ends⟩ := follows.cases (Nat.zero_le buffer.length)
      rw [List.drop_zero] at ends
      rcases ends with ⟨recorded, _⟩ | ⟨_, read⟩ | ⟨message, it, _, recorded, read⟩
      · rw [Parser.loopFor, recorded]
      · exact absurd here (follows.fails read)
      · rw [Parser.loopFor, recorded]
        exact ih ((shortens read).trans_le (Nat.le_of_lt_succ enough)) (later _ _ read)

end Parser
end StreamReader
