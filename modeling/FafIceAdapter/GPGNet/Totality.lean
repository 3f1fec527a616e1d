import FafIceAdapter.GPGNet.Blocked
import FafIceAdapter.Library.Positions

namespace Faf
open Json StreamReader

/-- What `parse` does that can go wrong. A resize is recorded with the bytes that are left, and a position with the
size of the buffer. -/
inductive ParseOperation where
  | string (length : Int)
  | resize (chunkCount remaining : Int)
  | position (it size : Nat)

/-- A chunk takes at least five bytes. -/
def ParseOperation.Safe : ParseOperation → Prop
  | string length => 0 ≤ length
  | resize chunkCount remaining => 0 ≤ chunkCount ∧ 5 * chunkCount ≤ remaining
  | position it size => it ≤ size

namespace GPGNetMessage

/-- A parser of a part of a message. -/
abbrev MessageParser (M : Type) := Parser UInt8 ParseOperation M

/-- The parser copies some bytes and moves behind them. -/
def parseWord (count : Nat) : MessageParser Bytes := do
  Parser.returnIf (· < count)
  let word ← Parser.peek count
  Parser.advance .position count
  return word

def parseInt32 : MessageParser Int := do
  let word ← parseWord 4
  return LittleEndian.readSigned word

/-- The constructor of a string throws for the size that a negative length becomes. -/
def parseString (length : Int) : MessageParser Bytes := do
  Parser.returnIf (· < length)
  Parser.perform (fun _ => .string length) (length < 0)
  let content ← Parser.peek length.toNat
  Parser.advance .position length.toNat
  return content

def parseChunk : MessageParser Value := do
  let type ← parseWord 1
  let length ← parseInt32
  if type = [0] then return .intValue length
  else if type ≠ [1] then Parser.returned
  else do
    let content ← parseString length
    return .stringValue content

/-- The parser does not test again for the length of the header. -/
def parseFrame : MessageParser GPGNetMessage := do
  Parser.returnIf (· ≤ 4)
  let word ← Parser.peek 4
  Parser.advance .position 4
  let header ← parseString (LittleEndian.readSigned word)
  let chunkCount ← parseInt32
  Parser.perform (.resize chunkCount) (chunkCount < 0)
  let chunks ← Parser.times parseChunk chunkCount.toNat
  return ⟨header, chunks⟩

/-- The loop of `parse` with the positions of its iterator. -/
def parseFor (fuel : Nat) (msgBuffer : Bytes) : Parser.Looped UInt8 ParseOperation GPGNetMessage :=
  Parser.loopFor parseFrame fuel msgBuffer

/-- The parser ends without an exception and does nothing that is unsafe. -/
def Total (msgBuffer : Bytes) : Prop :=
  ∀ fuel, msgBuffer.length < fuel → (parseFor fuel msgBuffer).throws = some false ∧
    ∀ operation ∈ (parseFor fuel msgBuffer).operations, operation.Safe

/-- A header of a negative length, a count that is negative or larger than the bytes behind it allow, or a string chunk
of a negative length among the chunks that are counted. -/
inductive Overruns : Bytes → Prop
  | header {headerLength : Int} {rest : Bytes} (fits : FitsInt32 headerLength) (negative : headerLength < 0)
      (more : rest ≠ []) : Overruns (int32Bytes headerLength ++ rest)
  | count {header rest : Bytes} {chunkCount : Int} (headerFits : header.length < 2 ^ 31)
      (fits : FitsInt32 chunkCount) (outside : chunkCount < 0 ∨ (rest.length : Int) < 5 * chunkCount) :
      Overruns (int32Bytes header.length ++ header ++ int32Bytes chunkCount ++ rest)
  | chunk {header rest : Bytes} {chunkCount length : Int} {chunks : List Value} (headerFits : header.length < 2 ^ 31)
      (countFits : FitsInt32 chunkCount) (few : (chunks.length : Int) < chunkCount)
      (valid : ∀ chunk ∈ chunks, chunk.isSupported ∧ chunk.Fits) (fits : FitsInt32 length) (negative : length < 0) :
      Overruns (int32Bytes header.length ++ header ++ int32Bytes chunkCount ++
        (chunks.flatMap encodeChunk ++ 1 :: (int32Bytes length ++ rest)))

/-- Such a frame follows complete messages. -/
def Malformed (msgBuffer : Bytes) : Prop :=
  ∃ (messages : List GPGNetMessage) (buffer : Bytes), msgBuffer = messages.flatMap encode ++ buffer ∧
    (∀ message ∈ messages, message.Encodable) ∧ Overruns buffer

section Following

variable {length : Int}

theorem parseWord_eq (count : Nat) (msgBuffer : Bytes) (it : Nat) : parseWord count msgBuffer it =
    if (msgBuffer.length : Int) - it < count then ⟨[], .returned⟩
    else ⟨[.position (it + count) msgBuffer.length],
      .next ((msgBuffer.drop it).take count) (it + count)⟩ := by
  split
  · rename_i short
    exact Parser.bind_of_returned (Parser.returnIf_short short)
  · rename_i enough
    exact Parser.bind_of_next (Parser.returnIf_enough enough)

theorem follows_word (count : Nat) :
    Parser.Follows ParseOperation.Safe (parseWord count) (Reader.take count) fun _ => True := by
  constructor
  · intro msgBuffer it inside
    rw [parseWord_eq, Reader.take, List.length_drop]
    split
    · rw [if_pos (by omega)]
      exact .returned
    · rw [if_neg (by omega), List.drop_drop]
      exact .next _ (by omega)
  · intro msgBuffer it inside
    rw [parseWord_eq]
    split
    · simp
    · simp only [List.forall_mem_singleton, ParseOperation.Safe, iff_true]
      omega
  · intro rest failed
    unfold Reader.take at failed
    split at failed <;> contradiction

theorem follows_int32 : Parser.Follows ParseOperation.Safe parseInt32 readInt32 fun _ => True :=
  Parser.follows_map (follows_word 4) _

theorem parseString_eq (length : Int) (msgBuffer : Bytes) (it : Nat) : parseString length msgBuffer it =
    if (msgBuffer.length : Int) - it < length then ⟨[], .returned⟩
    else if length < 0 then ⟨[.string length], .threw⟩
    else ⟨[.string length, .position (it + length.toNat) msgBuffer.length],
      .next ((msgBuffer.drop it).take length.toNat) (it + length.toNat)⟩ := by
  split
  · rename_i short
    exact Parser.bind_of_returned (Parser.returnIf_short short)
  · rename_i enough
    refine (Parser.bind_of_next (Parser.returnIf_enough enough)).trans ?_
    split
    · rename_i negative
      rw [Parser.bind_of_threw (Parser.perform_throws negative)]
      rfl
    · rename_i nonneg
      rw [Parser.bind_of_next (Parser.perform_passes nonneg)]
      rfl

/-- A string that is not there yet has no negative length. -/
theorem follows_string (length : Int) :
    Parser.Follows ParseOperation.Safe (parseString length) (readString length) fun _ => 0 ≤ length := by
  constructor
  · intro msgBuffer it inside
    have left : (msgBuffer.drop it).length = msgBuffer.length - it := List.length_drop
    rw [parseString_eq, readString]
    by_cases short : (msgBuffer.length : Int) - it < length
    · rw [if_pos short, if_pos (by omega)]
      exact .returned
    · have enough : ¬ ((msgBuffer.drop it).length : Int) < length := by omega
      rw [if_neg short, if_neg enough]
      split
      · exact .threw
      · rw [Reader.take, if_neg (by omega), List.drop_drop]
        exact .next _ (by omega)
  · intro msgBuffer it inside
    rw [parseString_eq]
    split
    · simp only [List.not_mem_nil, false_implies, implies_true, true_iff]
      omega
    · split
      · simp only [List.forall_mem_singleton, ParseOperation.Safe]
      · simp only [List.forall_mem_cons, List.not_mem_nil, false_implies, implies_true, and_true,
          ParseOperation.Safe]
        omega
  · intro rest failed
    unfold readString at failed
    split at failed
    · contradiction
    · split at failed
      · omega
      · unfold Reader.take at failed
        split at failed <;> contradiction

/-- The part of the reader that stands for the resizing of the chunks. -/
def readCount (chunkCount : Int) : Reader UInt8 Unit := if chunkCount < 0 then Reader.fail else pure ()

theorem follows_resize (chunkCount : Int) :
    Parser.Follows ParseOperation.Safe (Parser.perform (.resize chunkCount) (chunkCount < 0)) (readCount chunkCount)
      fun rest => 0 ≤ chunkCount ∧ 5 * chunkCount ≤ rest.length := by
  constructor
  · intro msgBuffer it inside
    unfold Parser.perform readCount
    by_cases negative : chunkCount < 0
    · rw [if_pos negative, if_pos negative]
      exact .threw
    · rw [if_neg negative, if_neg negative]
      exact .next () inside
  · intro msgBuffer it inside
    rw [Parser.perform, List.forall_mem_singleton, ParseOperation.Safe, List.length_drop, Nat.cast_sub inside]
  · rintro rest failed ⟨nonneg, _⟩
    unfold readCount at failed
    rw [if_neg (by omega)] at failed
    contradiction

/-- A chunk is safe when it is no string of a negative length. -/
def SafeChunk (rest : Bytes) : Prop :=
  ∀ type after, Reader.take 1 rest = .value type after → ∀ length last, readInt32 after = .value length last →
    type = [1] → 0 ≤ length

theorem follows_chunk : Parser.Follows ParseOperation.Safe parseChunk readChunk SafeChunk := by
  have composed : Parser.Follows ParseOperation.Safe parseChunk readChunk _ :=
    Parser.follows_bind (follows_word 1) fun type => Parser.follows_bind follows_int32 fun length =>
      Parser.follows_ite (type = [0]) (Parser.follows_pure (Value.intValue length))
        (Parser.follows_ite (type ≠ [1]) Parser.follows_returned
          (Parser.follows_map (follows_string length) Value.stringValue))
  apply composed.congr
  intro rest
  simp only [true_and, SafeChunk]
  apply forall_congr'
  intro type
  apply forall_congr'
  intro after
  apply forall_congr'
  intro read
  apply forall_congr'
  intro length
  apply forall_congr'
  intro last
  apply forall_congr'
  intro read'
  by_cases integer : type = [0]
  · simp [integer]
  · by_cases string : type = [1] <;> simp [integer, string]

theorem follows_chunks (header : Bytes) (chunkCount : Int) :
    Parser.Follows ParseOperation.Safe (do
      Parser.perform (.resize chunkCount) (chunkCount < 0)
      let chunks ← Parser.times parseChunk chunkCount.toNat
      return ⟨header, chunks⟩) (readChunks header chunkCount) fun rest =>
        0 ≤ chunkCount ∧ 5 * chunkCount ≤ rest.length ∧ Parser.SafeTimes readChunk SafeChunk chunkCount.toNat rest := by
  have counted : readChunks header chunkCount = (do
      readCount chunkCount
      let chunks ← Reader.times readChunk chunkCount.toNat
      return ⟨header, chunks⟩) := by
    unfold readChunks readCount
    split <;> rfl
  rw [counted]
  apply (Parser.follows_bind (follows_resize chunkCount) fun _ =>
    Parser.follows_map (Parser.follows_times follows_chunk chunkCount.toNat) (GPGNetMessage.mk header)).congr
  intro rest
  rw [and_assoc]
  apply and_congr_right
  intro nonneg
  have passes : readCount chunkCount rest = .value () rest := by
    rw [readCount, if_neg (by omega)]
    rfl
  simp [passes]

/-- A frame is safe when its header, its count and its chunks are. -/
def SafeFrame (rest : Bytes) : Prop :=
  5 ≤ rest.length → ∀ headerLength afterLength, readInt32 rest = .value headerLength afterLength →
    0 ≤ headerLength ∧ ∀ header afterHeader, readString headerLength afterLength = .value header afterHeader →
      ∀ chunkCount afterCount, readInt32 afterHeader = .value chunkCount afterCount →
        0 ≤ chunkCount ∧ 5 * chunkCount ≤ afterCount.length ∧
          Parser.SafeTimes readChunk SafeChunk chunkCount.toNat afterCount

/-- A second test for the length of the header changes nothing. -/
theorem parseFrame_eq : parseFrame = (do
    Parser.returnIf (· ≤ 4)
    let headerLength ← parseInt32
    let header ← parseString headerLength
    let chunkCount ← parseInt32
    Parser.perform (.resize chunkCount) (chunkCount < 0)
    let chunks ← Parser.times parseChunk chunkCount.toNat
    return ⟨header, chunks⟩) := by
  funext msgBuffer it
  by_cases few : (msgBuffer.length : Int) - it ≤ 4
  · have stops : Parser.returnIf (· ≤ 4) msgBuffer it = (⟨[], .returned⟩ : Recorded ParseOperation Unit) :=
      Parser.returnIf_short few
    exact (Parser.bind_of_returned stops).trans (Parser.bind_of_returned stops).symm
  · have passes : Parser.returnIf (· ≤ 4) msgBuffer it = (⟨[], .next () it⟩ : Recorded ParseOperation Unit) :=
      Parser.returnIf_enough few
    have word : parseWord 4 msgBuffer it = _ := (parseWord_eq 4 msgBuffer it).trans (if_neg (by omega))
    have read : parseInt32 msgBuffer it = _ := Parser.bind_of_next word
    refine (Parser.bind_of_next passes).trans ((Parser.bind_of_next passes).trans ?_).symm
    rw [Parser.bind_of_next read]
    rfl

theorem follows_frame : Parser.Follows ParseOperation.Safe parseFrame readMessage SafeFrame := by
  rw [parseFrame_eq]
  have tested (length : Nat) : (length : Int) ≤ 4 ↔ length < 5 := by omega
  have composed : Parser.Follows ParseOperation.Safe _ readMessage _ :=
    @Parser.follows_returnIf _ _ _ _ (· ≤ 4) _ 5 _ _ _ tested
      (Parser.follows_bind follows_int32 fun headerLength =>
        Parser.follows_bind (follows_string headerLength) fun header =>
          Parser.follows_bind follows_int32 (follows_chunks header))
  apply composed.congr
  intro rest
  simp only [true_and, SafeFrame]

/-- The loop with positions is the loop of the reader. -/
theorem parseFor_eq_parse {fuel : Nat} {msgBuffer : Bytes} (enough : msgBuffer.length < fuel) :
    (⟨(parseFor fuel msgBuffer).delivered, (parseFor fuel msgBuffer).buffer,
      (parseFor fuel msgBuffer).throws.getD false⟩ : Reader.Drained UInt8 GPGNetMessage) = parse msgBuffer :=
  (follows_frame.loopFor readMessage_shortens enough).1

end Following

/-- A chunk that is not safe is a string of a negative length. -/
theorem not_safeChunk_iff {rest : Bytes} : ¬ SafeChunk rest ↔
    ∃ length last, rest = 1 :: (int32Bytes length ++ last) ∧ FitsInt32 length ∧ length < 0 := by
  constructor
  · intro breaks
    simp only [SafeChunk, not_forall, not_le] at breaks
    obtain ⟨type, after, typeRead, length, last, lengthRead, rfl, negative⟩ := breaks
    obtain ⟨rfl, _⟩ := Reader.take_value.mp typeRead
    obtain ⟨rfl, fits⟩ := readInt32_exact lengthRead
    exact ⟨length, last, rfl, fits, negative⟩
  · rintro ⟨length, last, rfl, fits, negative⟩ safe
    have nonneg := safe [1] _ (Reader.take_value.mpr ⟨rfl, rfl⟩) length last ((reads_int32 fits).whole last) rfl
    omega

theorem unsafeChunks_iff (chunkCount : Nat) (rest : Bytes) :
    ¬ Parser.SafeTimes readChunk SafeChunk chunkCount rest ↔ ∃ (chunks : List Value) (after : Bytes),
      rest = chunks.flatMap encodeChunk ++ after ∧ chunks.length < chunkCount ∧
        (∀ chunk ∈ chunks, chunk.isSupported ∧ chunk.Fits) ∧ ¬ SafeChunk after :=
  Parser.unsafeTimes_iff readChunk_exact (fun _ valid => ⟨valid.1, valid.2.1⟩)
    fun _ valid => reads_chunk valid.1 valid.2

/-- What a safe frame says about its count and its chunks. -/
theorem safeFrame_chunks {header rest : Bytes} {chunkCount : Int}
    (safe : SafeFrame (int32Bytes header.length ++ header ++ int32Bytes chunkCount ++ rest))
    (headerFits : header.length < 2 ^ 31) (countFits : FitsInt32 chunkCount) :
    0 ≤ chunkCount ∧ 5 * chunkCount ≤ rest.length ∧
      Parser.SafeTimes readChunk SafeChunk chunkCount.toNat rest := by
  rw [List.append_assoc, List.append_assoc] at safe
  have long : 5 ≤ (int32Bytes header.length ++ (header ++ (int32Bytes chunkCount ++ rest))).length := by
    simp only [List.length_append, int32Bytes_length]
    omega
  obtain ⟨_, later⟩ := safe long _ _ ((reads_int32 (fitsInt32_length headerFits)).whole _)
  exact later _ _ ((reads_string header).whole _) _ _ ((reads_int32 countFits).whole rest)

/-- A frame that is not safe overruns its buffer. -/
theorem not_safeFrame_iff {rest : Bytes} : ¬ SafeFrame rest ↔ Overruns rest := by
  constructor
  · intro breaks
    simp only [SafeFrame, not_forall] at breaks
    obtain ⟨long, headerLength, afterLength, lengthRead, breaks⟩ := breaks
    obtain ⟨rfl, fits⟩ := readInt32_exact lengthRead
    rw [List.length_append, int32Bytes_length] at long
    rcases not_and_or.mp breaks with negative | inner
    · apply Overruns.header fits (by omega)
      intro empty
      rw [empty] at long
      simp at long
    · simp only [not_forall] at inner
      obtain ⟨header, afterHeader, headerRead, chunkCount, afterCount, countRead, body⟩ := inner
      obtain ⟨rfl, rfl⟩ := readString_exact headerRead
      obtain ⟨rfl, countFits⟩ := readInt32_exact countRead
      have headerFits : header.length < 2 ^ 31 := by exact_mod_cast fits.2
      rw [← List.append_assoc, ← List.append_assoc]
      by_cases outside : chunkCount < 0 ∨ (afterCount.length : Int) < 5 * chunkCount
      · exact .count headerFits countFits outside
      · obtain ⟨nonneg, inside⟩ := not_or.mp outside
        have chunks : ¬ Parser.SafeTimes readChunk SafeChunk chunkCount.toNat afterCount :=
          fun safe => body ⟨by omega, by omega, safe⟩
        obtain ⟨chunks, after, rfl, few, valid, string⟩ := (unsafeChunks_iff _ _).mp chunks
        obtain ⟨length, last, rfl, lengthFits, negative⟩ := not_safeChunk_iff.mp string
        exact .chunk headerFits countFits (by omega) valid lengthFits negative
  · intro overruns safe
    cases overruns with
    | @header headerLength rest fits negative more =>
        have long : 5 ≤ (int32Bytes headerLength ++ rest).length := by
          have some := List.length_pos_iff.mpr more
          rw [List.length_append, int32Bytes_length]
          omega
        have nonneg := (safe long _ _ ((reads_int32 fits).whole rest)).1
        omega
    | @count header rest chunkCount headerFits fits outside =>
        obtain ⟨nonneg, inside, _⟩ := safeFrame_chunks safe headerFits fits
        omega
    | @chunk header rest chunkCount length chunks headerFits countFits few valid fits negative =>
        obtain ⟨_, _, times⟩ := safeFrame_chunks safe headerFits countFits
        refine (unsafeChunks_iff _ _).mpr ⟨chunks, _, rfl, by omega, valid, ?_⟩ times
        exact not_safeChunk_iff.mpr ⟨length, rest, rfl, fits, negative⟩

/-- The parser is total exactly on the bytes in which no complete messages are followed by a frame with a negative
header length, a count outside of what the bytes behind it allow, or a counted string of a negative length. -/
theorem parse_total_iff (msgBuffer : Bytes) : Total msgBuffer ↔ ¬ Malformed msgBuffer := by
  have remains (rest : Bytes) : Parser.Remains readMessage msgBuffer rest ↔
      ∃ messages : List GPGNetMessage, msgBuffer = messages.flatMap encode ++ rest ∧
        ∀ message ∈ messages, message.Encodable :=
    Parser.remains_iff readMessage_exact (fun _ valid => valid.1) (fun _ encodable => reads_message encodable)
  have frames : Malformed msgBuffer ↔ ¬ ∀ rest, Parser.Remains readMessage msgBuffer rest → SafeFrame rest := by
    simp only [not_forall]
    constructor
    · rintro ⟨messages, rest, split, encodable, overruns⟩
      exact ⟨rest, (remains rest).mpr ⟨messages, split, encodable⟩, not_safeFrame_iff.mpr overruns⟩
    · rintro ⟨rest, reached, breaks⟩
      obtain ⟨messages, split, encodable⟩ := (remains rest).mp reached
      exact ⟨messages, rest, split, encodable, not_safeFrame_iff.mp breaks⟩
  rw [frames, not_not]
  constructor
  · intro total
    obtain ⟨_, _, safe_iff⟩ := follows_frame.loopFor readMessage_shortens (Nat.lt_succ_self msgBuffer.length)
    exact safe_iff.mp (total _ (Nat.lt_succ_self _)).2
  · intro safe fuel enough
    obtain ⟨_, _, safe_iff⟩ := follows_frame.loopFor readMessage_shortens enough
    exact ⟨follows_frame.loopFor_completes readMessage_shortens enough safe, safe_iff.mpr safe⟩

/-- A header length of minus one and one more byte. -/
theorem parse_throws : ¬ ∀ msgBuffer, Total msgBuffer := by
  intro claim
  have ends := (claim [0xFF, 0xFF, 0xFF, 0xFF, 0] 6 (by decide)).1
  exact absurd ends (by decide)

end GPGNetMessage
end Faf
