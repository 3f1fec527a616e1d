import FafIceAdapter.GPGNet.Message
import FafIceAdapter.Library.Fallible

namespace Faf
open Json StreamReader

/-- The chunk kinds that the wire format has a type code for. -/
def Json.Value.isSupported : Value → Bool
  | .intValue _ | .uintValue _ | .booleanValue _ | .stringValue _ => true
  | _ => false

/-- A chunk holds no number and no length that an `int32_t` cannot hold. -/
def Json.Value.Fits (chunk : Value) : Prop :=
  (∀ number, chunk.integer = some number → FitsInt32 number) ∧
    ∀ content, chunk = .stringValue content → content.length < 2 ^ 31

/-- The wire has one integer kind. -/
def Json.Value.readBack : Value → Value
  | .uintValue value => .intValue value
  | .booleanValue value => .intValue (if value then 1 else 0)
  | chunk => chunk

namespace GPGNetMessage

/-- The count and every length of a message are below a bound. -/
structure LengthsBelow (bound : Nat) (message : GPGNetMessage) : Prop where
  header : message.header.length < bound
  count : message.chunks.length < bound
  strings : ∀ content, .stringValue content ∈ message.chunks → content.length < bound

/-- The messages that the wire format is made for. -/
structure Encodable (message : GPGNetMessage) : Prop where
  headerFits : message.header.length < 2 ^ 31
  countFits : message.chunks.length < 2 ^ 31
  supported : ∀ chunk ∈ message.chunks, chunk.isSupported
  chunksFit : ∀ chunk ∈ message.chunks, chunk.Fits

def readBack (message : GPGNetMessage) : GPGNetMessage :=
  ⟨message.header, message.chunks.map Value.readBack⟩

/-- The bytes of a chunk, on which every jsoncpp agrees. -/
def encodeChunk (chunk : Value) : Bytes :=
  match chunk with
  | .stringValue content => 1 :: (int32Bytes content.length ++ content)
  | _ =>
      match chunk.integer with
      | some number => 0 :: int32Bytes number
      | none => []

def encode (message : GPGNetMessage) : Bytes :=
  int32Bytes message.header.length ++ message.header ++
    int32Bytes message.chunks.length ++ message.chunks.flatMap encodeChunk

@[simp] theorem int32Bytes_length (value : Int) : (int32Bytes value).length = 4 :=
  LittleEndian.writeSigned_length 4 value

/-- A number that fits keeps its value in four bytes. -/
theorem bmod_fits {value : Int} (fits : FitsInt32 value) : value.bmod (256 ^ 4) = value := by
  have low := fits.1
  have high := fits.2
  exact Int.bmod_eq_of_le (by norm_num at low ⊢; omega) (by norm_num at high ⊢; omega)

/-- A length that needs the top bit of its four bytes is read back negative. -/
theorem bmod_negative {length : Nat} (wide : ¬ length < 2 ^ 31) (below : length < 2 ^ 32) :
    (length : Int).bmod (256 ^ 4) < 0 := by
  have same : (length : Int).bmod (256 ^ 4) = length - 2 ^ 32 := by
    rw [← Int.sub_bmod_right]
    exact Int.bmod_eq_of_le (by norm_num; omega) (by norm_num; omega)
  omega

theorem fitsInt32_length {length : Nat} (small : length < 2 ^ 31) : FitsInt32 length :=
  ⟨by omega, by exact_mod_cast small⟩

/-- Four bytes hold a number of the signed range. -/
theorem fitsInt32_readSigned {word : Bytes} (four : word.length = 4) :
    FitsInt32 (LittleEndian.readSigned word) := by
  have low := @Int.le_bmod (LittleEndian.read word) (256 ^ 4) (by positivity)
  have high := @Int.bmod_lt (LittleEndian.read word) (256 ^ 4) (by positivity)
  rw [LittleEndian.readSigned, four]
  exact ⟨by norm_num at low ⊢; omega, by norm_num at high ⊢; omega⟩

/-- A chunk that is encoded has the agreed bytes, and its number fits. -/
theorem chunkToBinary_ok (jsonCpp : JsonCpp) (chunk : Value) (binary : Bytes) :
    chunkToBinary jsonCpp chunk = .ok binary ↔
      (∀ number, chunk.integer = some number → FitsInt32 number) ∧ binary = encodeChunk chunk := by
  have integral (number : Int) (same : chunk.integer = some number) :
      (do let value ← jsonCpp.asInt chunk; return 0 :: int32Bytes value : Except Exception Bytes) =
          .ok binary ↔
        (∀ other, chunk.integer = some other → FitsInt32 other) ∧ binary = 0 :: int32Bytes number := by
    by_cases fits : FitsInt32 number
    · rw [jsonCpp.asInt_fits chunk number same fits]
      simp [same, fits, bind, Except.bind, pure, Except.pure, eq_comm]
    · obtain ⟨exception, thrown⟩ := jsonCpp.asInt_wide chunk number same fits
      rw [thrown]
      simp [same, fits, bind, Except.bind]
  cases chunk with
  | intValue value => exact integral _ rfl
  | uintValue value => exact integral _ rfl
  | booleanValue value => exact integral _ rfl
  | stringValue content =>
      simp [chunkToBinary, jsonCpp.asString_string, encodeChunk, Value.integer, bind, Except.bind,
        pure, Except.pure, eq_comm]
  | _ => simp [chunkToBinary, encodeChunk, Value.integer, pure, Except.pure, eq_comm]

/-- The numbers of a message fit. -/
def NumbersFit (message : GPGNetMessage) : Prop :=
  ∀ chunk ∈ message.chunks, ∀ number, chunk.integer = some number → FitsInt32 number

/-- A message that is encoded has the agreed bytes, and its numbers fit. -/
theorem toBinary_ok (jsonCpp : JsonCpp) (message : GPGNetMessage) (binary : Bytes) :
    message.toBinary jsonCpp = .ok binary ↔ message.NumbersFit ∧ binary = message.encode := by
  simp only [toBinary, Fallible.bind_ok, Fallible.mapM_ok (chunkToBinary_ok jsonCpp)]
  constructor
  · intro succeeds
    obtain ⟨_, ⟨fits, rfl⟩, same⟩ := succeeds
    exact ⟨fits, (Except.ok.inj same).symm⟩
  · intro valid
    obtain ⟨fits, rfl⟩ := valid
    exact ⟨_, ⟨fits, rfl⟩, rfl⟩

/-- The encoding starts with two words and the header. -/
theorem encode_length (message : GPGNetMessage) : 8 ≤ message.encode.length := by
  simp only [encode, List.length_append, int32Bytes_length]
  omega

/-- The wire keeps an integer up to the wrap-around of its word. -/
theorem reads_narrowed (value : Int) :
    Reader.Reads readInt32 (int32Bytes value) (value.bmod (256 ^ 4)) := by
  have word := Reader.reads_take (int32Bytes value)
  rw [int32Bytes_length] at word
  have read := Reader.reads_map word LittleEndian.readSigned
  rwa [int32Bytes, LittleEndian.readSigned_writeSigned] at read

theorem reads_int32 {value : Int} (fits : FitsInt32 value) :
    Reader.Reads readInt32 (int32Bytes value) value := by
  have read := reads_narrowed value
  rwa [bmod_fits fits] at read

theorem reads_string (content : Bytes) : Reader.Reads (readString content.length) content content := by
  have taken := Reader.reads_take content
  constructor
  · intro rest
    have enough : ¬ ((content ++ rest).length : Int) < content.length := by simp
    have nonneg : ¬ (content.length : Int) < 0 := by omega
    rw [readString, if_neg enough, if_neg nonneg, Int.toNat_natCast]
    exact taken.whole rest
  · intro part within different
    have shorter : (part.length : Int) < content.length := by
      have bound := within.length_le
      have other : part.length ≠ content.length := fun same => different (within.eq_of_length same)
      omega
    rw [readString, if_pos shorter]

/-- The chunk reader recognises each supported chunk. -/
theorem reads_chunk {chunk : Value} (supported : chunk.isSupported) (fits : chunk.Fits) :
    Reader.Reads readChunk (encodeChunk chunk) chunk.readBack := by
  have integral (number : Int) (numberFits : FitsInt32 number) :
      Reader.Reads readChunk (0 :: int32Bytes number) (.intValue number) := by
    have payload := Reader.reads_map (reads_int32 numberFits) Value.intValue
    exact Reader.reads_bind _ (Reader.reads_take [0]) payload
  cases chunk with
  | intValue value => exact integral _ (fits.1 _ rfl)
  | uintValue value => exact integral _ (fits.1 _ rfl)
  | booleanValue value => exact integral _ (fits.1 _ rfl)
  | stringValue content =>
      have length := reads_int32 (fitsInt32_length (fits.2 content rfl))
      have body := Reader.reads_map (reads_string content) Value.stringValue
      exact Reader.reads_bind _ (Reader.reads_take [1]) (Reader.reads_bind _ length body)
  | _ => contradiction

/-- The message reader recognises each encodable message. -/
theorem reads_message {message : GPGNetMessage} (encodable : message.Encodable) :
    Reader.Reads readMessage message.encode message.readBack := by
  have headerLength := reads_int32 (fitsInt32_length encodable.headerFits)
  have chunkCount := reads_int32 (fitsInt32_length encodable.countFits)
  have chunks := Reader.reads_times encodeChunk Value.readBack message.chunks fun chunk member =>
    reads_chunk (encodable.supported chunk member) (encodable.chunksFit chunk member)
  have nonneg : ¬ (message.chunks.length : Int) < 0 := by omega
  have long := encode_length message
  rw [encode, List.append_assoc, List.append_assoc] at long ⊢
  refine Reader.reads_require (Reader.reads_bind _ headerLength ?_) (by omega)
  refine Reader.reads_bind _ (reads_string message.header) (Reader.reads_bind _ chunkCount ?_)
  rw [if_neg nonneg, Int.toNat_natCast]
  exact Reader.reads_map chunks fun chunks => (⟨message.header, chunks⟩ : GPGNetMessage)

/-- A length that needs the top bit of its four bytes throws. -/
theorem readString_wide {length : Nat} (wide : ¬ length < 2 ^ 31) (below : length < 2 ^ 32) (buffer : Bytes) :
    readString ((length : Int).bmod (256 ^ 4)) buffer = .failed := by
  have negative := bmod_negative wide below
  rw [readString, if_neg (by omega), if_pos negative]

/-- A string of fewer than `2 ^ 32` bytes is read, or its negative length throws. -/
theorem settles_string {content : Bytes} (below : content.length < 2 ^ 32) :
    Reader.Settles (readString ((content.length : Int).bmod (256 ^ 4))) content := by
  by_cases small : content.length < 2 ^ 31
  · rw [bmod_fits (fitsInt32_length small)]
    exact (reads_string content).settles
  · exact fun rest => .inl (readString_wide small below _)

theorem settles_chunk {chunk : Value} (supported : chunk.isSupported)
    (numberFits : ∀ number, chunk.integer = some number → FitsInt32 number)
    (below : ∀ content, chunk = .stringValue content → content.length < 2 ^ 32) :
    Reader.Settles readChunk (encodeChunk chunk) := by
  cases chunk with
  | stringValue content =>
      have read := reads_narrowed content.length
      have body := settles_string (below content rfl)
      generalize (content.length : Int).bmod (256 ^ 4) = length at read body
      exact (Reader.reads_take [1]).settles_bind (read.settles_bind (body.map Value.stringValue))
  | _ => exact (reads_chunk supported ⟨numberFits, by simp⟩).settles

/-- The reader decides on every message whose lengths four bytes can hold. -/
theorem settles_message {message : GPGNetMessage} (numbersFit : message.NumbersFit)
    (supported : ∀ chunk ∈ message.chunks, chunk.isSupported) (below : message.LengthsBelow (2 ^ 32)) :
    Reader.Settles readMessage message.encode := by
  have chunks := Reader.settles_times encodeChunk message.chunks fun chunk member =>
    settles_chunk (supported chunk member) (numbersFit chunk member)
      fun content same => below.strings content (same ▸ member)
  have long := encode_length message
  rw [encode, List.append_assoc, List.append_assoc] at long ⊢
  refine Reader.Settles.require ((reads_narrowed _).settles_bind ?_) (by omega)
  refine (settles_string below.header).bind fun header => (reads_narrowed _).settles_bind ?_
  by_cases small : message.chunks.length < 2 ^ 31
  · rw [bmod_fits (fitsInt32_length small), if_neg (by omega), Int.toNat_natCast]
    exact chunks.map fun chunks => (⟨header, chunks⟩ : GPGNetMessage)
  · rw [if_pos (bmod_negative small below.count)]
    exact fun rest => .inl rfl

theorem readInt32_exact : Reader.Exact readInt32 int32Bytes FitsInt32 := by
  intro buffer rest value read
  obtain ⟨word, after, taken, last⟩ := Reader.bind_value.mp read
  obtain ⟨rfl, rfl⟩ := Reading.value.inj last
  obtain ⟨rfl, four⟩ := Reader.take_value.mp taken
  have written := LittleEndian.writeSigned_readSigned word
  rw [four] at written
  rw [int32Bytes, written]
  exact ⟨rfl, fitsInt32_readSigned four⟩

theorem readString_exact {length : Int} {buffer rest content : Bytes}
    (read : readString length buffer = .value content rest) :
    buffer = content ++ rest ∧ (content.length : Int) = length := by
  unfold readString at read
  split at read
  · contradiction
  · split at read
    · contradiction
    · obtain ⟨rfl, size⟩ := Reader.take_value.mp read
      exact ⟨rfl, by omega⟩

/-- The chunk reader gives only integers and strings, each from its own bytes. -/
theorem readChunk_exact : Reader.Exact readChunk encodeChunk fun chunk =>
    chunk.isSupported ∧ chunk.Fits ∧ chunk.readBack = chunk := by
  intro buffer rest chunk read
  obtain ⟨type, _, typeRead, afterType⟩ := Reader.bind_value.mp read
  obtain ⟨length, _, lengthRead, afterLength⟩ := Reader.bind_value.mp afterType
  obtain ⟨rfl, _⟩ := Reader.take_value.mp typeRead
  obtain ⟨rfl, fits⟩ := readInt32_exact lengthRead
  split at afterLength
  · rename_i integer
    obtain ⟨rfl, rfl⟩ := Reading.value.inj afterLength
    rw [integer]
    exact ⟨rfl, rfl, ⟨fun number same => Option.some.inj same ▸ fits, by simp⟩, rfl⟩
  · split at afterLength
    · contradiction
    · rename_i _ string
      obtain ⟨content, _, contentRead, last⟩ := Reader.bind_value.mp afterLength
      obtain ⟨rfl, rfl⟩ := Reading.value.inj last
      obtain ⟨rfl, rfl⟩ := readString_exact contentRead
      rw [not_not.mp string]
      refine ⟨by simp [encodeChunk], rfl, ⟨by simp [Value.integer], ?_⟩, rfl⟩
      intro other same
      obtain rfl := Value.stringValue.inj same
      exact_mod_cast fits.2

/-- The message reader gives only messages that it read from their own encoding. -/
theorem readMessage_exact : Reader.Exact readMessage encode fun message =>
    message.Encodable ∧ message.readBack = message := by
  intro buffer rest message read
  obtain ⟨headerLength, _, lengthRead, afterLength⟩ := Reader.bind_value.mp (Reader.require_value read)
  obtain ⟨header, _, headerRead, afterHeader⟩ := Reader.bind_value.mp afterLength
  obtain ⟨chunkCount, _, countRead, afterCount⟩ := Reader.bind_value.mp afterHeader
  obtain ⟨rfl, headerFits⟩ := readInt32_exact lengthRead
  obtain ⟨rfl, rfl⟩ := readString_exact headerRead
  obtain ⟨rfl, countFits⟩ := readInt32_exact countRead
  split at afterCount
  · contradiction
  · obtain ⟨chunks, _, chunksRead, last⟩ := Reader.bind_value.mp afterCount
    obtain ⟨rfl, rfl⟩ := Reading.value.inj last
    obtain ⟨rfl, count, each⟩ := Reader.times_exact readChunk_exact chunksRead
    have counted : (chunks.length : Int) = chunkCount := by omega
    have same : chunks.map Value.readBack = chunks :=
      (List.map_congr_left fun chunk member => (each chunk member).2.2).trans (List.map_id _)
    refine ⟨by simp [encode, counted], ⟨?_, ?_, ?_, ?_⟩, by rw [readBack, same]⟩
    · exact_mod_cast headerFits.2
    · have small := countFits.2
      rw [← counted] at small
      exact_mod_cast small
    · exact fun chunk member => (each chunk member).1
    · exact fun chunk member => (each chunk member).2.1

theorem readMessage_shortens : Reader.Shortens readMessage := by
  intro buffer rest message read
  obtain ⟨rfl, _⟩ := readMessage_exact read
  have long := encode_length message
  simp only [List.length_append]
  omega

end GPGNetMessage
end Faf
