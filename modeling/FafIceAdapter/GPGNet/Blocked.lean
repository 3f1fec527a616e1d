import FafIceAdapter.GPGNet.Connection

namespace Faf
open Json StreamReader

namespace GPGNetMessage

/-- Bytes that start with the type of no chunk. -/
def Unsupported (buffer : Bytes) : Prop := ∃ type rest, buffer = type :: rest ∧ type ≠ 0 ∧ type ≠ 1

/-- A frame lacks chunks, and the next one has an unsupported type. -/
def BlockedFrame (buffer : Bytes) : Prop :=
  ∃ (header : Bytes) (chunkCount : Nat) (chunks : List Value) (rest : Bytes),
    buffer = int32Bytes header.length ++ header ++ int32Bytes chunkCount ++
      (chunks.flatMap encodeChunk ++ rest) ∧
    header.length < 2 ^ 31 ∧ chunkCount < 2 ^ 31 ∧ chunks.length < chunkCount ∧
    (∀ chunk ∈ chunks, chunk.isSupported ∧ chunk.Fits ∧ chunk.readBack = chunk) ∧ Unsupported rest

/-- A frame with an unsupported chunk follows complete messages. -/
def Blocked (stream : Bytes) : Prop :=
  ∃ (messages : List GPGNetMessage) (buffer : Bytes), stream = messages.flatMap encode ++ buffer ∧
    (∀ message ∈ messages, message.Encodable) ∧ BlockedFrame buffer

/-- More bytes can complete the buffer to the encoding of a message. -/
def Awaits (jsonCpp : JsonCpp) (buffer : Bytes) : Prop :=
  buffer = [] ∨ ∃ (message : GPGNetMessage) (binary : Bytes), message.toBinary jsonCpp = .ok binary ∧
    (∀ chunk ∈ message.chunks, chunk.isSupported) ∧ message.LengthsBelow (2 ^ 32) ∧
    buffer <+: binary ∧ buffer ≠ binary

/-- A word that is cut off is completed to a number that is not negative. -/
theorem readInt32_padded {buffer : Bytes} (waits : readInt32 buffer = .waiting) :
    ∃ more value, 0 ≤ value ∧ readInt32 (buffer ++ more) = .value value [] := by
  have short : buffer.length < 4 := by
    rcases Reader.bind_waiting.mp waits with cut | ⟨_, _, _, last⟩
    · rw [Reader.take] at cut
      split at cut
      · assumption
      · contradiction
    · contradiction
  have four : (buffer ++ List.replicate (4 - buffer.length) 0).length = 4 := by
    rw [List.length_append, List.length_replicate]
    omega
  refine ⟨List.replicate (4 - buffer.length) 0,
    LittleEndian.readSigned (buffer ++ List.replicate (4 - buffer.length) 0), ?_, ?_⟩
  · have bound := LittleEndian.read_lt buffer
    have below : 256 ^ buffer.length ≤ 256 ^ 3 := Nat.pow_le_pow_right (by norm_num) (by omega)
    rw [LittleEndian.readSigned, LittleEndian.read_append_zeros, four,
      Int.bmod_eq_of_le (by norm_num) (by norm_num at below ⊢; omega)]
    exact Int.natCast_nonneg _
  · have taken : Reader.take 4 (buffer ++ List.replicate (4 - buffer.length) 0) =
        .value (buffer ++ List.replicate (4 - buffer.length) 0) [] :=
      Reader.take_value.mpr ⟨(List.append_nil _).symm, four⟩
    exact Reader.bind_of_value taken

/-- A string that is cut off can be completed. -/
theorem completable_string {length : Int} {buffer : Bytes} (fits : (buffer.length : Int) ≤ length) :
    Reader.Completable (readString length) buffer := by
  have counted : ((buffer ++ List.replicate (length.toNat - buffer.length) 0).length : Int) = length := by
    rw [List.length_append, List.length_replicate]
    omega
  have read := (reads_string (buffer ++ List.replicate (length.toNat - buffer.length) 0)).whole []
  rw [counted, List.append_nil] at read
  exact ⟨_, _, read⟩

theorem readString_waiting {length : Int} {buffer : Bytes} (waits : readString length buffer = .waiting) :
    (buffer.length : Int) < length := by
  unfold readString at waits
  split at waits
  · assumption
  · split at waits
    · contradiction
    · rw [Reader.take] at waits
      split at waits
      · omega
      · contradiction

theorem completable_chunk : Reader.Completable readChunk [] := by
  have fits : (Value.intValue 0).Fits := ⟨fun number same => Option.some.inj same ▸ by decide, by simp⟩
  exact ⟨_, _, (reads_chunk rfl fits).whole []⟩

/-- A chunk that waits is cut off or has an unsupported type. -/
theorem readChunk_waiting (buffer : Bytes) (waits : readChunk buffer = .waiting) :
    Reader.Completable readChunk buffer ∨ Unsupported buffer := by
  cases buffer with
  | nil => exact .inl completable_chunk
  | cons type rest =>
      have taken : Reader.take 1 (type :: rest) = .value [type] rest := Reader.take_value.mpr ⟨rfl, rfl⟩
      by_cases integer : type = 0
      · left
        subst integer
        apply Reader.completable_of_value (Reader.persistent_take 1) taken
        rw [readChunk, Reader.bind_of_value taken] at waits
        rcases Reader.bind_waiting.mp waits with cut | ⟨length, middle, _, last⟩
        · obtain ⟨more, value, _, read⟩ := readInt32_padded cut
          apply Reader.completable_bind persistent_int32 read
          exact Reader.completable_pure (Value.intValue value)
        · rw [if_pos rfl] at last
          contradiction
      · by_cases string : type = 1
        · left
          subst string
          apply Reader.completable_of_value (Reader.persistent_take 1) taken
          rw [readChunk, Reader.bind_of_value taken] at waits
          rcases Reader.bind_waiting.mp waits with cut | ⟨length, middle, read, later⟩
          · obtain ⟨more, value, nonneg, read⟩ := readInt32_padded cut
            apply Reader.completable_bind persistent_int32 read
            rw [if_neg (by decide), if_neg (by simp)]
            exact Reader.completable_map (persistent_string value) (@completable_string value [] nonneg)
              Value.stringValue
          · apply Reader.completable_of_value persistent_int32 read
            rw [if_neg (by decide), if_neg (by simp)] at later ⊢
            rcases Reader.bind_waiting.mp later with short | ⟨_, _, _, last⟩
            · have below := readString_waiting short
              exact Reader.completable_map (persistent_string length) (completable_string (by omega))
                Value.stringValue
            · contradiction
        · exact .inr ⟨type, rest, rfl, integer, string⟩

/-- A chunk of an unsupported type is never read. -/
theorem readChunk_unsupported {buffer : Bytes} (unsupported : Unsupported buffer) :
    readChunk buffer = .waiting := by
  obtain ⟨type, rest, rfl, notInteger, notString⟩ := unsupported
  have taken : Reader.take 1 (type :: rest) = .value [type] rest := Reader.take_value.mpr ⟨rfl, rfl⟩
  rw [readChunk, Reader.bind_of_value taken]
  cases read : readInt32 rest with
  | waiting => exact Reader.bind_of_waiting read
  | failed =>
      rcases Reader.bind_failed.mp read with fails | ⟨_, _, _, fails⟩
      · rw [Reader.take] at fails
        split at fails <;> contradiction
      · contradiction
  | value length middle =>
      rw [Reader.bind_of_value read, if_neg (by simpa using notInteger), if_pos (by simpa using notString)]
      rfl

theorem Unsupported.append {buffer : Bytes} (unsupported : Unsupported buffer) (more : Bytes) :
    Unsupported (buffer ++ more) := by
  obtain ⟨type, rest, rfl, notInteger, notString⟩ := unsupported
  exact ⟨type, rest ++ more, rfl, notInteger, notString⟩

theorem BlockedFrame.append {buffer : Bytes} (blocked : BlockedFrame buffer) (more : Bytes) :
    BlockedFrame (buffer ++ more) := by
  obtain ⟨header, chunkCount, chunks, rest, rfl, headerFits, countFits, few, valid, unsupported⟩ := blocked
  exact ⟨header, chunkCount, chunks, rest ++ more, by simp, headerFits, countFits, few, valid,
    unsupported.append more⟩

/-- A frame with an unsupported chunk is never read. -/
theorem readMessage_blocked {buffer : Bytes} (blocked : BlockedFrame buffer) :
    readMessage buffer = .waiting := by
  obtain ⟨header, chunkCount, chunks, rest, rfl, headerFits, countFits, few, valid, unsupported⟩ := blocked
  rw [readMessage, Reader.require]
  split
  · rfl
  · have stuck := Reader.times_stuck encodeChunk Value.readBack chunks
      (fun chunk member => reads_chunk (valid chunk member).1 (valid chunk member).2.1) few
      (readChunk_unsupported unsupported)
    have nonneg : ¬ (chunkCount : Int) < 0 := by omega
    rw [List.append_assoc, List.append_assoc,
      Reader.bind_of_value ((reads_int32 (fitsInt32_length headerFits)).whole _),
      Reader.bind_of_value ((reads_string header).whole _),
      Reader.bind_of_value ((reads_int32 (fitsInt32_length countFits)).whole _), if_neg nonneg,
      Int.toNat_natCast]
    exact Reader.bind_of_waiting stuck

/-- The reader of a message after its header and count. -/
def readChunks (header : Bytes) (chunkCount : Int) : Reader UInt8 GPGNetMessage :=
  if chunkCount < 0 then Reader.fail
  else do
    let chunks ← Reader.times readChunk chunkCount.toNat
    return ⟨header, chunks⟩

theorem readMessage_eq : readMessage = Reader.require 5 (readInt32 >>= fun headerLength =>
    readString headerLength >>= fun header => readInt32 >>= readChunks header) := rfl

theorem completable_chunks (header : Bytes) {chunkCount : Int} (nonneg : 0 ≤ chunkCount) {buffer : Bytes}
    (completable : Reader.Completable (Reader.times readChunk chunkCount.toNat) buffer) :
    Reader.Completable (readChunks header chunkCount) buffer := by
  rw [readChunks, if_neg (by omega)]
  exact Reader.completable_map (persistent_chunk.times _) completable (GPGNetMessage.mk header)

/-- A count that is cut off can be completed. -/
theorem completable_count (header : Bytes) {buffer : Bytes} (waits : readInt32 buffer = .waiting) :
    Reader.Completable (readInt32 >>= readChunks header) buffer := by
  obtain ⟨more, chunkCount, nonneg, read⟩ := readInt32_padded waits
  apply Reader.completable_bind persistent_int32 read
  exact completable_chunks header nonneg
    (Reader.completable_times persistent_chunk completable_chunk chunkCount.toNat)

/-- Chunks that wait can be completed, or the next one has an unsupported type. -/
theorem readChunks_waiting {header : Bytes} {chunkCount : Int} {buffer : Bytes}
    (waits : readChunks header chunkCount buffer = .waiting) :
    0 ≤ chunkCount ∧ (Reader.Completable (readChunks header chunkCount) buffer ∨
      ∃ (chunks : List Value) (rest : Bytes), buffer = chunks.flatMap encodeChunk ++ rest ∧
        chunks.length < chunkCount.toNat ∧
        (∀ chunk ∈ chunks, chunk.isSupported ∧ chunk.Fits ∧ chunk.readBack = chunk) ∧ Unsupported rest) := by
  have counted := waits
  rw [readChunks] at counted
  split at counted
  · contradiction
  · rename_i nonneg
    refine ⟨by omega, ?_⟩
    rcases Reader.bind_waiting.mp counted with inner | ⟨_, _, _, last⟩
    · rcases Reader.times_waiting persistent_chunk readChunk_exact readChunk_waiting completable_chunk inner
        with completable | blocked
      · exact .inl (completable_chunks header (by omega) completable)
      · exact .inr blocked
    · contradiction

/-- A message that waits is shorter than a word and a byte, can be completed, or lacks a chunk that has
an unsupported type. -/
theorem readMessage_waiting {buffer : Bytes} (waits : readMessage buffer = .waiting) :
    buffer.length < 5 ∨ Reader.Completable readMessage buffer ∨ BlockedFrame buffer := by
  rw [readMessage_eq, Reader.require] at waits
  split at waits
  · rename_i short
    exact .inl short
  · rename_i long
    right
    rw [readMessage_eq]
    rcases Reader.bind_waiting.mp waits with cut | ⟨headerLength, afterLength, lengthRead, headerWaits⟩
    · have taken : Reader.take 4 buffer = .value (buffer.take 4) (buffer.drop 4) := by
        rw [Reader.take, if_neg (by omega)]
      rw [readInt32, Reader.bind_of_value taken] at cut
      contradiction
    · rcases Reader.bind_waiting.mp headerWaits with short | ⟨header, afterHeader, headerRead, countWaits⟩
      · left
        obtain ⟨more, header, read⟩ := completable_string (Int.le_of_lt (readString_waiting short))
        apply Reader.completable_require _ long
        apply Reader.completable_of_value persistent_int32 lengthRead
        exact Reader.completable_bind (persistent_string headerLength) read (completable_count header rfl)
      · rcases Reader.bind_waiting.mp countWaits with cut | ⟨chunkCount, afterCount, countRead, chunksWait⟩
        · left
          apply Reader.completable_require _ long
          apply Reader.completable_of_value persistent_int32 lengthRead
          apply Reader.completable_of_value (persistent_string headerLength) headerRead
          exact completable_count header cut
        · obtain ⟨nonneg, completable | ⟨chunks, rest, rfl, few, valid, unsupported⟩⟩ :=
            readChunks_waiting chunksWait
          · left
            apply Reader.completable_require _ long
            apply Reader.completable_of_value persistent_int32 lengthRead
            apply Reader.completable_of_value (persistent_string headerLength) headerRead
            exact Reader.completable_of_value persistent_int32 countRead completable
          · right
            obtain ⟨rfl, headerFits⟩ := readInt32_exact lengthRead
            obtain ⟨rfl, rfl⟩ := readString_exact headerRead
            obtain ⟨rfl, countFits⟩ := readInt32_exact countRead
            have counted : ((chunkCount.toNat : Nat) : Int) = chunkCount := Int.toNat_of_nonneg nonneg
            have headerSmall := headerFits.2
            have countSmall := countFits.2
            exact ⟨header, chunkCount.toNat, chunks, rest, by simp [counted], by exact_mod_cast headerSmall,
              by omega, few, valid, unsupported⟩

theorem BlockedFrame.nonempty {buffer : Bytes} (blocked : BlockedFrame buffer) : buffer ≠ [] := by
  obtain ⟨header, chunkCount, chunks, rest, rfl, _⟩ := blocked
  simp [← List.length_eq_zero_iff]

/-- A few bytes start a message that has their value as the length of its header. -/
theorem awaits_of_short (jsonCpp : JsonCpp) {buffer : Bytes} (short : buffer.length < 5) :
    Awaits jsonCpp buffer := by
  have four : (buffer ++ List.replicate (4 - buffer.length) 0).length = 4 := by
    rw [List.length_append, List.length_replicate]
    omega
  have word := LittleEndian.writeSigned_read (buffer ++ List.replicate (4 - buffer.length) 0)
  have bound := LittleEndian.read_lt (buffer ++ List.replicate (4 - buffer.length) 0)
  rw [four] at word bound
  generalize LittleEndian.read (buffer ++ List.replicate (4 - buffer.length) 0) = headerLength at word bound
  have encoded : encode ⟨List.replicate headerLength 0, []⟩ =
      buffer ++ (List.replicate (4 - buffer.length) 0 ++ (List.replicate headerLength 0 ++ [0, 0, 0, 0])) := by
    have zero : int32Bytes (([] : List Value).length : Nat) = [0, 0, 0, 0] := rfl
    rw [encode, List.length_replicate, int32Bytes, word, zero]
    simp only [List.append_assoc, List.flatMap_nil, List.append_nil]
  have below : LengthsBelow (2 ^ 32) ⟨List.replicate headerLength 0, []⟩ :=
    ⟨by rw [List.length_replicate]; norm_num at bound ⊢; exact bound, by simp, by simp⟩
  refine .inr ⟨⟨List.replicate headerLength 0, []⟩, _,
    (toBinary_ok jsonCpp _ _).mpr ⟨List.forall_mem_nil _, rfl⟩, List.forall_mem_nil _, below, ?_, ?_⟩
  · rw [encoded]
    exact List.prefix_append _ _
  · intro same
    have long := encode_length ⟨List.replicate headerLength 0, []⟩
    rw [← same] at long
    omega

/-- What the reader leaves starts a message unless a chunk of it has an unsupported type. -/
theorem awaits_iff (jsonCpp : JsonCpp) {buffer : Bytes} (waits : readMessage buffer = .waiting) :
    Awaits jsonCpp buffer ↔ ¬ BlockedFrame buffer := by
  constructor
  · intro awaits blocked
    rcases awaits with empty | ⟨message, binary, encoded, supported, below, within, _⟩
    · exact blocked.nonempty empty
    · obtain ⟨numbersFit, rfl⟩ := (toBinary_ok jsonCpp message binary).mp encoded
      obtain ⟨more, whole⟩ := within
      have stuck := readMessage_blocked (blocked.append more)
      rw [whole] at stuck
      rcases settles_message numbersFit supported below [] with failed | ⟨result, read⟩
      · rw [List.append_nil, stuck] at failed
        contradiction
      · rw [List.append_nil, stuck] at read
        contradiction
  · intro unblocked
    rcases readMessage_waiting waits with short | ⟨more, message, read⟩ | blocked
    · exact awaits_of_short jsonCpp short
    · right
      obtain ⟨whole, encodable, _⟩ := readMessage_exact read
      rw [List.append_nil] at whole
      refine ⟨message, message.encode, encodable.toBinary jsonCpp, encodable.supported, ?_, ⟨more, whole⟩, ?_⟩
      · have fits := encodable.lengthsBelow
        exact ⟨fits.header.trans (by norm_num), fits.count.trans (by norm_num),
          fun content member => (fits.strings content member).trans (by norm_num)⟩
      · intro same
        have complete := (reads_message encodable).whole []
        rw [List.append_nil, ← same, waits] at complete
        contradiction
    · contradiction

/-- A stream is blocked where its reader stops. -/
theorem blocked_iff {stream : Bytes} (completes : (parse stream).failed = false) :
    Blocked stream ↔ BlockedFrame (parse stream).buffer := by
  constructor
  · intro blocked
    obtain ⟨messages, buffer, rfl, encodable, frame⟩ := blocked
    have parsed := Reader.drain_encoded readMessage_shortens encode readBack messages
      (fun message member => reads_message (encodable message member)) buffer (readMessage_blocked frame)
    rw [parse, parsed]
    exact frame
  · intro frame
    obtain ⟨kept, valid, _⟩ := Reader.drain_exact readMessage_shortens readMessage_exact stream
    exact ⟨(parse stream).delivered, (parse stream).buffer, kept,
      fun message member => (valid message member).1, frame⟩

/-- A blocked connection keeps everything that it receives and delivers nothing. -/
theorem feed_blocked {connection : GPGNetConnection} (frame : BlockedFrame connection.buffer)
    (completes : connection.failed = false) (received : Bytes) :
    Reader.feed readMessage connection received =
      ⟨connection.delivered, connection.buffer ++ received, false⟩ := by
  rw [Reader.feed, if_neg (by simp [completes]), Reader.drain_waiting (readMessage_blocked (frame.append received))]
  simp [Reader.Drained.after]

theorem onRead_blocked (received : List Bytes) {connection : GPGNetConnection}
    (frame : BlockedFrame connection.buffer) (completes : connection.failed = false) :
    GPGNetConnectionHandler.onRead connection received =
      ⟨connection.delivered, connection.buffer ++ received.flatten, false⟩ := by
  induction received generalizing connection with
  | nil => simp [GPGNetConnectionHandler.onRead, ← completes]
  | cons part rest ih =>
      have later := @ih ⟨connection.delivered, connection.buffer ++ part, false⟩ (frame.append part) rfl
      rw [GPGNetConnectionHandler.onRead] at later ⊢
      rw [List.foldl_cons, feed_blocked frame completes, later, List.flatten_cons, List.append_assoc]

/-- What a handler leaves starts a message, and the connection can go on, exactly when no frame with an
unsupported chunk follows the complete messages. Otherwise nothing is delivered any more. -/
theorem onRead_awaits_iff (jsonCpp : JsonCpp) (events : List (List Bytes))
    (completes : (GPGNetConnectionHandler.run events).failed = false) :
    (Awaits jsonCpp (GPGNetConnectionHandler.run events).buffer ↔ ¬ Blocked events.flatten.flatten) ∧
      (Blocked events.flatten.flatten → ∀ later,
        GPGNetConnectionHandler.run (events ++ later) =
          ⟨(GPGNetConnectionHandler.run events).delivered,
            (GPGNetConnectionHandler.run events).buffer ++ later.flatten.flatten, false⟩) := by
  have whole := run_handler_of_completes completes
  have parsed : (parse events.flatten.flatten).failed = false := by rwa [← whole]
  have waits := (Reader.drain_exact readMessage_shortens readMessage_exact events.flatten.flatten).2.2
  rw [← parse, parsed, if_neg Bool.false_ne_true] at waits
  rw [blocked_iff parsed, ← whole] at *
  refine ⟨awaits_iff jsonCpp waits, ?_⟩
  intro frame later
  have joined : later.foldl GPGNetConnectionHandler.onRead (GPGNetConnectionHandler.run events) =
      GPGNetConnectionHandler.onRead (GPGNetConnectionHandler.run events) later.flatten := by
    rw [GPGNetConnectionHandler.onRead, List.foldl_flatten]
    rfl
  rw [GPGNetConnectionHandler.run, List.foldl_append, ← GPGNetConnectionHandler.run, joined,
    onRead_blocked later.flatten frame completes]

/-- A stream ends inside an integer chunk. -/
theorem onRead_awaits_integer :
    (Awaits (Sample.jsonCpp fun _ => (false, .nullValue))
        (GPGNetConnectionHandler.run [[[0, 0, 0, 0, 1, 0, 0, 0, 0, 7]]]).buffer ↔
      ¬ Blocked [[[0, 0, 0, 0, 1, 0, 0, 0, 0, 7]]].flatten.flatten) ∧
      (Blocked [[[0, 0, 0, 0, 1, 0, 0, 0, 0, 7]]].flatten.flatten → ∀ later,
        GPGNetConnectionHandler.run ([[[0, 0, 0, 0, 1, 0, 0, 0, 0, 7]]] ++ later) =
          ⟨(GPGNetConnectionHandler.run [[[0, 0, 0, 0, 1, 0, 0, 0, 0, 7]]]).delivered,
            (GPGNetConnectionHandler.run [[[0, 0, 0, 0, 1, 0, 0, 0, 0, 7]]]).buffer ++ later.flatten.flatten,
            false⟩) :=
  onRead_awaits_iff (Sample.jsonCpp fun _ => (false, .nullValue)) [[[0, 0, 0, 0, 1, 0, 0, 0, 0, 7]]] rfl

/-- A chunk of type 2 stays in the buffer. -/
theorem onRead_unsupported : ¬ ∀ (jsonCpp : JsonCpp) (events : List (List Bytes)),
    (GPGNetConnectionHandler.run events).failed = false →
    Awaits jsonCpp (GPGNetConnectionHandler.run events).buffer := by
  intro claim
  have awaits := claim (Sample.jsonCpp fun _ => (false, .nullValue)) [[[0, 0, 0, 0, 1, 0, 0, 0, 2, 0, 0, 0, 0]]] rfl
  have frame : BlockedFrame [0, 0, 0, 0, 1, 0, 0, 0, 2, 0, 0, 0, 0] :=
    ⟨[], 1, [], [2, 0, 0, 0, 0], rfl, by simp, by norm_num, by simp, List.forall_mem_nil _, 2, [0, 0, 0, 0],
      rfl, by decide, by decide⟩
  exact (awaits_iff _ (readMessage_blocked frame)).mp awaits frame

end GPGNetMessage
end Faf
