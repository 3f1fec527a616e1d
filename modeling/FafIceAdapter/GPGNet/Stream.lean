import FafIceAdapter.GPGNet.Frame
import FafIceAdapter.Json.Sample

namespace Faf
open Json StreamReader

namespace GPGNetMessage

theorem Encodable.numbersFit {message : GPGNetMessage} (encodable : message.Encodable) :
    message.NumbersFit := fun chunk member => (encodable.chunksFit chunk member).1

theorem Encodable.toBinary (jsonCpp : JsonCpp) {message : GPGNetMessage} (encodable : message.Encodable) :
    message.toBinary jsonCpp = .ok message.encode :=
  (toBinary_ok jsonCpp message _).mpr ⟨encodable.numbersFit, rfl⟩

theorem encodable_of {message : GPGNetMessage} (numbersFit : message.NumbersFit)
    (fits : message.LengthsBelow (2 ^ 31)) (supported : ∀ chunk ∈ message.chunks, chunk.isSupported) :
    message.Encodable :=
  ⟨fits.header, fits.count, supported, fun chunk member =>
    ⟨numbersFit chunk member, fun content same => fits.strings content (same ▸ member)⟩⟩

theorem Encodable.lengthsBelow {message : GPGNetMessage} (encodable : message.Encodable) :
    message.LengthsBelow (2 ^ 31) where
  header := encodable.headerFits
  count := encodable.countFits
  strings content member := (encodable.chunksFit _ member).2 content rfl

/-- A message fits its fields when what the reader makes of it does. -/
theorem Encodable.lengthsBelow_readBack {message : GPGNetMessage} (encodable : message.readBack.Encodable) :
    message.LengthsBelow (2 ^ 31) where
  header := encodable.headerFits
  count := by simpa [readBack] using encodable.countFits
  strings content member :=
    (encodable.chunksFit _ (List.mem_map.mpr ⟨.stringValue content, member, rfl⟩)).2 content rfl

/-- Encoding a list of messages succeeds when their numbers fit. -/
theorem mapM_toBinary (jsonCpp : JsonCpp) {messages : List GPGNetMessage}
    (numbersFit : ∀ message ∈ messages, message.NumbersFit) :
    messages.mapM (toBinary jsonCpp) = .ok (messages.map encode) :=
  (Fallible.mapM_ok (toBinary_ok jsonCpp) messages _).mpr ⟨numbersFit, rfl⟩

/-- What the reader gives is encoded like the message it was written from. -/
@[simp] theorem encode_readBack (message : GPGNetMessage) : message.readBack.encode = message.encode := by
  have chunk (value : Value) : encodeChunk value.readBack = encodeChunk value := by
    cases value <;> rfl
  have body : (message.chunks.map Value.readBack).flatMap encodeChunk =
      message.chunks.flatMap encodeChunk := by
    rw [List.flatMap_map]
    exact List.flatMap_congr fun value _ => chunk value
  simp only [encode, readBack, List.length_map, body]

/-- Parsing undoes encoding on a stream that may end inside a message. -/
theorem parse_toBinary (jsonCpp : JsonCpp) (messages : List GPGNetMessage)
    (encodable : ∀ message ∈ messages, message.Encodable) (next : GPGNetMessage)
    (nextEncodable : next.Encodable) (whole : Bytes) (encoded : next.toBinary jsonCpp = .ok whole)
    (tail : Bytes) (within : tail <+: whole) (strict : tail ≠ whole) :
    ∃ binaries, messages.mapM (toBinary jsonCpp) = .ok binaries ∧
      parse (binaries.flatten ++ tail) = ⟨messages.map readBack, tail, false⟩ := by
  obtain ⟨_, rfl⟩ := (toBinary_ok jsonCpp next whole).mp encoded
  have waits := (reads_message nextEncodable).truncated tail within strict
  refine ⟨_, mapM_toBinary jsonCpp fun message member => (encodable message member).numbersFit, ?_⟩
  rw [← List.flatMap_def]
  exact Reader.drain_encoded readMessage_shortens encode readBack messages
    (fun message member => reads_message (encodable message member)) tail waits

/-- A stream of one message is cut after the first byte of the next. -/
theorem parse_toBinary_cut :
    ∃ binaries, [(⟨bytes "ping", [.intValue 7, .booleanValue true]⟩ : GPGNetMessage)].mapM
        (toBinary (Sample.jsonCpp fun _ => (false, .nullValue))) = .ok binaries ∧
      parse (binaries.flatten ++ [4]) = ⟨[⟨bytes "ping", [.intValue 7, .intValue 1]⟩], [4], false⟩ := by
  have encodable : Encodable ⟨bytes "ping", [.intValue 7, .booleanValue true]⟩ := by
    refine ⟨by decide, by decide, by decide, ?_⟩
    intro chunk member
    simp only [List.mem_cons, List.not_mem_nil, or_false] at member
    rcases member with rfl | rfl
    · exact ⟨fun number same => Option.some.inj same ▸ by decide, by simp⟩
    · exact ⟨fun number same => Option.some.inj same ▸ by decide, by simp⟩
  exact parse_toBinary _ _ (List.forall_mem_singleton.mpr encodable) _ encodable _
    (encodable.toBinary _) [4] (by decide) (by decide)

theorem readChunk_failed {word rest : Bytes} {length : Int}
    (read : readInt32 (word ++ rest) = .value length rest) (fails : readString length rest = .failed) :
    readChunk (1 :: (word ++ rest)) = .failed := by
  have type := (Reader.reads_take ([1] : Bytes)).whole (word ++ rest)
  exact (Reader.bind_of_value type).trans
    ((Reader.bind_of_value read).trans (Reader.bind_of_failed fails))

/-- A chunk that writes nothing aside, only a chunk that fits is read from its bytes. -/
theorem readChunk_value {chunk : Value}
    (numberFits : ∀ number, chunk.integer = some number → FitsInt32 number)
    (below : ∀ content, chunk = .stringValue content → content.length < 2 ^ 32) :
    encodeChunk chunk = [] ∨ ∀ rest result after,
      readChunk (encodeChunk chunk ++ rest) = .value result after →
        after = rest ∧ chunk.isSupported ∧ chunk.Fits := by
  have readable (supported : chunk.isSupported) (fits : chunk.Fits) (rest : Bytes) (result : Value)
      (after : Bytes) (read : readChunk (encodeChunk chunk ++ rest) = .value result after) :
      after = rest ∧ chunk.isSupported ∧ chunk.Fits := by
    rw [(reads_chunk supported fits).whole] at read
    exact ⟨(Reading.value.inj read).2.symm, supported, fits⟩
  cases chunk with
  | stringValue content =>
      right
      by_cases small : content.length < 2 ^ 31
      · exact readable rfl ⟨numberFits, fun other same => Value.stringValue.inj same ▸ small⟩
      · intro rest result after read
        have length := (reads_narrowed content.length).whole (content ++ rest)
        have fails := readChunk_failed length (readString_wide small (below content rfl) _)
        rw [encodeChunk, List.cons_append, List.append_assoc, fails] at read
        contradiction
  | intValue value => exact .inr (readable rfl ⟨numberFits, by simp⟩)
  | uintValue value => exact .inr (readable rfl ⟨numberFits, by simp⟩)
  | booleanValue value => exact .inr (readable rfl ⟨numberFits, by simp⟩)
  | _ => exact .inl rfl

/-- A message is read from the start of its own encoding only when the wire format can hold it. -/
theorem encodable_of_readMessage {message : GPGNetMessage} (numbersFit : message.NumbersFit)
    (below : message.LengthsBelow (2 ^ 32)) {first : GPGNetMessage} {rest : Bytes}
    (read : readMessage message.encode = .value first rest) : message.Encodable := by
  have afterStart := Reader.require_value read
  rw [encode, List.append_assoc, List.append_assoc,
    Reader.bind_of_value ((reads_narrowed _).whole _)] at afterStart
  by_cases headerFits : message.header.length < 2 ^ 31
  · rw [bmod_fits (fitsInt32_length headerFits), Reader.bind_of_value ((reads_string _).whole _),
      Reader.bind_of_value ((reads_narrowed _).whole _)] at afterStart
    by_cases countFits : message.chunks.length < 2 ^ 31
    · rw [bmod_fits (fitsInt32_length countFits), if_neg (by omega), Int.toNat_natCast] at afterStart
      obtain ⟨chunks, _, chunksRead, _⟩ := Reader.bind_value.mp afterStart
      obtain ⟨_, each⟩ := Reader.times_value encodeChunk message.chunks
        (fun chunk member => readChunk_value (numbersFit chunk member)
          fun content same => below.strings content (same ▸ member)) rfl le_rfl chunksRead
      exact ⟨headerFits, countFits, fun chunk member => (each chunk member).1,
        fun chunk member => (each chunk member).2⟩
    · rw [if_pos (bmod_negative countFits below.count)] at afterStart
      contradiction
  · rw [Reader.bind_of_failed (readString_wide headerFits below.header _)] at afterStart
    contradiction

/-- A message is read to its end before the next one exactly when each of its chunks is supported and
both messages have lengths that their fields can hold. -/
theorem parse_second_iff (jsonCpp : JsonCpp) (first second : GPGNetMessage) (binary binary' : Bytes)
    (encoded : first.toBinary jsonCpp = .ok binary) (encoded' : second.toBinary jsonCpp = .ok binary')
    (below : first.LengthsBelow (2 ^ 32)) (supported : ∀ chunk ∈ second.chunks, chunk.isSupported) :
    (∃ earlier, parse (binary ++ binary') = ⟨earlier ++ [second.readBack], [], false⟩) ↔
      (∀ chunk ∈ first.chunks, chunk.isSupported) ∧ first.LengthsBelow (2 ^ 31) ∧
        second.LengthsBelow (2 ^ 31) := by
  obtain ⟨numbersFit, rfl⟩ := (toBinary_ok jsonCpp first binary).mp encoded
  obtain ⟨numbersFit', rfl⟩ := (toBinary_ok jsonCpp second binary').mp encoded'
  constructor
  · intro read
    obtain ⟨earlier, parsed⟩ := read
    obtain ⟨kept, valid, _⟩ := Reader.drain_exact readMessage_shortens readMessage_exact
      (first.encode ++ second.encode)
    rw [← parse, parsed] at kept valid
    have last := (valid second.readBack (List.mem_append_right _ (List.mem_singleton.mpr rfl))).1
    rw [List.append_nil, List.flatMap_append, List.flatMap_singleton, encode_readBack,
      List.append_cancel_right_eq] at kept
    have encodable : first.Encodable := by
      cases earlier with
      | nil =>
          have long := encode_length first
          rw [kept] at long
          simp at long
      | cons head others =>
          have headValid := valid head List.mem_cons_self
          have read := (reads_message headValid.1).whole (others.flatMap encode)
          rw [headValid.2, ← List.flatMap_cons, ← kept] at read
          exact encodable_of_readMessage numbersFit below read
    exact ⟨encodable.supported, encodable.lengthsBelow, last.lengthsBelow_readBack⟩
  · intro holdable
    obtain ⟨supportedFirst, fits, fits'⟩ := holdable
    have pair := Reader.drain_encoded readMessage_shortens encode readBack [first, second]
      (List.forall_mem_cons.mpr ⟨reads_message (encodable_of numbersFit fits supportedFirst),
        List.forall_mem_singleton.mpr (reads_message (encodable_of numbersFit' fits' supported))⟩)
      [] rfl
    refine ⟨[first.readBack], ?_⟩
    simpa [parse] using pair

/-- A null chunk keeps the next message from being delivered. -/
theorem parse_null_chunk : ¬ ∀ (jsonCpp : JsonCpp) (first second : GPGNetMessage) (binary binary' : Bytes),
    first.toBinary jsonCpp = .ok binary → second.toBinary jsonCpp = .ok binary' →
    (∀ chunk ∈ second.chunks, chunk.isSupported) →
    ∃ earlier, parse (binary ++ binary') = ⟨earlier ++ [second.readBack], [], false⟩ := by
  intro claim
  obtain ⟨earlier, parsed⟩ := claim (Sample.jsonCpp fun _ => (false, .nullValue))
    ⟨bytes "X", [.nullValue]⟩ ⟨bytes "Y", []⟩ _ _ rfl rfl (List.forall_mem_nil _)
  have waits : parse ([1, 0, 0, 0, 0x58, 1, 0, 0, 0] ++ [1, 0, 0, 0, 0x59, 0, 0, 0, 0]) =
      ⟨[], [1, 0, 0, 0, 0x58, 1, 0, 0, 0, 1, 0, 0, 0, 0x59, 0, 0, 0, 0], false⟩ :=
    Reader.drain_waiting (by decide)
  have buffer := congrArg Reader.Drained.buffer (parsed.symm.trans waits)
  contradiction

/-- A message with an integer chunk precedes the delivered one. -/
theorem parse_second_integer :
    ∃ earlier, parse ([1, 0, 0, 0, 0x58, 1, 0, 0, 0, 0, 7, 0, 0, 0] ++ [1, 0, 0, 0, 0x59, 0, 0, 0, 0]) =
      ⟨earlier ++ [⟨bytes "Y", []⟩], [], false⟩ := by
  have supported : ∀ chunk ∈ [Value.intValue 7], chunk.isSupported := by decide
  have fits (bound : Nat) (some : 1 < bound) : LengthsBelow bound ⟨bytes "X", [.intValue 7]⟩ :=
    ⟨some, some, by simp⟩
  have fits' : LengthsBelow (2 ^ 31) ⟨bytes "Y", []⟩ := ⟨by decide, by decide, by simp⟩
  exact (parse_second_iff (Sample.jsonCpp fun _ => (false, .nullValue)) ⟨bytes "X", [.intValue 7]⟩
    ⟨bytes "Y", []⟩ _ _ rfl rfl (fits _ (by decide)) (by simp)).mpr
    ⟨supported, fits _ (by decide), fits'⟩

/-- Parsing accounts for every byte, and what it leaves starts with no complete message. -/
theorem parse_accounts (jsonCpp : JsonCpp) (msgBuffer : Bytes)
    (completes : (parse msgBuffer).failed = false) :
    (∃ binaries, (parse msgBuffer).delivered.mapM (toBinary jsonCpp) = .ok binaries ∧
      msgBuffer = binaries.flatten ++ (parse msgBuffer).buffer) ∧
    ∀ (message : GPGNetMessage) (binary : Bytes), message.toBinary jsonCpp = .ok binary →
      (∀ chunk ∈ message.chunks, chunk.isSupported) → message.LengthsBelow (2 ^ 32) →
      ¬ binary <+: (parse msgBuffer).buffer := by
  obtain ⟨kept, valid, stopped⟩ := Reader.drain_exact readMessage_shortens readMessage_exact msgBuffer
  rw [← parse, completes, if_neg Bool.false_ne_true] at stopped
  constructor
  · refine ⟨_, mapM_toBinary jsonCpp fun message member => (valid message member).1.numbersFit, ?_⟩
    rw [← List.flatMap_def]
    exact kept
  · intro message binary encoded supported below within
    obtain ⟨rest, starts⟩ := within
    obtain ⟨numbersFit, rfl⟩ := (toBinary_ok jsonCpp message binary).mp encoded
    rw [← starts] at stopped
    rcases settles_message numbersFit supported below rest with failed | ⟨result, read⟩
    · rw [failed] at stopped
      contradiction
    · rw [read] at stopped
      contradiction

/-- A buffer with one message and the start of another. -/
theorem parse_accounts_one :
    (∃ binaries, (parse [1, 0, 0, 0, 0x59, 0, 0, 0, 0, 1, 0]).delivered.mapM
        (toBinary (Sample.jsonCpp fun _ => (false, .nullValue))) = .ok binaries ∧
      [1, 0, 0, 0, 0x59, 0, 0, 0, 0, 1, 0] =
        binaries.flatten ++ (parse [1, 0, 0, 0, 0x59, 0, 0, 0, 0, 1, 0]).buffer) ∧
    ¬ [1, 0, 0, 0, 0x59, 0, 0, 0, 0] <+: (parse [1, 0, 0, 0, 0x59, 0, 0, 0, 0, 1, 0]).buffer := by
  obtain ⟨accounted, complete⟩ := parse_accounts (Sample.jsonCpp fun _ => (false, .nullValue))
    [1, 0, 0, 0, 0x59, 0, 0, 0, 0, 1, 0] rfl
  have below : LengthsBelow (2 ^ 32) ⟨[0x59], []⟩ := ⟨by decide, by decide, by simp⟩
  exact ⟨accounted, complete ⟨[0x59], []⟩ [1, 0, 0, 0, 0x59, 0, 0, 0, 0] rfl (List.forall_mem_nil _) below⟩

/-- The length field drops the top of a header's size, so the reader stops before a complete message. -/
theorem parse_huge_header : ¬ ∀ (jsonCpp : JsonCpp) (msgBuffer : Bytes),
    (parse msgBuffer).failed = false →
    (∃ binaries, (parse msgBuffer).delivered.mapM (toBinary jsonCpp) = .ok binaries ∧
      msgBuffer = binaries.flatten ++ (parse msgBuffer).buffer) ∧
    ∀ (message : GPGNetMessage) (binary : Bytes), message.toBinary jsonCpp = .ok binary →
      (∀ chunk ∈ message.chunks, chunk.isSupported) → ¬ binary <+: (parse msgBuffer).buffer := by
  intro claim
  have size : ([1, 0, 0, 0, 7, 0, 0, 0, 0] ++ List.replicate (2 ^ 32 - 9) 0 : Bytes).length = 2 ^ 32 := by
    rw [List.length_append, List.length_replicate]
    rfl
  have start : ([1, 0, 0, 0, 7, 0, 0, 0, 0] ++ List.replicate (2 ^ 32 - 9) 0 : Bytes) =
      [1, 0, 0, 0] ++ ([7] ++ ([0, 0, 0, 0] ++ List.replicate (2 ^ 32 - 9) 0)) := rfl
  generalize ([1, 0, 0, 0, 7, 0, 0, 0, 0] ++ List.replicate (2 ^ 32 - 9) 0 : Bytes) = header at size start
  have encoded : toBinary (Sample.jsonCpp fun _ => (false, .nullValue)) ⟨header, []⟩ =
      .ok ([0, 0, 0, 0] ++ header ++ [0, 0, 0, 0]) := by
    have narrowed : int32Bytes header.length = [0, 0, 0, 0] := by
      rw [size]
      rfl
    have written := (toBinary_ok (Sample.jsonCpp fun _ => (false, .nullValue)) ⟨header, []⟩ _).mpr
      ⟨List.forall_mem_nil _, rfl⟩
    simpa [encode, narrowed, show int32Bytes 0 = [0, 0, 0, 0] from rfl] using written
  have waits (rest : Bytes) :
      readMessage ([0, 0, 0, 0] ++ ([1, 0, 0, 0] ++ ([7] ++ ([0, 0, 0, 0] ++ rest)))) = .waiting := by
    have zero := (reads_int32 (show FitsInt32 0 by decide)).whole
    have one := (reads_int32 (show FitsInt32 1 by decide)).whole
    have empty (buffer : Bytes) : readString 0 buffer = .value [] buffer := (reads_string []).whole buffer
    rw [show int32Bytes 0 = [0, 0, 0, 0] by decide] at zero
    rw [show int32Bytes 1 = [1, 0, 0, 0] by decide] at one
    rw [readMessage, Reader.require, if_neg (by simp), Reader.bind_of_value (zero _),
      Reader.bind_of_value (empty _), Reader.bind_of_value (one _)]
    rfl
  have parsed : parse ([0, 0, 0, 0] ++ header ++ [0, 0, 0, 0]) =
      ⟨[], [0, 0, 0, 0] ++ header ++ [0, 0, 0, 0], false⟩ := by
    apply Reader.drain_waiting
    rw [start]
    simpa only [List.append_assoc] using waits (List.replicate (2 ^ 32 - 9) 0 ++ [0, 0, 0, 0])
  obtain ⟨_, complete⟩ := claim _ _ (congrArg Reader.Drained.failed parsed)
  apply complete ⟨header, []⟩ _ encoded (List.forall_mem_nil _)
  rw [parsed]

end GPGNetMessage
end Faf
