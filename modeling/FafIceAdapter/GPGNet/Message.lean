import FafIceAdapter.Json.Value
import FafIceAdapter.Library.LittleEndian
import FafIceAdapter.Library.StreamReader

namespace Faf
open Json StreamReader

/-- A message has a type such as `CreateLobby` and its parameters. -/
structure GPGNetMessage where
  header : Bytes
  chunks : List Value

namespace GPGNetMessage

/-- The bytes that `memcpy` takes from an `int32_t`. -/
def int32Bytes (value : Int) : Bytes := LittleEndian.writeSigned 4 value

/-- An unsupported chunk is logged and writes nothing. -/
def chunkToBinary (jsonCpp : JsonCpp) (chunk : Value) : Except Exception Bytes :=
  match chunk with
  | .intValue _ | .uintValue _ | .booleanValue _ => do
      let value ← jsonCpp.asInt chunk
      return 0 :: int32Bytes value
  | .stringValue _ => do
      let string ← jsonCpp.asString chunk
      return 1 :: (int32Bytes string.length ++ string)
  | _ => return []

def toBinary (jsonCpp : JsonCpp) (message : GPGNetMessage) : Except Exception Bytes := do
  let body ← message.chunks.mapM (chunkToBinary jsonCpp)
  return int32Bytes message.header.length ++ message.header ++
    int32Bytes message.chunks.length ++ body.flatten

/-- The reader waits until the buffer holds an `int32_t`. -/
def readInt32 : Reader UInt8 Int := do
  let word ← Reader.take 4
  return LittleEndian.readSigned word

/-- The reader compares the signed length first. A negative length becomes a huge size, from which
the string constructor throws. -/
def readString (length : Int) : Reader UInt8 Bytes := fun buffer =>
  if (buffer.length : Int) < length then .waiting
  else if length < 0 then .failed
  else Reader.take length.toNat buffer

/-- The length field of an integer chunk holds its payload. -/
def readChunk : Reader UInt8 Value := do
  let type ← Reader.take 1
  let length ← readInt32
  if type = [0] then return .intValue length
  else if type ≠ [1] then Reader.wait
  else do
    let content ← readString length
    return .stringValue content

/-- The reader needs more than four bytes to start. A negative count becomes a huge size, from which
the resizing of the chunks throws. -/
def readMessage : Reader UInt8 GPGNetMessage := Reader.require 5 (do
  let headerLength ← readInt32
  let header ← readString headerLength
  let chunkCount ← readInt32
  if chunkCount < 0 then Reader.fail
  else do
    let chunks ← Reader.times readChunk chunkCount.toNat
    return ⟨header, chunks⟩)

/-- The callback receives the delivered messages, and the buffer keeps the rest. A failure is an
exception that leaves the loop. -/
def parse (msgBuffer : Bytes) : Reader.Drained UInt8 GPGNetMessage :=
  Reader.drain readMessage msgBuffer

end GPGNetMessage
end Faf
