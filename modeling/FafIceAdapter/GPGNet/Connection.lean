import FafIceAdapter.GPGNet.Stream
import FafIceAdapter.Library.Fragments

namespace Faf
open Json StreamReader

/-- The delivered messages, the bytes that wait for more, and whether an exception left the reader. -/
abbrev GPGNetConnection := Reader.Drained UInt8 GPGNetMessage

/-- A connection starts with an empty buffer. -/
def GPGNetConnection.opened : GPGNetConnection := ⟨[], [], false⟩

/-- The handler parses its buffer after each result of `Recv`. -/
def GPGNetConnectionHandler.onRead (handler : GPGNetConnection) (received : List Bytes) : GPGNetConnection :=
  received.foldl (Reader.feed GPGNetMessage.readMessage) handler

/-- The client appends the results of `Recv` and parses its buffer once. -/
def GPGNetClient.onRead (client : GPGNetConnection) (received : List Bytes) : GPGNetConnection :=
  Reader.feed GPGNetMessage.readMessage client received.flatten

/-- The handler after a sequence of read events. -/
def GPGNetConnectionHandler.run (events : List (List Bytes)) : GPGNetConnection :=
  events.foldl onRead .opened

def GPGNetClient.run (events : List (List Bytes)) : GPGNetConnection := events.foldl onRead .opened

namespace GPGNetMessage

theorem persistent_int32 : Reader.Persistent readInt32 :=
  (Reader.persistent_take 4).bind fun word => Reader.persistent_pure (LittleEndian.readSigned word)

theorem persistent_string (length : Int) : Reader.Persistent (readString length) where
  failed {buffer} fails more := by
    unfold readString at fails ⊢
    split at fails
    · contradiction
    · split at fails
      · rename_i negative
        rw [if_neg (by omega), if_pos negative]
      · rw [Reader.take] at fails
        split at fails <;> contradiction
  value {buffer rest content} read more := by
    obtain ⟨rfl, counted⟩ := readString_exact read
    subst counted
    rw [List.append_assoc]
    exact (reads_string content).whole (rest ++ more)

theorem persistent_chunk : Reader.Persistent readChunk := by
  apply (Reader.persistent_take 1).bind
  intro type
  apply persistent_int32.bind
  intro length
  split
  · exact Reader.persistent_pure _
  · split
    · exact Reader.persistent_wait
    · exact (persistent_string length).bind fun content => Reader.persistent_pure (Value.stringValue content)

theorem persistent_message : Reader.Persistent readMessage := by
  apply Reader.Persistent.require
  apply persistent_int32.bind
  intro headerLength
  apply (persistent_string headerLength).bind
  intro header
  apply persistent_int32.bind
  intro chunkCount
  split
  · exact Reader.persistent_fail
  · exact (persistent_chunk.times _).bind fun chunks => Reader.persistent_pure (GPGNetMessage.mk header chunks)

/-- Both readers keep what one parse of the whole stream gives. -/
theorem run_handler (events : List (List Bytes)) (completes : (parse events.flatten.flatten).failed = false) :
    GPGNetConnectionHandler.run events = parse events.flatten.flatten := by
  have whole := Reader.foldl_feed persistent_message readMessage_shortens events.flatten completes
  rw [List.foldl_flatten] at whole
  exact whole

theorem run_client (events : List (List Bytes)) (completes : (parse events.flatten.flatten).failed = false) :
    GPGNetClient.run events = parse events.flatten.flatten := by
  have joined : (events.map List.flatten).flatten = events.flatten.flatten := by
    rw [List.flatten_flatten]
  rw [← joined] at completes ⊢
  have whole := Reader.foldl_feed persistent_message readMessage_shortens (events.map List.flatten) completes
  rw [List.foldl_map] at whole
  exact whole

/-- A handler that has not failed keeps what one parse of the whole stream gives. -/
theorem run_handler_of_completes {events : List (List Bytes)}
    (completes : (GPGNetConnectionHandler.run events).failed = false) :
    GPGNetConnectionHandler.run events = parse events.flatten.flatten := by
  have flat : GPGNetConnectionHandler.run events =
      events.flatten.foldl (Reader.feed readMessage) (Reader.drain readMessage []) :=
    List.foldl_flatten.symm
  rw [flat] at completes
  exact run_handler events
    (Reader.foldl_feed_completes persistent_message readMessage_shortens events.flatten completes)

/-- The messages and the buffer do not depend on how a stream is cut and on when it is parsed. -/
theorem onRead_fragmentation (events events' : List (List Bytes))
    (same : events.flatten.flatten = events'.flatten.flatten)
    (completes : (parse events.flatten.flatten).failed = false) :
    (GPGNetConnectionHandler.run events).delivered = (GPGNetClient.run events').delivered ∧
      (GPGNetConnectionHandler.run events).buffer = (GPGNetClient.run events').buffer := by
  rw [run_handler events completes]
  rw [same] at completes ⊢
  rw [run_client events' completes]
  exact ⟨rfl, rfl⟩

/-- A header is cut in two, and the client reads both parts at once. -/
theorem onRead_fragmentation_cut :
    (GPGNetConnectionHandler.run [[[1, 0, 0], [0, 0x59, 0]], [[0, 0, 0]]]).delivered =
        (GPGNetClient.run [[[1, 0, 0, 0, 0x59, 0, 0, 0, 0]]]).delivered ∧
      (GPGNetConnectionHandler.run [[[1, 0, 0], [0, 0x59, 0]], [[0, 0, 0]]]).buffer =
        (GPGNetClient.run [[[1, 0, 0, 0, 0x59, 0, 0, 0, 0]]]).buffer :=
  onRead_fragmentation [[[1, 0, 0], [0, 0x59, 0]], [[0, 0, 0]]] [[[1, 0, 0, 0, 0x59, 0, 0, 0, 0]]] rfl rfl

end GPGNetMessage
end Faf
