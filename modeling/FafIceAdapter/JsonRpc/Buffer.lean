import FafIceAdapter.JsonRpc.Trim

namespace Faf
open Json

namespace JsonRpc

/-- The loop over the buffer stops at the brace that closes the message or at one too many. -/
inductive Scan where
  | incomplete
  | invalid
  | complete (msgPos : Nat)
  deriving DecidableEq

/-- The loop toggles its flag at every quote and counts the braces outside of strings. -/
def scan (inString : Bool) (braceNestingLevel : Int) (msgPos : Nat) : Bytes → Scan
  | [] => .incomplete
  | c :: rest =>
      let inString := if c = quote then !inString else inString
      if inString then scan inString braceNestingLevel (msgPos + 1) rest
      else if c = openBrace then scan inString (braceNestingLevel + 1) (msgPos + 1) rest
      else if c = closeBrace then
        let braceNestingLevel := braceNestingLevel - 1
        if braceNestingLevel < 0 then .invalid
        else if braceNestingLevel = 0 then .complete msgPos
        else scan inString braceNestingLevel (msgPos + 1) rest
      else scan inString braceNestingLevel (msgPos + 1) rest

/-- The result is the value that is returned and the buffer that is left. -/
def parseJsonFromMsgBuffer (jsonCpp : JsonCpp) (msgBuffer : Bytes) : Value × Bytes :=
  match msgBuffer with
  | [] => (.nullValue, [])
  | first :: _ =>
      if first ≠ openBrace then (.nullValue, [])
      else
        match scan false 0 0 msgBuffer with
        | .incomplete => (.nullValue, msgBuffer)
        | .invalid => (.nullValue, [])
        | .complete msgPos =>
            let (success, result) := jsonCpp.parse (msgBuffer.take (msgPos + 1))
            if !success then (result, [])
            else if msgBuffer.length ≤ msgPos + 1 then (result, [])
            else (result, msgBuffer.drop (msgPos + 1))

/-- The second loop of a read event. The values are those that are passed on for processing. -/
def readMessages (jsonCpp : JsonCpp) : Nat → Bytes → List Value × Bytes
  | 0, msgBuffer => ([], msgBuffer)
  | fuel + 1, msgBuffer =>
      let msgBuffer := trimWhitespace msgBuffer
      if msgBuffer = [] then ([], [])
      else
        let (json, msgBuffer) := parseJsonFromMsgBuffer jsonCpp msgBuffer
        if json.isNull then ([], msgBuffer)
        else
          let (later, msgBuffer) := readMessages jsonCpp fuel msgBuffer
          (json :: later, msgBuffer)

/-- The bytes that the second loop starts from. Each result of `Recv` is appended. -/
def held (msgBuffer : Bytes) (received : List Bytes) : Bytes := received.foldl (· ++ ·) msgBuffer

/-- A read event takes the results of `Recv` up to the first that is not positive. -/
def read (jsonCpp : JsonCpp) (msgBuffer : Bytes) (received : List Bytes) : List Value × Bytes :=
  readMessages jsonCpp ((held msgBuffer received).length + 1) (held msgBuffer received)

/-- The scan stops inside the buffer. -/
theorem scan_complete_lt {inString : Bool} {level : Int} {start msgPos : Nat} {text : Bytes}
    (found : scan inString level start text = .complete msgPos) :
    start ≤ msgPos ∧ msgPos < start + text.length := by
  induction text generalizing inString level start with
  | nil => contradiction
  | cons c rest ih =>
      have later {flag : Bool} {level : Int} (found : scan flag level (start + 1) rest = .complete msgPos) :
          start ≤ msgPos ∧ msgPos < start + (c :: rest).length := by
        have bounds := ih found
        simp only [List.length_cons]
        omega
      have here (found : Scan.complete start = .complete msgPos) :
          start ≤ msgPos ∧ msgPos < start + (c :: rest).length := by
        obtain rfl := Scan.complete.inj found
        simp
      simp only [scan] at found
      split_ifs at found <;> first | exact later found | exact here found

/-- The scan of a longer buffer stops where the scan of its start does. -/
theorem scan_append {inString : Bool} {level : Int} {start : Nat} {text : Bytes}
    (stops : scan inString level start text ≠ .incomplete) (rest : Bytes) :
    scan inString level start (text ++ rest) = scan inString level start text := by
  induction text generalizing inString level start with
  | nil => contradiction
  | cons c text ih =>
      simp only [scan, List.cons_append] at stops ⊢
      split_ifs at stops ⊢ <;> first | exact ih stops | rfl

/-- Each value that is not null takes something from the buffer. -/
theorem parseJsonFromMsgBuffer_shortens (jsonCpp : JsonCpp) (msgBuffer : Bytes)
    (notNull : (parseJsonFromMsgBuffer jsonCpp msgBuffer).1.isNull = false) :
    (parseJsonFromMsgBuffer jsonCpp msgBuffer).2.length < msgBuffer.length := by
  cases msgBuffer with
  | nil => simp [parseJsonFromMsgBuffer, Value.isNull] at notNull
  | cons first rest =>
      simp only [parseJsonFromMsgBuffer] at notNull ⊢
      split_ifs at notNull ⊢ with other
      · simp
      · cases found : scan false 0 0 (first :: rest) with
        | incomplete => simp [found, Value.isNull] at notNull
        | invalid => simp
        | complete msgPos =>
            simp only
            split_ifs
            · simp
            · simp
            · simp only [List.length_drop, List.length_cons]
              omega

/-- The loop always ends, so more fuel than the buffer is long changes nothing. -/
theorem readMessages_fuel (jsonCpp : JsonCpp) (first second : Nat) (msgBuffer : Bytes)
    (enough : msgBuffer.length < first) (enough' : msgBuffer.length < second) :
    readMessages jsonCpp first msgBuffer = readMessages jsonCpp second msgBuffer := by
  induction first generalizing second msgBuffer with
  | zero => omega
  | succ first ih =>
      obtain ⟨second, rfl⟩ : ∃ count, second = count + 1 := ⟨second - 1, by omega⟩
      have trimmed := trimWhitespace_length_le msgBuffer
      simp only [readMessages]
      split_ifs with empty null
      · rfl
      · rfl
      · have shorter := parseJsonFromMsgBuffer_shortens jsonCpp (trimWhitespace msgBuffer)
          (Bool.not_eq_true _ ▸ null)
        rw [ih second _ (by omega) (by omega)]

/-- The loop without its fuel. -/
def drain (jsonCpp : JsonCpp) (msgBuffer : Bytes) : List Value × Bytes :=
  readMessages jsonCpp (msgBuffer.length + 1) msgBuffer

theorem read_eq_drain (jsonCpp : JsonCpp) (msgBuffer : Bytes) (received : List Bytes) :
    read jsonCpp msgBuffer received = drain jsonCpp (held msgBuffer received) := rfl

theorem drain_empty {jsonCpp : JsonCpp} {msgBuffer : Bytes} (empty : trimWhitespace msgBuffer = []) :
    drain jsonCpp msgBuffer = ([], []) := by
  simp [drain, readMessages, empty]

/-- A null value ends the loop. -/
theorem drain_null {jsonCpp : JsonCpp} {msgBuffer trimmed left : Bytes}
    (trim : trimWhitespace msgBuffer = trimmed) (nonempty : trimmed ≠ [])
    (parsed : parseJsonFromMsgBuffer jsonCpp trimmed = (.nullValue, left)) :
    drain jsonCpp msgBuffer = ([], left) := by
  simp [drain, readMessages, trim, nonempty, parsed, Value.isNull]

/-- Any other value is passed on, and the loop continues. -/
theorem drain_value {jsonCpp : JsonCpp} {msgBuffer trimmed left : Bytes} {json : Value}
    (trim : trimWhitespace msgBuffer = trimmed) (nonempty : trimmed ≠ [])
    (parsed : parseJsonFromMsgBuffer jsonCpp trimmed = (json, left)) (notNull : json.isNull = false) :
    drain jsonCpp msgBuffer = (json :: (drain jsonCpp left).1, (drain jsonCpp left).2) := by
  have shorter := parseJsonFromMsgBuffer_shortens jsonCpp trimmed (by rw [parsed]; exact notNull)
  have trimmedLength := trimWhitespace_length_le msgBuffer
  rw [parsed] at shorter
  rw [trim] at trimmedLength
  change left.length < trimmed.length at shorter
  simp only [drain, readMessages, trim, if_neg nonempty, parsed, notNull]
  rw [readMessages_fuel jsonCpp msgBuffer.length (left.length + 1) left (by omega) (by omega)]
  rfl

end JsonRpc
end Faf
