import FafIceAdapter.JsonRpc.Framing
import FafIceAdapter.JsonRpc.Processing

namespace Faf
open Json Nesting

namespace JsonRpc

/-- A call of `Reader::parse` with what it returns and leaves in its output. -/
structure ParseCall where
  text : Bytes
  success : Bool
  result : Value

/-- The value that is returned, the buffer that is left, and the call of `Reader::parse` if there was one. -/
def parseRecorded (jsonCpp : JsonCpp) (msgBuffer : Bytes) : Value × Bytes × Option ParseCall :=
  match msgBuffer with
  | [] => (.nullValue, [], none)
  | first :: _ =>
      if first ≠ openBrace then (.nullValue, [], none)
      else
        match scan false 0 0 msgBuffer with
        | .incomplete => (.nullValue, msgBuffer, none)
        | .invalid => (.nullValue, [], none)
        | .complete msgPos =>
            let text := msgBuffer.take (msgPos + 1)
            let (success, result) := jsonCpp.parse text
            if !success then (result, [], some ⟨text, success, result⟩)
            else if msgBuffer.length ≤ msgPos + 1 then (result, [], some ⟨text, success, result⟩)
            else (result, msgBuffer.drop (msgPos + 1), some ⟨text, success, result⟩)

/-- The second loop of a read event. Each value that is passed on comes with its call of `Reader::parse`. -/
def readRecorded (jsonCpp : JsonCpp) : Nat → Bytes → List (Value × Option ParseCall) × Bytes
  | 0, msgBuffer => ([], msgBuffer)
  | fuel + 1, msgBuffer =>
      let msgBuffer := trimWhitespace msgBuffer
      if msgBuffer = [] then ([], [])
      else
        let (json, msgBuffer, call) := parseRecorded jsonCpp msgBuffer
        if json.isNull then ([], msgBuffer)
        else
          let (later, msgBuffer) := readRecorded jsonCpp fuel msgBuffer
          ((json, call) :: later, msgBuffer)

/-- The values that a read event passes on. -/
def passedOn (jsonCpp : JsonCpp) (msgBuffer : Bytes) (received : List Bytes) : List (Value × Option ParseCall) :=
  (readRecorded jsonCpp ((held msgBuffer received).length + 1) (held msgBuffer received)).1

/-- A value is the result of a call of `Reader::parse` that returned true. -/
def Parsed (entry : Value × Option ParseCall) : Prop := ∃ text, entry.2 = some ⟨text, true, entry.1⟩

/-- A text from a brace to the one that closes it, when every quote starts or ends a string. -/
def Closed (object : Bytes) : Prop :=
  ∃ inner, object = openBrace :: (inner ++ [closeBrace]) ∧ toggled false inner = false ∧
    Balanced (visible false inner)

/-- What follows closed texts that are parsed. -/
inductive Later (jsonCpp : JsonCpp) : Bytes → Bytes → Prop
  | start (msgBuffer : Bytes) : Later jsonCpp msgBuffer msgBuffer
  | next {msgBuffer object rest last : Bytes} {json : Value} (trimmed : trimWhitespace msgBuffer = object ++ rest)
      (closed : Closed object) (parsed : jsonCpp.parse object = (true, json)) (notNull : json.isNull = false)
      (later : Later jsonCpp rest last) : Later jsonCpp msgBuffer last

/-- A closed text is not parsed but leaves a value. -/
def Rejected (jsonCpp : JsonCpp) (msgBuffer : Bytes) : Prop :=
  ∃ (last object rest : Bytes) (json : Value), Later jsonCpp msgBuffer last ∧ trimWhitespace last = object ++ rest ∧
    Closed object ∧ jsonCpp.parse object = (false, json) ∧ json.isNull = false

/-- The recorded calls change nothing. -/
theorem parseRecorded_eq (jsonCpp : JsonCpp) (msgBuffer : Bytes) :
    ((parseRecorded jsonCpp msgBuffer).1, (parseRecorded jsonCpp msgBuffer).2.1) =
      parseJsonFromMsgBuffer jsonCpp msgBuffer := by
  cases msgBuffer with
  | nil => rfl
  | cons first rest =>
      simp only [parseRecorded, parseJsonFromMsgBuffer]
      split_ifs
      · rfl
      · cases scan false 0 0 (first :: rest) with
        | complete msgPos =>
            simp only
            split_ifs <;> rfl
        | _ => rfl

theorem readRecorded_eq (jsonCpp : JsonCpp) (fuel : Nat) (msgBuffer : Bytes) :
    ((readRecorded jsonCpp fuel msgBuffer).1.map Prod.fst, (readRecorded jsonCpp fuel msgBuffer).2) =
      readMessages jsonCpp fuel msgBuffer := by
  induction fuel generalizing msgBuffer with
  | zero => rfl
  | succ fuel ih =>
      have parsed := parseRecorded_eq jsonCpp (trimWhitespace msgBuffer)
      simp only [readRecorded, readMessages, ← parsed]
      split_ifs
      · rfl
      · rfl
      · rw [← ih]
        rfl

/-- The values that are passed on are those of the read event. -/
theorem passedOn_eq (jsonCpp : JsonCpp) (msgBuffer : Bytes) (received : List Bytes) :
    (passedOn jsonCpp msgBuffer received).map Prod.fst = (read jsonCpp msgBuffer received).1 :=
  congrArg Prod.fst (readRecorded_eq jsonCpp _ _)

/-- The scan stops at a closing brace. -/
theorem scan_complete_brace {inString : Bool} {level : Int} {start msgPos : Nat} {text : Bytes}
    (found : scan inString level start text = .complete msgPos) :
    ∃ before after, text = before ++ closeBrace :: after ∧ msgPos = start + before.length := by
  induction text generalizing inString level start with
  | nil => contradiction
  | cons c rest ih =>
      have later {flag : Bool} {level : Int} (found : scan flag level (start + 1) rest = .complete msgPos) :
          ∃ before after, c :: rest = before ++ closeBrace :: after ∧ msgPos = start + before.length := by
        obtain ⟨before, after, rfl, place⟩ := ih found
        refine ⟨c :: before, after, rfl, ?_⟩
        rw [List.length_cons]
        omega
      have here (same : c = closeBrace) (found : Scan.complete start = .complete msgPos) :
          ∃ before after, c :: rest = before ++ closeBrace :: after ∧ msgPos = start + before.length := by
        obtain rfl := Scan.complete.inj found
        exact ⟨[], rest, by rw [same]; rfl, rfl⟩
      simp only [scan] at found
      split_ifs at found <;> first | exact later found | exact here ‹_› found

theorem scan_openBrace (rest : Bytes) : scan false 0 0 (openBrace :: rest) = scan false 1 1 rest := rfl

/-- The scan finds the end of a closed text. -/
theorem Closed.scan {object : Bytes} (closed : Closed object) (rest : Bytes) :
    ∃ msgPos, object.length = msgPos + 1 ∧ JsonRpc.scan false 0 0 (object ++ rest) = .complete msgPos := by
  obtain ⟨inner, rfl, even, balanced⟩ := closed
  refine ⟨1 + inner.length, by simp; omega, ?_⟩
  have found := (scan_closes_iff inner rest 1).mpr ⟨even, balanced⟩
  rw [List.cons_append, List.append_assoc, List.singleton_append, scan_openBrace]
  exact found

/-- What the scan finds the end of is closed. -/
theorem closed_of_scan {msgBuffer : Bytes} {msgPos : Nat}
    (found : scan false 0 0 (openBrace :: msgBuffer) = .complete msgPos) :
    ∃ object rest, openBrace :: msgBuffer = object ++ rest ∧ Closed object ∧ object.length = msgPos + 1 := by
  rw [scan_openBrace] at found
  obtain ⟨before, after, rfl, place⟩ := scan_complete_brace found
  rw [place] at found
  obtain ⟨even, balanced⟩ := (scan_closes_iff before after 1).mp found
  exact ⟨openBrace :: (before ++ [closeBrace]), after, by simp, ⟨before, rfl, even, balanced⟩, by simp; omega⟩

/-- A closed text at the start of the buffer is given to the reader. -/
theorem parseRecorded_closed {jsonCpp : JsonCpp} {object : Bytes} (closed : Closed object) (rest : Bytes)
    {success : Bool} {json : Value} (parsed : jsonCpp.parse object = (success, json)) :
    parseRecorded jsonCpp (object ++ rest) =
      (json, if success then rest else [], some ⟨object, success, json⟩) := by
  obtain ⟨msgPos, size, found⟩ := closed.scan rest
  obtain ⟨inner, same, _⟩ := closed
  have starts : object ++ rest = openBrace :: (inner ++ [closeBrace] ++ rest) := by
    rw [same]
    rfl
  have text : (object ++ rest).take (msgPos + 1) = object := by
    rw [← size, List.take_left]
  have left : (object ++ rest).drop (msgPos + 1) = rest := by
    rw [← size, List.drop_left]
  rw [starts] at found text left ⊢
  simp only [parseRecorded, ne_eq, not_true_eq_false, if_false, found, text, left, parsed]
  cases success with
  | false => rfl
  | true =>
      simp only [Bool.not_true, Bool.false_eq_true, if_false, if_true]
      split_ifs with short
      · have none : rest = [] := by
          rw [← starts, List.length_append, size] at short
          exact List.length_eq_zero_iff.mp (by omega)
        rw [none]
      · rfl

/-- A value that is returned is what the reader made of a closed text. -/
theorem closed_of_parseRecorded {jsonCpp : JsonCpp} {msgBuffer : Bytes}
    (notNull : (parseRecorded jsonCpp msgBuffer).1.isNull = false) :
    ∃ object rest, msgBuffer = object ++ rest ∧ Closed object := by
  cases msgBuffer with
  | nil => contradiction
  | cons first rest =>
      simp only [parseRecorded] at notNull
      split_ifs at notNull with other
      · contradiction
      · obtain rfl := not_not.mp other
        cases found : scan false 0 0 (openBrace :: rest) with
        | complete msgPos =>
            obtain ⟨object, after, split, closed, _⟩ := closed_of_scan found
            exact ⟨object, after, split, closed⟩
        | _ =>
            rw [found] at notNull
            contradiction

theorem Closed.length_pos {object : Bytes} (closed : Closed object) : 0 < object.length := by
  obtain ⟨inner, rfl, _⟩ := closed
  exact Nat.succ_pos _

/-- A buffer starts with at most one closed text. -/
theorem Closed.unique {first second rest rest' : Bytes} (closed : Closed first) (closed' : Closed second)
    (same : first ++ rest = second ++ rest') : first = second ∧ rest = rest' := by
  obtain ⟨msgPos, size, found⟩ := closed.scan rest
  obtain ⟨msgPos', size', found'⟩ := closed'.scan rest'
  rw [same, found'] at found
  obtain rfl := Scan.complete.inj found
  exact List.append_inj same (size.trans size'.symm)

section Front

variable {jsonCpp : JsonCpp} {msgBuffer object rest : Bytes} {success : Bool} {json : Value}

/-- A buffer is rejected at its first closed text or behind it. -/
theorem rejected_iff (trimmed : trimWhitespace msgBuffer = object ++ rest) (closed : Closed object)
    (parsed : jsonCpp.parse object = (success, json)) :
    Rejected jsonCpp msgBuffer ↔ json.isNull = false ∧ (success = true → Rejected jsonCpp rest) := by
  constructor
  · rintro ⟨last, object', rest', json', later, trimmed', closed', failed, notNull⟩
    cases later with
    | start =>
        obtain ⟨rfl, rfl⟩ := closed.unique closed' (trimmed.symm.trans trimmed')
        obtain ⟨rfl, rfl⟩ := Prod.mk.inj (parsed.symm.trans failed)
        exact ⟨notNull, fun contrary => absurd contrary Bool.false_ne_true⟩
    | next split closed₁ parsed₁ notNull₁ later =>
        obtain ⟨rfl, rfl⟩ := closed.unique closed₁ (trimmed.symm.trans split)
        obtain ⟨rfl, rfl⟩ := Prod.mk.inj (parsed.symm.trans parsed₁)
        exact ⟨notNull₁, fun _ => ⟨last, object', rest', json', later, trimmed', closed', failed, notNull⟩⟩
  · rintro ⟨notNull, behind⟩
    cases success with
    | false => exact ⟨msgBuffer, object, rest, json, .start msgBuffer, trimmed, closed, parsed, notNull⟩
    | true =>
        obtain ⟨last, object', rest', json', later, rejected⟩ := behind rfl
        exact ⟨last, object', rest', json', .next trimmed closed parsed notNull later, rejected⟩

theorem not_rejected (unclosed : ¬ ∃ object rest, trimWhitespace msgBuffer = object ++ rest ∧ Closed object) :
    ¬ Rejected jsonCpp msgBuffer := by
  rintro ⟨last, object, rest, json, later, trimmed, closed, _⟩
  cases later with
  | start => exact unclosed ⟨object, rest, trimmed, closed⟩
  | next split closed' => exact unclosed ⟨_, _, split, closed'⟩

/-- The loop at a closed text. -/
theorem readRecorded_closed (fuel : Nat) (trimmed : trimWhitespace msgBuffer = object ++ rest)
    (closed : Closed object) (parsed : jsonCpp.parse object = (success, json)) :
    (readRecorded jsonCpp (fuel + 1) msgBuffer).1 =
      if json.isNull then []
      else (json, some ⟨object, success, json⟩) ::
        (readRecorded jsonCpp fuel (if success then rest else [])).1 := by
  have some : object ++ rest ≠ [] := by
    intro empty
    have size := congrArg List.length empty
    have positive := closed.length_pos
    rw [List.length_append, List.length_nil] at size
    omega
  simp only [readRecorded, trimmed, if_neg some, parseRecorded_closed closed rest parsed]
  split <;> rfl

/-- The loop where no text is closed. -/
theorem readRecorded_open (fuel : Nat)
    (unclosed : ¬ ∃ object rest, trimWhitespace msgBuffer = object ++ rest ∧ Closed object) :
    (readRecorded jsonCpp (fuel + 1) msgBuffer).1 = [] := by
  have null : (parseRecorded jsonCpp (trimWhitespace msgBuffer)).1.isNull = true := by
    by_contra notNull
    exact unclosed (closed_of_parseRecorded (Bool.not_eq_true _ ▸ notNull))
  simp only [readRecorded, null]
  split <;> rfl

end Front

/-- The loop acts on parsed values only, exactly when no closed text is rejected. -/
theorem readRecorded_parsed_iff (jsonCpp : JsonCpp) {fuel : Nat} {msgBuffer : Bytes}
    (enough : msgBuffer.length < fuel) :
    (∀ entry ∈ (readRecorded jsonCpp fuel msgBuffer).1, Parsed entry) ↔ ¬ Rejected jsonCpp msgBuffer := by
  induction fuel generalizing msgBuffer with
  | zero => omega
  | succ fuel ih =>
      by_cases front : ∃ object rest, trimWhitespace msgBuffer = object ++ rest ∧ Closed object
      · obtain ⟨object, rest, trimmed, closed⟩ := front
        obtain ⟨success, json, parsed⟩ : ∃ success json, jsonCpp.parse object = (success, json) := ⟨_, _, rfl⟩
        have shorter : rest.length < fuel := by
          have size := trimWhitespace_length_le msgBuffer
          have positive := closed.length_pos
          rw [trimmed, List.length_append] at size
          omega
        rw [readRecorded_closed fuel trimmed closed parsed, rejected_iff trimmed closed parsed]
        cases null : json.isNull with
        | true => simp
        | false =>
            cases success with
            | false => simp [Parsed]
            | true => simp [Parsed, ← ih shorter]
      · rw [readRecorded_open fuel front]
        exact iff_of_true (List.forall_mem_nil _) (not_rejected front)

/-- A read event acts on parsed values only, exactly when no closed text behind parsed ones is rejected with a value
left in the output. -/
theorem passedOn_parsed_iff (jsonCpp : JsonCpp) (msgBuffer : Bytes) (received : List Bytes) :
    (∀ entry ∈ passedOn jsonCpp msgBuffer received, Parsed entry) ↔
      ¬ Rejected jsonCpp (held msgBuffer received) :=
  readRecorded_parsed_iff jsonCpp (Nat.lt_succ_self _)

/-- A stray token follows the method. -/
def strayText : Bytes := bytes "\x7b\"method\":\"quit\" x\x7d"

/-- The reader leaves the method that it has read before the token. -/
def strayJson : JsonCpp := Sample.jsonCpp fun text =>
  (false, if text = strayText then .objectValue [(bytes "method", .stringValue (bytes "quit"))] else .nullValue)

theorem passedOn_stray : ¬ ∀ (jsonCpp : JsonCpp) (msgBuffer : Bytes) (received : List Bytes),
    ∀ entry ∈ passedOn jsonCpp msgBuffer received, Parsed entry := by
  intro claim
  have passed : passedOn strayJson [] [strayText] = [(.objectValue [(bytes "method", .stringValue (bytes "quit"))],
      some ⟨strayText, false, .objectValue [(bytes "method", .stringValue (bytes "quit"))]⟩)] := rfl
  have parsed := claim strayJson [] [strayText]
  rw [passed] at parsed
  obtain ⟨text, call⟩ := parsed _ List.mem_cons_self
  exact absurd (congrArg ParseCall.success (Option.some.inj call)) Bool.false_ne_true

end JsonRpc
end Faf
