import FafIceAdapter.JsonRpc.Framing

namespace Faf
open Json Nesting

namespace Json

/-- The bytes between the quotes of a string. -/
def Token.content : Token → Bytes
  | .text content => content
  | _ => []

def contents (tokens : List Token) : Bytes := tokens.flatMap Token.content

/-- The braces of a string that an odd number of quotes precedes. The flag tells whether the strings
before it contain an odd number. -/
def countedInString (odd : Bool) : Bytes → List Bool
  | [] => []
  | c :: content =>
      if c = quote then countedInString (!odd) content
      else if odd ∧ c = openBrace then true :: countedInString odd content
      else if odd ∧ c = closeBrace then false :: countedInString odd content
      else countedInString odd content

/-- A brace of the structure counts after an even number of quotes. -/
def Token.counted (odd : Bool) : Token → List Bool
  | .openBrace => if odd then [] else [true]
  | .closeBrace => if odd then [] else [false]
  | .text content => countedInString odd content
  | _ => []

def counted (odd : Bool) : List Token → List Bool
  | [] => []
  | token :: rest => token.counted odd ++ counted (toggled odd token.content) rest

/-- The strings of an object contain evenly many quotes, and its counted braces are balanced. -/
structure Framed (members : List (Bytes × Value)) : Prop where
  quotes : Even ((contents (Value.tokens.memberTokens members)).count quote)
  balanced : Balanced (counted false (Value.tokens.memberTokens members))

theorem countedInString_eq (odd : Bool) (content : Bytes) :
    countedInString odd content = visible (!odd) content := by
  induction content generalizing odd with
  | nil => rfl
  | cons c content ih =>
      cases odd <;> simp [countedInString, visible, ih]

end Json

namespace JsonCpp

variable (jsonCpp : JsonCpp)

def render (token : Token) : Bytes := token.render jsonCpp.scalarText jsonCpp.escape

/-- The bytes of an object between its outer braces. -/
def inner (members : List (Bytes × Value)) : Bytes :=
  (Value.tokens.memberTokens members).flatMap jsonCpp.render

theorem text_objectValue (members : List (Bytes × Value)) :
    jsonCpp.text (.objectValue members) = openBrace :: (jsonCpp.inner members ++ [closeBrace]) := by
  change List.flatMap jsonCpp.render (.openBrace :: (Value.tokens.memberTokens members ++ [.closeBrace])) = _
  rw [List.flatMap_cons, List.flatMap_append]
  rfl

/-- A token shows its counted braces and toggles the flag as its content does. -/
theorem render_visible (token : Token) (odd : Bool) :
    visible odd (jsonCpp.render token) = token.counted odd ∧
      toggled odd (jsonCpp.render token) = toggled odd token.content := by
  cases token with
  | text content =>
      have marks := jsonCpp.escape_marks content
      have shown : visible (!odd) (jsonCpp.escape content) = visible (!odd) content := by
        rw [← visible_filter, marks, visible_filter]
      have flag : toggled (!odd) (jsonCpp.escape content) = toggled (!odd) content := by
        rw [← toggled_filter, marks, toggled_filter]
      have last (flag : Bool) : visible flag [quote] = [] := by
        cases flag <;> rfl
      have bytes : jsonCpp.render (.text content) = quote :: (jsonCpp.escape content ++ [quote]) := rfl
      rw [bytes, visible, if_pos rfl, visible_append, last, List.append_nil, shown, toggled_cons,
        if_pos rfl, toggled_append, flag, toggled_not, toggled_cons, if_pos rfl, toggled_nil, Bool.not_not]
      exact ⟨(countedInString_eq odd content).symm, rfl⟩
  | scalar value =>
      have plain := visible_plain (fun c member => (jsonCpp.scalarText_plain value c member).1) odd
      exact ⟨plain.1, plain.2.trans (toggled_nil odd).symm⟩
  | _ => cases odd <;> exact ⟨rfl, rfl⟩

/-- The scan sees the counted braces of the tokens. -/
theorem tokens_visible (tokens : List Token) (odd : Bool) :
    visible odd (tokens.flatMap jsonCpp.render) = counted odd tokens ∧
      toggled odd (tokens.flatMap jsonCpp.render) = toggled odd (contents tokens) := by
  induction tokens generalizing odd with
  | nil => exact ⟨rfl, rfl⟩
  | cons token tokens ih =>
      obtain ⟨shown, flag⟩ := jsonCpp.render_visible token odd
      obtain ⟨shownLater, flagLater⟩ := ih (toggled odd token.content)
      have content : contents (token :: tokens) = token.content ++ contents tokens := List.flatMap_cons
      rw [List.flatMap_cons, visible_append, toggled_append, shown, flag, shownLater, flagLater, content,
        toggled_append]
      exact ⟨rfl, rfl⟩

theorem inner_closes_iff (members : List (Bytes × Value)) :
    toggled false (jsonCpp.inner members) = false ∧ Balanced (visible false (jsonCpp.inner members)) ↔
      Framed members := by
  obtain ⟨shown, flag⟩ := jsonCpp.tokens_visible (Value.tokens.memberTokens members) false
  rw [inner, shown, flag, toggled_false]
  constructor
  · intro closes
    exact ⟨closes.1, closes.2⟩
  · intro framed
    exact ⟨framed.1, framed.2⟩

end JsonCpp

namespace JsonRpc

/-- The scan stops at the last brace of an object exactly when the object is framed. -/
theorem scan_text_iff (jsonCpp : JsonCpp) (members : List (Bytes × Value)) (rest : Bytes) :
    scan false 0 0 (jsonCpp.text (.objectValue members) ++ rest) =
        .complete (1 + (jsonCpp.inner members).length) ↔ Framed members := by
  rw [← jsonCpp.inner_closes_iff, ← scan_closes_iff _ rest 1, jsonCpp.text_objectValue]
  simp [scan, show openBrace ≠ quote by decide]

theorem text_length (jsonCpp : JsonCpp) (members : List (Bytes × Value)) :
    (jsonCpp.text (.objectValue members)).length = 1 + (jsonCpp.inner members).length + 1 := by
  rw [jsonCpp.text_objectValue]
  simp only [List.length_cons, List.length_append, List.length_nil]
  omega

/-- A framed object is returned whole, whatever follows it. -/
theorem parse_framed (jsonCpp : JsonCpp) {members : List (Bytes × Value)} (framed : Framed members)
    (inverts : jsonCpp.parse (jsonCpp.text (.objectValue members)) = (true, .objectValue members))
    (rest : Bytes) :
    parseJsonFromMsgBuffer jsonCpp (jsonCpp.text (.objectValue members) ++ rest) =
      (.objectValue members, rest) := by
  have found := (scan_text_iff jsonCpp members rest).mpr framed
  have length := text_length jsonCpp members
  have taken : (jsonCpp.text (.objectValue members) ++ rest).take
      (1 + (jsonCpp.inner members).length + 1) = jsonCpp.text (.objectValue members) := by
    rw [← length, List.take_left]
  have dropped : (jsonCpp.text (.objectValue members) ++ rest).drop
      (1 + (jsonCpp.inner members).length + 1) = rest := by
    rw [← length, List.drop_left]
  obtain ⟨tail, start⟩ : ∃ tail, jsonCpp.text (.objectValue members) ++ rest = openBrace :: tail :=
    ⟨_, by rw [jsonCpp.text_objectValue]; rfl⟩
  rw [start] at found taken dropped ⊢
  simp only [parseJsonFromMsgBuffer, ne_eq, not_true_eq_false, if_false, found, taken, inverts, dropped,
    Bool.not_true, Bool.false_eq_true]
  split_ifs with short
  · have empty := List.drop_eq_nil_of_le short
    rw [dropped] at empty
    rw [empty]
  · rfl

/-- A serialised object is recovered with what follows it exactly when it is framed. -/
theorem parse_write_iff (jsonCpp : JsonCpp) (members : List (Bytes × Value)) (rest : Bytes)
    (inverts : jsonCpp.parse (jsonCpp.text (.objectValue members)) = (true, .objectValue members)) :
    parseJsonFromMsgBuffer jsonCpp (jsonCpp.write (.objectValue members) ++ rest) =
        (.objectValue members, lineFeed :: rest) ↔ Framed members := by
  rw [jsonCpp.write_eq, List.append_assoc, List.singleton_append]
  constructor
  · intro parsed
    rw [← scan_text_iff jsonCpp members (lineFeed :: rest)]
    have length := text_length jsonCpp members
    obtain ⟨tail, start⟩ : ∃ tail, jsonCpp.text (.objectValue members) ++ lineFeed :: rest = openBrace :: tail :=
      ⟨_, by rw [jsonCpp.text_objectValue]; rfl⟩
    have size := congrArg List.length start
    rw [List.length_append, length] at size
    rw [start] at parsed ⊢
    have left := congrArg (fun result => result.2.length) parsed
    simp only [parseJsonFromMsgBuffer, ne_eq, not_true_eq_false, if_false, List.length_cons] at left size ⊢
    cases found : scan false 0 0 (openBrace :: tail) with
    | incomplete =>
        simp only [found, List.length_cons] at left
        omega
    | invalid => simp [found] at left
    | complete msgPos =>
        have inside := scan_complete_lt found
        simp only [found] at left
        split_ifs at left
        simp only [List.length_drop, List.length_cons] at left inside
        rw [Scan.complete.injEq]
        omega
  · intro framed
    exact parse_framed jsonCpp framed inverts (lineFeed :: rest)

/-- A nested object and a string with two quotes around a brace. -/
theorem parse_write_nested :
    parseJsonFromMsgBuffer (Sample.jsonCpp fun _ => (true, .objectValue
        [(bytes "a", .objectValue []), (bytes "b", .stringValue (bytes "\"x\""))]))
      (bytes "\x7b\"a\":\x7b\x7d,\"b\":\"\\\"x\\\"\"\x7d\n" ++ bytes " ") =
    (.objectValue [(bytes "a", .objectValue []), (bytes "b", .stringValue (bytes "\"x\""))],
      bytes "\n ") := by
  have framed : Framed [(bytes "a", .objectValue []), (bytes "b", .stringValue (bytes "\"x\""))] :=
    ⟨by decide, balanced_wrap balanced_nil⟩
  exact (parse_write_iff (Sample.jsonCpp fun _ => (true, .objectValue
    [(bytes "a", .objectValue []), (bytes "b", .stringValue (bytes "\"x\""))])) _ (bytes " ") rfl).mpr framed

/-- The quote in a string keeps the scan from finding the end of the object. -/
theorem parse_write_quote : ¬ ∀ (jsonCpp : JsonCpp) (members : List (Bytes × Value)) (rest : Bytes),
    jsonCpp.parse (jsonCpp.text (.objectValue members)) = (true, .objectValue members) →
    parseJsonFromMsgBuffer jsonCpp (jsonCpp.write (.objectValue members) ++ rest) =
      (.objectValue members, lineFeed :: rest) := by
  intro claim
  have parsed := claim (Sample.jsonCpp fun _ => (true, .objectValue [(bytes "a", .stringValue [quote])]))
    [(bytes "a", .stringValue [quote])] [] rfl
  have found : parseJsonFromMsgBuffer
      (Sample.jsonCpp fun _ => (true, .objectValue [(bytes "a", .stringValue [quote])]))
      ((Sample.jsonCpp fun _ => (true, .objectValue [(bytes "a", .stringValue [quote])])).write
        (.objectValue [(bytes "a", .stringValue [quote])]) ++ []) =
      (.nullValue, bytes "\x7b\"a\":\"\\\"\"\x7d\n") := rfl
  have value := congrArg (fun result => result.1.isNull) (found.symm.trans parsed)
  contradiction

end JsonRpc
end Faf
