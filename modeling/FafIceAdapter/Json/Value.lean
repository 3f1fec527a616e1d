import Mathlib.Data.Rat.Defs
import Mathlib.Tactic

namespace Faf

/-- A `std::string` is a sequence of bytes. -/
abbrev Bytes := List UInt8

/-- The bytes of an ASCII literal. -/
def bytes (text : String) : Bytes := text.toList.map fun char => UInt8.ofNat char.toNat

def quote : UInt8 := 0x22
def backslash : UInt8 := 0x5C
def openBrace : UInt8 := 0x7B
def closeBrace : UInt8 := 0x7D
def lineFeed : UInt8 := 0x0A

/-- The characters of `" \t\f\v\n\r"` in `trim_whitespace`. -/
def whitespace : Bytes := [0x20, 0x09, 0x0C, 0x0B, 0x0A, 0x0D]

/-- The range of `int` and `int32_t`. -/
def FitsInt32 (value : Int) : Prop := -2 ^ 31 ≤ value ∧ value < 2 ^ 31

instance (value : Int) : Decidable (FitsInt32 value) := inferInstanceAs (Decidable (_ ∧ _))

/-- A `std::exception` carries the text of its `what()`. -/
structure Exception where
  what : String

namespace Json

/-- The kinds of `Json::Value`. A real is the rational that its finite double denotes, and
an object lists its members in the order of the underlying map. -/
inductive Value where
  | nullValue
  | intValue (value : Int)
  | uintValue (value : Nat)
  | realValue (value : ℚ)
  | stringValue (value : Bytes)
  | booleanValue (value : Bool)
  | arrayValue (elements : List Value)
  | objectValue (members : List (Bytes × Value))

namespace Value

def isNull : Value → Bool
  | nullValue => true
  | _ => false

def isObject : Value → Bool
  | objectValue _ => true
  | _ => false

/-- The elements that `size()` counts and the index operator reads. -/
def elements : Value → List Value
  | arrayValue elements => elements
  | _ => []

def isArray : Value → Bool
  | arrayValue _ => true
  | _ => false

def isString : Value → Bool
  | stringValue _ => true
  | _ => false

/-- The member of an object, or null when it has none of that name. -/
def member (name : Bytes) : Value → Value
  | objectValue members => (members.lookup name).getD nullValue
  | _ => nullValue

/-- The integer that an integral value or a boolean stands for. -/
def integer : Value → Option Int
  | intValue value => some value
  | uintValue value => some value
  | booleanValue value => some (if value then 1 else 0)
  | _ => none

end Value

/-- The lexical units of a JSON text. A scalar is a null, a number or a boolean. -/
inductive Token where
  | openBrace
  | closeBrace
  | openBracket
  | closeBracket
  | colon
  | comma
  | text (content : Bytes)
  | scalar (value : Value)

/-- The units of a serialised value in document order. -/
def Value.tokens : Value → List Token
  | .objectValue members => .openBrace :: (memberTokens members ++ [.closeBrace])
  | .arrayValue elements => .openBracket :: (elementTokens elements ++ [.closeBracket])
  | .stringValue content => [.text content]
  | scalar => [.scalar scalar]
where
  memberTokens : List (Bytes × Value) → List Token
    | [] => []
    | [(name, value)] => .text name :: .colon :: value.tokens
    | (name, value) :: next :: rest =>
        .text name :: .colon :: (value.tokens ++ .comma :: memberTokens (next :: rest))
  elementTokens : List Value → List Token
    | [] => []
    | [value] => value.tokens
    | value :: next :: rest => value.tokens ++ .comma :: elementTokens (next :: rest)

/-- The bytes of one unit. No whitespace separates the units. -/
def Token.render (scalarText : Value → Bytes) (escape : Bytes → Bytes) : Token → Bytes
  | .openBrace => [Faf.openBrace]
  | .closeBrace => [Faf.closeBrace]
  | .openBracket => [0x5B]
  | .closeBracket => [0x5D]
  | .colon => [0x3A]
  | .comma => [0x2C]
  | .text content => quote :: (escape content ++ [quote])
  | .scalar value => scalarText value

/-- A quote or a brace. -/
def isMark (byte : UInt8) : Bool := byte == quote || byte == openBrace || byte == closeBrace

end Json

open Json

/-- The part of jsoncpp that the adapter calls, with the behaviour that it documents.
`scalarText` and `escape` give what `FastWriter` prints for a scalar and between the quotes of a
string. `parse` gives the result of `Reader::parse` and the value that it leaves in its output. -/
structure JsonCpp where
  asInt : Value → Except Exception Int
  asString : Value → Except Exception Bytes
  scalarText : Value → Bytes
  escape : Bytes → Bytes
  write : Value → Bytes
  parse : Bytes → Bool × Value
  asInt_fits : ∀ value number, value.integer = some number → FitsInt32 number →
    asInt value = .ok number
  asInt_wide : ∀ value number, value.integer = some number → ¬ FitsInt32 number →
    ∃ exception, asInt value = .error exception
  asString_string : ∀ content, asString (.stringValue content) = .ok content
  scalarText_plain : ∀ value, ∀ byte ∈ scalarText value, isMark byte = false ∧ byte ∉ whitespace
  escape_marks : ∀ content, (escape content).filter isMark = content.filter isMark
  write_tokens : ∀ value,
    write value = value.tokens.flatMap (Token.render scalarText escape) ++ [lineFeed]

/-- The serialised text of a value without the final line feed of `FastWriter`. -/
def JsonCpp.text (jsonCpp : JsonCpp) (value : Value) : Bytes :=
  value.tokens.flatMap (Token.render jsonCpp.scalarText jsonCpp.escape)

theorem JsonCpp.write_eq (jsonCpp : JsonCpp) (value : Value) :
    jsonCpp.write value = jsonCpp.text value ++ [lineFeed] := jsonCpp.write_tokens value

/-- The text of `std::to_string`. -/
def decimal (value : Int) : Bytes :=
  (if value < 0 then [0x2D] else []) ++
    (Nat.toDigits 10 value.natAbs).map fun digit => UInt8.ofNat digit.toNat

end Faf
