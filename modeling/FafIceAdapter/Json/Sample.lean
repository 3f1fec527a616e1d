import FafIceAdapter.Json.Value

namespace Faf.Json.Sample

/-! A plain jsoncpp, on which concrete statements are evaluated. -/

def asInt (value : Value) : Except Exception Int :=
  match value.integer with
  | some number => if FitsInt32 number then .ok number else .error ⟨"out of Int range"⟩
  | none => .error ⟨"not convertible to Int"⟩

def asString : Value → Except Exception Bytes
  | .nullValue => .ok []
  | .stringValue content => .ok content
  | .booleanValue value => .ok (bytes (if value then "true" else "false"))
  | .intValue value => .ok (decimal value)
  | .uintValue value => .ok (decimal value)
  | _ => .error ⟨"not convertible to string"⟩

/-- A whole real ends in a zero fraction. -/
def scalarText : Value → Bytes
  | .nullValue => bytes "null"
  | .booleanValue value => bytes (if value then "true" else "false")
  | .intValue value => decimal value
  | .uintValue value => decimal value
  | .realValue value => decimal value.floor ++ bytes ".0"
  | _ => []

def escapeByte (byte : UInt8) : Bytes :=
  if byte = quote ∨ byte = backslash then [backslash, byte]
  else if byte = lineFeed then [backslash, 0x6E]
  else [byte]

/-- The bytes from the hash sign to the last letter are neither marks nor whitespace. -/
theorem plain_of_bounds (byte : UInt8) (low : 35 ≤ byte.toNat) (high : byte.toNat ≤ 122) :
    isMark byte = false ∧ byte ∉ whitespace := by
  have different (other : UInt8) (outside : other.toNat < 35 ∨ 122 < other.toNat) : byte ≠ other := by
    intro same
    subst same
    omega
  constructor
  · simp [isMark, different quote (by decide), different openBrace (by decide),
      different closeBrace (by decide)]
  · simp [whitespace, different 0x20 (by decide), different 0x09 (by decide),
      different 0x0C (by decide), different 0x0B (by decide), different 0x0A (by decide),
      different 0x0D (by decide)]

theorem decimal_plain (value : Int) :
    ∀ byte ∈ decimal value, isMark byte = false ∧ byte ∉ whitespace := by
  intro byte member
  rcases List.mem_append.mp member with sign | digit
  · split at sign
    · rw [List.mem_singleton.mp sign]
      decide
    · contradiction
  · obtain ⟨char, inside, rfl⟩ := List.mem_map.mp digit
    have digits := Nat.isDigit_of_mem_toDigits (by decide) (by decide) inside
    rw [Char.isDigit, Bool.and_eq_true, decide_eq_true_eq, decide_eq_true_eq] at digits
    have low : 48 ≤ char.toNat := digits.1
    have high : char.toNat ≤ 57 := digits.2
    have kept : (UInt8.ofNat char.toNat).toNat = char.toNat := by
      rw [UInt8.toNat_ofNat']
      omega
    exact plain_of_bounds _ (by omega) (by omega)

theorem literal_plain (text : String)
    (within : ∀ char ∈ text.toList, 35 ≤ char.toNat ∧ char.toNat ≤ 122) :
    ∀ byte ∈ bytes text, isMark byte = false ∧ byte ∉ whitespace := by
  intro byte member
  obtain ⟨char, inside, rfl⟩ := List.mem_map.mp member
  have bounds := within char inside
  have kept : (UInt8.ofNat char.toNat).toNat = char.toNat := by
    rw [UInt8.toNat_ofNat']
    omega
  exact plain_of_bounds _ (by omega) (by omega)

theorem scalarText_plain (value : Value) :
    ∀ byte ∈ scalarText value, isMark byte = false ∧ byte ∉ whitespace := by
  cases value with
  | nullValue => exact literal_plain "null" (by simp)
  | booleanValue value => cases value <;> exact literal_plain _ (by simp)
  | intValue value => exact decimal_plain value
  | uintValue value => exact decimal_plain value
  | realValue value =>
      intro byte member
      rcases List.mem_append.mp member with whole | fraction
      · exact decimal_plain _ byte whole
      · exact literal_plain ".0" (by simp) byte fraction
  | _ => simp [scalarText]

theorem escape_marks (content : Bytes) :
    (content.flatMap escapeByte).filter isMark = content.filter isMark := by
  induction content with
  | nil => rfl
  | cons byte rest ih =>
      have kept : (escapeByte byte).filter isMark = [byte].filter isMark := by
        unfold escapeByte
        split
        · simp [show isMark backslash = false from rfl]
        · split
          · rename_i feed
            rw [feed]
            rfl
          · rfl
      rw [List.flatMap_cons, List.filter_append, kept, ih, ← List.filter_append]
      rfl

/-- The sample takes the results of its reader as an argument. -/
def jsonCpp (parse : Bytes → Bool × Value) : JsonCpp where
  asInt := asInt
  asString := asString
  scalarText := scalarText
  escape content := content.flatMap escapeByte
  write value := value.tokens.flatMap (Token.render scalarText fun content => content.flatMap escapeByte) ++
    [lineFeed]
  parse := parse
  asInt_fits value number same fits := by simp only [asInt, same, if_pos fits]
  asInt_wide value number same wide := ⟨_, by simp only [asInt, same, if_neg wide]; rfl⟩
  asString_string _ := rfl
  scalarText_plain := scalarText_plain
  escape_marks := escape_marks
  write_tokens _ := rfl

end Faf.Json.Sample
