import FafIceAdapter.JsonRpc.Objects

namespace Faf
open Json Nesting

namespace Json

/-- No string of the tokens contains a quote. -/
def QuoteFree (tokens : List Token) : Prop := ∀ content, .text content ∈ tokens → quote ∉ content

def Token.brace : Token → List Bool
  | .openBrace => [true]
  | .closeBrace => [false]
  | _ => []

mutual

/-- The structure of a value closes every brace that it opens. -/
theorem tokens_balanced : ∀ value : Value, Balanced (value.tokens.flatMap Token.brace)
  | .objectValue members => by
      have inside := memberTokens_balanced members
      rw [Value.tokens, List.flatMap_cons, List.flatMap_append]
      exact balanced_wrap inside
  | .arrayValue elements => by
      have inside := elementTokens_balanced elements
      rw [Value.tokens, List.flatMap_cons, List.flatMap_append]
      simpa [Token.brace] using inside
  | .nullValue | .intValue _ | .uintValue _ | .realValue _ | .booleanValue _ | .stringValue _ => balanced_nil

theorem memberTokens_balanced : ∀ members : List (Bytes × Value),
    Balanced ((Value.tokens.memberTokens members).flatMap Token.brace)
  | [] => balanced_nil
  | [(_, value)] => tokens_balanced value
  | (_, value) :: next :: rest => by
      have first := tokens_balanced value
      have others := memberTokens_balanced (next :: rest)
      have both := balanced_append first others
      simpa [Value.tokens.memberTokens, Token.brace] using both

theorem elementTokens_balanced : ∀ elements : List Value,
    Balanced ((Value.tokens.elementTokens elements).flatMap Token.brace)
  | [] => balanced_nil
  | [value] => tokens_balanced value
  | value :: next :: rest => by
      have first := tokens_balanced value
      have others := elementTokens_balanced (next :: rest)
      have both := balanced_append first others
      simpa [Value.tokens.elementTokens, Token.brace] using both

end

theorem countedInString_even {content : Bytes} (quoteFree : quote ∉ content) :
    countedInString false content = [] := by
  induction content with
  | nil => rfl
  | cons c content ih =>
      obtain ⟨other, later⟩ := not_or.mp (mt List.mem_cons.mpr quoteFree)
      simp [countedInString, Ne.symm other, ih later]

/-- Without quotes only the braces of the structure count. -/
theorem counted_quoteFree {tokens : List Token} (quoteFree : QuoteFree tokens) :
    counted false tokens = tokens.flatMap Token.brace ∧ (contents tokens).count quote = 0 := by
  induction tokens with
  | nil => exact ⟨rfl, rfl⟩
  | cons token tokens ih =>
      obtain ⟨later, none⟩ := ih fun content member => quoteFree content (List.mem_cons_of_mem token member)
      have here : token.counted false = token.brace ∧ token.content.count quote = 0 := by
        cases token with
        | text content =>
            have absent := quoteFree content List.mem_cons_self
            exact ⟨countedInString_even absent, List.count_eq_zero.mpr absent⟩
        | _ => exact ⟨rfl, rfl⟩
      have flag : toggled false token.content = false := by
        rw [toggled_false, here.2]
        exact ⟨0, rfl⟩
      have content : contents (token :: tokens) = token.content ++ contents tokens := List.flatMap_cons
      rw [counted, flag, later, here.1, content, List.count_append, here.2, none, List.flatMap_cons]
      exact ⟨rfl, rfl⟩

/-- Every object without quotes in its strings is framed. -/
theorem framed_of_quoteFree {members : List (Bytes × Value)}
    (quoteFree : QuoteFree (Value.tokens.memberTokens members)) : Framed members := by
  obtain ⟨structural, none⟩ := counted_quoteFree quoteFree
  refine ⟨by rw [none]; exact ⟨0, rfl⟩, ?_⟩
  rw [structural]
  exact memberTokens_balanced members

end Json

/-- Whitespace in a text appears only where a string is open. -/
def Shielded (text : Bytes) : Prop :=
  Even (text.count quote) ∧
    ∀ part c, part ++ [c] <+: text → Even ((part ++ [c]).count quote) → c ∉ whitespace

theorem shielded_nil : Shielded [] :=
  ⟨⟨0, rfl⟩, fun part c within => absurd (List.prefix_nil.mp within) (by simp)⟩

theorem shielded_append {first second : Bytes} (start : Shielded first) (continued : Shielded second) :
    Shielded (first ++ second) := by
  refine ⟨by rw [List.count_append]; exact start.1.add continued.1, ?_⟩
  intro part c within even
  rcases Sequence.prefix_append_cases within with ⟨inside, _⟩ | ⟨tail, same, inside⟩
  · exact start.2 part c inside even
  · rcases List.eq_nil_or_concat' tail with rfl | ⟨tail, last, rfl⟩
    · rw [List.append_nil] at same
      exact start.2 part c (same ▸ List.prefix_refl _) even
    · rw [← List.append_assoc] at same
      obtain ⟨rfl, lasts⟩ := List.append_inj' same rfl
      obtain rfl := List.singleton_injective lasts
      rw [List.append_assoc, List.count_append] at even
      exact continued.2 tail c inside ((Nat.even_add.mp even).mp start.1)

/-- A text without quotes and whitespace has nothing to shield. -/
theorem shielded_plain {text : Bytes} (plain : ∀ c ∈ text, c ≠ quote ∧ c ∉ whitespace) : Shielded text := by
  constructor
  · rw [List.count_eq_zero.mpr fun member => (plain quote member).1 rfl]
    exact ⟨0, rfl⟩
  · intro part c within _
    exact (plain c (within.subset (by simp))).2

theorem shielded_single {c : UInt8} (other : c ≠ quote) (solid : c ∉ whitespace) : Shielded [c] :=
  shielded_plain fun _ member => List.mem_singleton.mp member ▸ ⟨other, solid⟩

/-- A quoted text shields everything in it. -/
theorem shielded_quoted {text : Bytes} (quoteFree : quote ∉ text) : Shielded (quote :: (text ++ [quote])) := by
  have none := List.count_eq_zero.mpr quoteFree
  constructor
  · simp [none]
  · intro part c within even
    cases part with
    | nil =>
        obtain ⟨rfl, _⟩ := List.cons_prefix_cons.mp within
        decide
    | cons first part =>
        obtain ⟨rfl, inside⟩ := List.cons_prefix_cons.mp within
        rcases List.prefix_concat_iff.mp inside with whole | inner
        · obtain ⟨_, lasts⟩ := List.append_inj' whole rfl
          rw [List.singleton_injective lasts]
          decide
        · have absent : (part ++ [c]).count quote = 0 :=
            List.count_eq_zero.mpr fun member => quoteFree (inner.subset member)
          rw [List.cons_append, List.count_cons_self, absent] at even
          contradiction

namespace JsonCpp

variable (jsonCpp : JsonCpp)

theorem escape_quoteFree {content : Bytes} (quoteFree : quote ∉ content) : quote ∉ jsonCpp.escape content := by
  intro member
  have marked : quote ∈ (jsonCpp.escape content).filter isMark := List.mem_filter.mpr ⟨member, rfl⟩
  rw [jsonCpp.escape_marks] at marked
  exact quoteFree (List.mem_filter.mp marked).1

theorem render_shielded {token : Token} (quoteFree : ∀ content, .text content = token → quote ∉ content) :
    Shielded (jsonCpp.render token) := by
  cases token with
  | text content => exact shielded_quoted (jsonCpp.escape_quoteFree (quoteFree content rfl))
  | scalar value =>
      apply shielded_plain
      intro c member
      obtain ⟨mark, space⟩ := jsonCpp.scalarText_plain value c member
      refine ⟨?_, space⟩
      intro same
      subst same
      contradiction
  | _ => exact shielded_single (by decide) (by decide)

/-- The text of a value without quotes in its strings has whitespace only in strings. -/
theorem text_shielded {value : Value} (quoteFree : QuoteFree value.tokens) :
    Shielded (jsonCpp.text value) := by
  have all (tokens : List Token) (quoteFree : QuoteFree tokens) :
      Shielded (tokens.flatMap jsonCpp.render) := by
    induction tokens with
    | nil => exact shielded_nil
    | cons token tokens ih =>
        rw [List.flatMap_cons]
        refine shielded_append (jsonCpp.render_shielded ?_) (ih ?_)
        · intro content same
          subst same
          exact quoteFree content List.mem_cons_self
        · exact fun content member => quoteFree content (List.mem_cons_of_mem token member)
  exact all value.tokens quoteFree

/-- An object whose strings have no quote, and which jsoncpp reads back. -/
structure Plain (value : Value) : Prop where
  object : value.isObject
  quoteFree : QuoteFree value.tokens
  inverts : jsonCpp.parse (jsonCpp.text value) = (true, value)

namespace Plain

variable {jsonCpp} {value : Value} (plain : jsonCpp.Plain value)
include plain

theorem notNull : value.isNull = false := by
  have object := plain.object
  cases value <;> first | rfl | contradiction

/-- The text of an object starts and ends with its braces. -/
theorem edges : ∃ inner, jsonCpp.text value = openBrace :: (inner ++ [closeBrace]) := by
  have object := plain.object
  cases value with
  | objectValue members => exact ⟨_, jsonCpp.text_objectValue members⟩
  | _ => contradiction

/-- A complete object is returned, whatever follows it. -/
theorem parse_whole (rest : Bytes) :
    JsonRpc.parseJsonFromMsgBuffer jsonCpp (jsonCpp.text value ++ rest) = (value, rest) := by
  obtain ⟨object, quoteFree, inverts⟩ := plain
  cases value with
  | objectValue members =>
      have framed : Framed members := framed_of_quoteFree fun content member =>
        quoteFree content (List.mem_cons_of_mem _ (List.mem_append_left _ member))
      exact JsonRpc.parse_framed jsonCpp framed inverts rest
  | _ => contradiction

/-- The start of an object is kept until more arrives. -/
theorem parse_part {part missing : Bytes} (same : jsonCpp.text value = part ++ missing) (started : part ≠ [])
    (missed : missing ≠ []) : JsonRpc.parseJsonFromMsgBuffer jsonCpp part = (.nullValue, part) := by
  obtain ⟨object, quoteFree, _⟩ := plain
  cases value with
  | objectValue members =>
      have framed : Framed members := framed_of_quoteFree fun content member =>
        quoteFree content (List.mem_cons_of_mem _ (List.mem_append_left _ member))
      have found := (JsonRpc.scan_text_iff jsonCpp members []).mpr framed
      have length := JsonRpc.text_length jsonCpp members
      rw [List.append_nil, same] at found
      rw [same, List.length_append] at length
      have positive := List.length_pos_of_ne_nil missed
      have open' : JsonRpc.scan false 0 0 part = .incomplete := by
        by_contra stops
        rw [JsonRpc.scan_append stops] at found
        have inside := JsonRpc.scan_complete_lt found
        omega
      obtain ⟨tail, rfl⟩ : ∃ tail, part = openBrace :: tail := by
        rw [jsonCpp.text_objectValue] at same
        cases part with
        | nil => contradiction
        | cons first tail => exact ⟨tail, by rw [(List.cons.inj same).1]⟩
      simp only [JsonRpc.parseJsonFromMsgBuffer, ne_eq, not_true_eq_false, if_false, open']
  | _ => contradiction

end Plain

end JsonCpp
end Faf
