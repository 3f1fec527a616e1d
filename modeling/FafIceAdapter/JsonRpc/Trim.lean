import FafIceAdapter.Json.Value
import Mathlib.Data.List.DropRight
import Mathlib.Data.List.TakeWhile

namespace Faf

/-- The position of the first byte outside a set, or nothing for `npos`. -/
def findFirstNotOf (set text : Bytes) : Option Nat := text.findIdx? (· ∉ set)

def findLastNotOf (set text : Bytes) : Option Nat :=
  (text.reverse.findIdx? (· ∉ set)).map (text.length - 1 - ·)

/-- The second argument of `substr` is a count, so leading whitespace keeps as much at the end. -/
def trimWhitespace (text : Bytes) : Bytes :=
  match findFirstNotOf whitespace text, findLastNotOf whitespace text with
  | some start, some last => (text.drop start).take (last + 1)
  | _, _ => []

theorem trimWhitespace_length_le (text : Bytes) : (trimWhitespace text).length ≤ text.length := by
  unfold trimWhitespace
  split
  · simp only [List.length_take, List.length_drop]
    omega
  · simp

def leading (text : Bytes) : Nat := (text.takeWhile (· ∈ whitespace)).length

def trailing (text : Bytes) : Nat := (text.reverse.takeWhile (· ∈ whitespace)).length

/-- The parts of a text around its first and last solid byte. -/
structure Edges (lead core trail text : Bytes) : Prop where
  whole : text = lead ++ (core ++ trail)
  leadBlank : ∀ c ∈ lead, c ∈ whitespace
  trailBlank : ∀ c ∈ trail, c ∈ whitespace
  first : ∃ c rest, core = c :: rest ∧ c ∉ whitespace
  last : ∃ c rest, core = rest ++ [c] ∧ c ∉ whitespace

/-- A blank text is trimmed to nothing. -/
theorem trimWhitespace_blank {text : Bytes} (blank : ∀ c ∈ text, c ∈ whitespace) :
    trimWhitespace text = [] := by
  have none : findFirstNotOf whitespace text = none := by
    simpa [findFirstNotOf, List.findIdx?_eq_none_iff] using blank
  rw [trimWhitespace, none]

theorem findFirstNotOf_append {lead rest : Bytes} {c : UInt8} (blank : ∀ b ∈ lead, b ∈ whitespace)
    (solid : c ∉ whitespace) : findFirstNotOf whitespace (lead ++ c :: rest) = some lead.length := by
  have none : lead.findIdx? (fun b => decide (b ∉ whitespace)) = none := by
    simpa [List.findIdx?_eq_none_iff] using blank
  rw [findFirstNotOf, List.findIdx?_append, none, List.findIdx?_cons]
  simp [solid]

theorem takeWhile_blank {lead rest : Bytes} {c : UInt8} (blank : ∀ b ∈ lead, b ∈ whitespace)
    (solid : c ∉ whitespace) : (lead ++ c :: rest).takeWhile (· ∈ whitespace) = lead := by
  rw [List.takeWhile_append_of_pos (by simpa using blank), List.takeWhile_cons_of_neg (by simpa using solid),
    List.append_nil]

/-- The blanks after the last solid byte are counted. -/
theorem trailing_append {init trail : Bytes} {c : UInt8} (blank : ∀ b ∈ trail, b ∈ whitespace)
    (solid : c ∉ whitespace) : trailing (init ++ c :: trail) = trail.length := by
  have same : (init ++ c :: trail).reverse = trail.reverse ++ c :: init.reverse := by simp
  have blank' : ∀ b ∈ trail.reverse, b ∈ whitespace := by simpa using blank
  rw [trailing, same, takeWhile_blank blank' solid, List.length_reverse]

namespace Edges

variable {lead core trail text : Bytes} (edges : Edges lead core trail text)
include edges

theorem leading_eq : leading text = lead.length := by
  obtain ⟨c, rest, same, solid⟩ := edges.first
  rw [leading, edges.whole, same, List.cons_append, takeWhile_blank edges.leadBlank solid]

theorem reversed : ∃ c rest, text.reverse = trail.reverse ++ c :: rest ∧ c ∉ whitespace := by
  obtain ⟨c, rest, same, solid⟩ := edges.last
  refine ⟨c, rest.reverse ++ lead.reverse, ?_, solid⟩
  rw [edges.whole, same]
  simp

theorem trailing_eq (before : Bytes) : trailing (before ++ text) = trail.length := by
  obtain ⟨c, rest, same, solid⟩ := edges.last
  have split : before ++ text = (before ++ lead ++ rest) ++ c :: trail := by
    rw [edges.whole, same]
    simp
  rw [split, trailing_append edges.trailBlank solid]

/-- Trimming keeps as many bytes at the end as it drops at the start. -/
theorem trimWhitespace_eq : trimWhitespace text = core ++ trail.take lead.length := by
  obtain ⟨c, rest, same, solid⟩ := edges.first
  obtain ⟨d, before, backwards, solid'⟩ := edges.reversed
  have blank : ∀ b ∈ trail.reverse, b ∈ whitespace := by simpa using edges.trailBlank
  have start : findFirstNotOf whitespace text = some lead.length := by
    rw [edges.whole, same, List.cons_append]
    exact findFirstNotOf_append edges.leadBlank solid
  have final : findLastNotOf whitespace text = some (text.length - 1 - trail.length) := by
    have found : findFirstNotOf whitespace (trail.reverse ++ d :: before) = some trail.reverse.length :=
      findFirstNotOf_append blank solid'
    rw [findFirstNotOf, ← backwards, List.length_reverse] at found
    rw [findLastNotOf, found, Option.map_some]
  have size : text.length = lead.length + (core.length + trail.length) := by
    rw [edges.whole, List.length_append, List.length_append]
  have positive : 0 < core.length := by simp [same]
  have count : text.length - 1 - trail.length + 1 = core.length + lead.length := by omega
  rw [trimWhitespace, start, final]
  simp only [count]
  rw [edges.whole, List.drop_left, List.take_length_add_append]

end Edges

/-- A text that starts with a solid byte splits at its last one. -/
theorem edges_exists {c : UInt8} (solid : c ∉ whitespace) (rest : Bytes) :
    ∃ core trail, c :: rest = core ++ trail ∧
      ∀ lead : Bytes, (∀ b ∈ lead, b ∈ whitespace) → Edges lead core trail (lead ++ c :: rest) := by
  induction rest using List.reverseRecOn with
  | nil =>
      refine ⟨[c], [], rfl, fun lead blank => ?_⟩
      exact ⟨rfl, blank, List.forall_mem_nil _, ⟨c, [], rfl, solid⟩, ⟨c, [], rfl, solid⟩⟩
  | append_singleton rest d ih =>
      by_cases space : d ∈ whitespace
      · obtain ⟨core, trail, same, edges⟩ := ih
        refine ⟨core, trail ++ [d], ?_, fun lead blank => ?_⟩
        · rw [← List.cons_append, same, List.append_assoc]
        · have inner := edges lead blank
          refine ⟨?_, blank, ?_, inner.first, inner.last⟩
          · rw [← List.cons_append, same, List.append_assoc]
          · intro b member
            rcases List.mem_append.mp member with before | after
            · exact inner.trailBlank b before
            · exact List.mem_singleton.mp after ▸ space
      · refine ⟨c :: (rest ++ [d]), [], by simp, fun lead blank => ⟨by simp, blank, List.forall_mem_nil _, ?_, ?_⟩⟩
        · exact ⟨c, _, rfl, solid⟩
        · exact ⟨d, c :: rest, rfl, space⟩

/-- The text without its longest blank prefix and its longest blank suffix. -/
def stripped (text : Bytes) : Bytes := (text.dropWhile (· ∈ whitespace)).rdropWhile (· ∈ whitespace)

/-- What is left begins and ends with no blank, and trimming it again changes nothing. -/
structure Trims (text : Bytes) : Prop where
  same : trimWhitespace text = stripped text
  first : ∀ c ∈ (trimWhitespace text).head?, c ∉ whitespace
  last : ∀ c ∈ (trimWhitespace text).getLast?, c ∉ whitespace
  again : trimWhitespace (trimWhitespace text) = trimWhitespace text

theorem stripped_blank {text : Bytes} (blank : ∀ c ∈ text, c ∈ whitespace) : stripped text = [] := by
  have none : text.dropWhile (· ∈ whitespace) = [] := by
    apply List.dropWhile_eq_nil_iff.mpr
    intro c member
    exact decide_eq_true (blank c member)
  rw [stripped, none, List.rdropWhile_nil]

/-- A text is blank, or it has edges. -/
theorem blank_or_edges (text : Bytes) :
    (∀ c ∈ text, c ∈ whitespace) ∨ ∃ lead core trail, Edges lead core trail text := by
  induction text with
  | nil => exact .inl (List.forall_mem_nil _)
  | cons c rest ih =>
      by_cases space : c ∈ whitespace
      · rcases ih with blank | ⟨lead, core, trail, edges⟩
        · exact .inl (List.forall_mem_cons.mpr ⟨space, blank⟩)
        · right
          refine ⟨c :: lead, core, trail, ?_, ?_, edges.trailBlank, edges.first, edges.last⟩
          · rw [edges.whole, List.cons_append]
          · exact List.forall_mem_cons.mpr ⟨space, edges.leadBlank⟩
      · obtain ⟨core, trail, _, edges⟩ := edges_exists space rest
        exact .inr ⟨[], core, trail, edges [] (List.forall_mem_nil _)⟩

namespace Edges

variable {lead core trail text : Bytes} (edges : Edges lead core trail text)
include edges

theorem not_blank : ¬ ∀ c ∈ text, c ∈ whitespace := by
  obtain ⟨c, rest, same, solid⟩ := edges.first
  intro blank
  have member : c ∈ text := by
    rw [edges.whole, same]
    simp
  exact solid (blank c member)

/-- The first byte is solid when nothing comes before the first solid one. -/
theorem starts_iff : (∃ c ∈ text.head?, c ∉ whitespace) ↔ lead = [] := by
  obtain ⟨c, rest, same, solid⟩ := edges.first
  rw [edges.whole, same]
  cases lead with
  | nil => simp [solid]
  | cons b lead =>
      have space := edges.leadBlank b List.mem_cons_self
      simp [space]

theorem ends_iff : (∃ c ∈ text.getLast?, c ∉ whitespace) ↔ trail = [] := by
  obtain ⟨c, rest, same, solid⟩ := edges.last
  rw [edges.whole, same]
  rcases List.eq_nil_or_concat' trail with rfl | ⟨trail, b, rfl⟩
  · simp [solid]
  · have space := edges.trailBlank b (by simp)
    simp [← List.append_assoc, space]

theorem stripped_eq : stripped text = core := by
  obtain ⟨c, rest, first, solid⟩ := edges.first
  obtain ⟨d, before, last, solid'⟩ := edges.last
  have dropped : text.dropWhile (· ∈ whitespace) = core ++ trail := by
    rw [edges.whole, List.dropWhile_append_of_pos (by simpa using edges.leadBlank), first, List.cons_append]
    exact List.dropWhile_cons_of_neg (by simpa using solid)
  have backwards : (core ++ trail).reverse = trail.reverse ++ d :: before.reverse := by
    rw [last]
    simp
  rw [stripped, dropped, List.rdropWhile, backwards,
    List.dropWhile_append_of_pos (by simpa using edges.trailBlank),
    List.dropWhile_cons_of_neg (by simpa using solid'), last]
  simp

/-- The trimmed text starts with its first solid byte. -/
theorem trimmed : Edges [] core (trail.take lead.length) (trimWhitespace text) where
  whole := edges.trimWhitespace_eq
  leadBlank := List.forall_mem_nil _
  trailBlank c member := edges.trailBlank c (List.mem_of_mem_take member)
  first := edges.first
  last := edges.last

end Edges

/-- The second time, trimming removes every blank at the end. -/
theorem trimWhitespace_twice (text : Bytes) : trimWhitespace (trimWhitespace text) = stripped text := by
  rcases blank_or_edges text with blank | ⟨lead, core, trail, edges⟩
  · rw [trimWhitespace_blank blank, stripped_blank blank]
    rfl
  · rw [edges.trimmed.trimWhitespace_eq, edges.stripped_eq, List.length_nil, List.take_zero, List.append_nil]

/-- Trimming removes the blanks at both ends exactly when the text is blank or has them at one end at most. -/
theorem trims_iff (text : Bytes) :
    Trims text ↔ (∀ c ∈ text, c ∈ whitespace) ∨ (∃ c ∈ text.head?, c ∉ whitespace) ∨
      ∃ c ∈ text.getLast?, c ∉ whitespace := by
  rcases blank_or_edges text with blank | ⟨lead, core, trail, edges⟩
  · apply iff_of_true ?_ (.inl blank)
    have empty := trimWhitespace_blank blank
    constructor
    · rw [empty, stripped_blank blank]
    · simp [empty]
    · simp [empty]
    · rw [empty]
      rfl
  · rw [edges.starts_iff, edges.ends_iff]
    simp only [edges.not_blank, false_or]
    constructor
    · intro trims
      have kept := trims.same
      rw [edges.trimWhitespace_eq, edges.stripped_eq] at kept
      simpa using List.append_right_eq_self.mp kept
    · intro oneEnd
      have none : trail.take lead.length = [] := by
        rcases oneEnd with rfl | rfl <;> simp
      have same : trimWhitespace text = core := by
        rw [edges.trimWhitespace_eq, none, List.append_nil]
      have stays : stripped text = core := edges.stripped_eq
      constructor
      · rw [same, stays]
      · obtain ⟨c, rest, starts, solid⟩ := edges.first
        simp [same, starts, solid]
      · obtain ⟨c, rest, ends, solid⟩ := edges.last
        simp [same, ends, solid]
      · rw [trimWhitespace_twice, stays, same]

/-- A blank at the start keeps the one at the end. -/
theorem trimWhitespace_keeps : ¬ ∀ text, Trims text := by
  intro claim
  have same := (claim [0x20, 0x61, 0x20]).same
  exact absurd same (by decide)

end Faf
