import FafIceAdapter.JsonRpc.Plain
import FafIceAdapter.Library.Transition

namespace Faf
open Json Transition

namespace JsonRpc

/-- The bytes that a client sends for its messages. -/
def stream (jsonCpp : JsonCpp) (objects : List Value) : Bytes := objects.flatMap jsonCpp.write

/-- Trimming loses nothing of a message: no string is open at the end of the bytes, or they end with no
more whitespace than they start with. -/
def Keeps (text : Bytes) : Prop := Even (text.count quote) ∨ trailing text ≤ leading text

/-- What is unread starts with the next message, perhaps after the line feed of the last one. -/
def Follows (jsonCpp : JsonCpp) (unread : Bytes) (todo : List Value) : Prop :=
  unread = stream jsonCpp todo ∨ unread = lineFeed :: stream jsonCpp todo

/-- The bytes at hand are the messages to do up to what is unread. The last line feed may be gone. -/
inductive Holds (jsonCpp : JsonCpp) (unread : Bytes) : List Value → Bytes → Prop
  | nothing {todo : List Value} (follows : Follows jsonCpp unread todo) : Holds jsonCpp unread todo []
  | part {todo : List Value} {value : Value} {text missing : Bytes}
      (same : jsonCpp.text value = text ++ missing) (started : text ≠ []) (missed : missing ≠ [])
      (follows : unread = missing ++ lineFeed :: stream jsonCpp todo) :
      Holds jsonCpp unread (value :: todo) text
  | whole {todo : List Value} {value : Value} (follows : Follows jsonCpp unread todo) :
      Holds jsonCpp unread (value :: todo) (jsonCpp.text value)
  | next {todo : List Value} {value : Value} {text : Bytes} (later : Holds jsonCpp unread todo text) :
      Holds jsonCpp unread (value :: todo) (jsonCpp.text value ++ lineFeed :: text)

/-- Between two read events the buffer holds nothing or the start of a message. -/
def Rests (jsonCpp : JsonCpp) (unread : Bytes) (todo : List Value) (msgBuffer : Bytes) : Prop :=
  (msgBuffer = [] ∧ Follows jsonCpp unread todo) ∨
    (msgBuffer ++ unread = stream jsonCpp todo ∧ unread ≠ [])

theorem stream_cons (jsonCpp : JsonCpp) (value : Value) (todo : List Value) :
    stream jsonCpp (value :: todo) = jsonCpp.text value ++ lineFeed :: stream jsonCpp todo := by
  rw [stream, List.flatMap_cons, jsonCpp.write_eq, List.append_assoc]
  rfl

variable {jsonCpp : JsonCpp} {unread : Bytes} {todo : List Value}

/-- Every cut of a stream leaves messages and the start of one. -/
theorem holds_of_stream {text : Bytes} (cut : text ++ unread = stream jsonCpp todo) :
    Holds jsonCpp unread todo text := by
  induction todo generalizing text with
  | nil =>
      obtain ⟨rfl, rfl⟩ := List.append_eq_nil_iff.mp cut
      exact .nothing (.inl rfl)
  | cons value todo ih =>
      have total := stream_cons jsonCpp value todo
      have within : text <+: jsonCpp.text value ++ lineFeed :: stream jsonCpp todo := ⟨unread, by rw [cut, total]⟩
      rcases Sequence.prefix_append_cases within with ⟨⟨missing, same⟩, different⟩ | ⟨tail, rfl, _⟩
      · by_cases started : text = []
        · subst started
          exact .nothing (.inl cut)
        · apply Holds.part same.symm started
          · intro none
            subst none
            exact different (by rw [← same, List.append_nil])
          · rw [total, ← same, List.append_assoc] at cut
            exact List.append_cancel_left cut
      · rw [total, List.append_assoc] at cut
        have rest := List.append_cancel_left cut
        cases tail with
        | nil =>
            rw [List.append_nil]
            exact .whole (.inr rest)
        | cons first tail =>
            obtain ⟨rfl, later⟩ := List.cons.inj rest
            exact .next (ih later)

/-- A read event starts with at most one line feed and then the messages. -/
theorem holds_of_rests {msgBuffer fragment : Bytes} (rests : Rests jsonCpp (fragment ++ unread) todo msgBuffer) :
    ∃ lead text, (lead = [] ∨ lead = [lineFeed]) ∧ msgBuffer ++ fragment = lead ++ text ∧
      Holds jsonCpp unread todo text := by
  rcases rests with ⟨rfl, cut | cut⟩ | ⟨cut, _⟩
  · exact ⟨[], fragment, .inl rfl, rfl, holds_of_stream cut⟩
  · cases fragment with
    | nil => exact ⟨[], [], .inl rfl, rfl, .nothing (.inr cut)⟩
    | cons first fragment =>
        obtain ⟨rfl, rest⟩ := List.cons.inj cut
        exact ⟨[lineFeed], fragment, .inr rfl, rfl, holds_of_stream rest⟩
  · rw [← List.append_assoc] at cut
    exact ⟨[], _, .inl rfl, rfl, holds_of_stream cut⟩

/-- No blank ends a part of an object in which no string is open. -/
theorem blank_eq_nil {value : Value} (plain : jsonCpp.Plain value) {core trail : Bytes}
    (within : core ++ trail <+: jsonCpp.text value) (even : Even ((core ++ trail).count quote))
    (blank : ∀ c ∈ trail, c ∈ whitespace) : trail = [] := by
  rcases List.eq_nil_or_concat' trail with rfl | ⟨rest, c, rfl⟩
  · rfl
  · rw [← List.append_assoc] at within even
    have solid := (jsonCpp.text_shielded plain.quoteFree).2 (core ++ rest) c within even
    exact absurd (blank c (by simp)) solid

/-- What follows a blank ends with no blank when the whole text does. -/
theorem solid_of_append {head part : Bytes} {first : UInt8} (blank : first ∈ whitespace)
    (solid : ∃ c rest, head ++ first :: part = rest ++ [c] ∧ c ∉ whitespace) :
    ∃ c rest, part = rest ++ [c] ∧ c ∉ whitespace := by
  obtain ⟨c, before, ends, solidEnd⟩ := solid
  rcases List.eq_nil_or_concat' part with rfl | ⟨init, d, rfl⟩
  · obtain ⟨_, last⟩ := List.append_inj' ends rfl
    rw [← List.singleton_injective last] at solidEnd
    contradiction
  · rw [← List.cons_append, ← List.append_assoc] at ends
    obtain ⟨_, last⟩ := List.append_inj' ends rfl
    exact ⟨d, init, rfl, List.singleton_injective last ▸ solidEnd⟩

section Plain

variable (plain : ∀ value ∈ todo, jsonCpp.Plain value)
include plain

theorem Holds.start {text : Bytes} (holds : Holds jsonCpp unread todo text) (nonempty : text ≠ []) :
    ∃ rest, text = openBrace :: rest := by
  cases holds with
  | nothing => contradiction
  | part same started missed follows =>
      obtain ⟨inner, edges⟩ := (plain _ List.mem_cons_self).edges
      cases text with
      | nil => contradiction
      | cons first text =>
          rw [edges] at same
          exact ⟨text, by rw [(List.cons.inj same).1]⟩
  | whole =>
      obtain ⟨inner, edges⟩ := (plain _ List.mem_cons_self).edges
      exact ⟨_, edges⟩
  | next =>
      obtain ⟨inner, edges⟩ := (plain _ List.mem_cons_self).edges
      exact ⟨_, by rw [edges]; rfl⟩

theorem Holds.follows {text : Bytes} (holds : Holds jsonCpp unread todo text) (empty : text = []) :
    Follows jsonCpp unread todo := by
  cases holds with
  | nothing follows => exact follows
  | part same started missed follows => contradiction
  | whole =>
      obtain ⟨inner, edges⟩ := (plain _ List.mem_cons_self).edges
      rw [edges] at empty
      contradiction
  | next => exact absurd (List.append_eq_nil_iff.mp empty).2 (List.cons_ne_nil _ _)

/-- When no string is open, trailing whitespace is one line feed, which may go. -/
theorem Holds.trailing {text core trail : Bytes} (holds : Holds jsonCpp unread todo text)
    (same : text = core ++ trail) (even : Even (text.count quote))
    (solid : ∃ c rest, core = rest ++ [c] ∧ c ∉ whitespace) (blank : ∀ c ∈ trail, c ∈ whitespace) :
    Holds jsonCpp unread todo core ∧ (trail = [] ∨ trail = [lineFeed]) := by
  induction holds generalizing core with
  | nothing =>
      obtain ⟨c, rest, rfl, _⟩ := solid
      simp at same
  | part split started missed follows =>
      subst same
      obtain rfl := blank_eq_nil (plain _ List.mem_cons_self) ⟨_, split.symm⟩ even blank
      rw [List.append_nil] at split started
      exact ⟨.part split started missed follows, .inl rfl⟩
  | whole follows =>
      have within : core ++ trail <+: jsonCpp.text _ := ⟨[], by rw [List.append_nil, same]⟩
      rw [same] at even
      obtain rfl := blank_eq_nil (plain _ List.mem_cons_self) within even blank
      rw [List.append_nil] at same
      exact ⟨same ▸ .whole follows, .inl rfl⟩
  | next later ih =>
      rename_i todo value text
      have plainHead := plain value List.mem_cons_self
      have plainTail : ∀ value ∈ todo, jsonCpp.Plain value := fun other member =>
        plain other (List.mem_cons_of_mem value member)
      have evenHead := (jsonCpp.text_shielded plainHead.quoteFree).1
      have evenTail : Even (text.count quote) := by
        rw [List.count_append, List.count_cons_of_ne (by decide)] at even
        exact (Nat.even_add.mp even).mp evenHead
      have closes (all : trail = lineFeed :: text) (head : core = jsonCpp.text value) :
          Holds jsonCpp unread (value :: todo) core ∧ (trail = [] ∨ trail = [lineFeed]) := by
        have empty : text = [] := by
          by_contra nonempty
          obtain ⟨rest, start⟩ := later.start plainTail nonempty
          have space := blank openBrace (by rw [all, start]; simp)
          contradiction
        rw [head, all, empty]
        exact ⟨.whole (later.follows plainTail empty), .inr rfl⟩
      rcases List.append_eq_append_iff.mp same with ⟨part, coreSame, rest⟩ | ⟨part, textSame, rest⟩
      · cases part with
        | nil => exact closes rest.symm (by rw [coreSame, List.append_nil])
        | cons first part =>
            obtain ⟨rfl, textSame⟩ := List.cons.inj rest
            have partEnds := solid_of_append (by decide) (coreSame ▸ solid)
            obtain ⟨holds, short⟩ := ih plainTail textSame evenTail partEnds
            rw [coreSame]
            exact ⟨.next holds, short⟩
      · have inside : ∀ c ∈ part, c ∈ whitespace := fun c member =>
          blank c (by rw [rest]; exact List.mem_append_left _ member)
        rw [textSame] at evenHead
        obtain rfl := blank_eq_nil plainHead ⟨[], by rw [List.append_nil, textSame]⟩ evenHead inside
        exact closes rest (by rw [textSame, List.append_nil])

/-- Trimming keeps every byte of a message that is not complete. -/
theorem Holds.trim {lead text : Bytes} (holds : Holds jsonCpp unread todo text)
    (short : lead = [] ∨ lead = [lineFeed]) (keeps : Keeps (lead ++ text)) :
    Holds jsonCpp unread todo (trimWhitespace (lead ++ text)) ∧
      (Even ((trimWhitespace (lead ++ text)).count quote) ∨
        (trimWhitespace (lead ++ text) = text ∧ Faf.trailing text ≤ 1)) := by
  have blank : ∀ c ∈ lead, c ∈ whitespace := by
    rcases short with rfl | rfl <;> simp [whitespace, lineFeed]
  have atMostOne : lead.length ≤ 1 := by
    rcases short with rfl | rfl <;> decide
  have none : [lineFeed].count quote = 0 := rfl
  by_cases empty : text = []
  · rw [empty, List.append_nil, trimWhitespace_blank blank]
    exact ⟨empty ▸ holds, .inl ⟨0, rfl⟩⟩
  · obtain ⟨rest, start⟩ := holds.start plain empty
    obtain ⟨core, trail, same, edges⟩ := edges_exists (show openBrace ∉ whitespace by decide) rest
    rw [← start] at same edges
    have here := edges lead blank
    rw [here.trimWhitespace_eq]
    by_cases even : Even (text.count quote)
    · obtain ⟨holdsCore, atMost⟩ := holds.trailing plain same even here.last here.trailBlank
      have evenCore : Even (core.count quote) := by
        rw [same, List.count_append] at even
        rcases atMost with rfl | rfl <;> simpa [none] using even
      rcases atMost with rfl | rfl
      · rw [List.take_nil, List.append_nil]
        exact ⟨holdsCore, .inl evenCore⟩
      · rcases short with rfl | rfl
        · rw [List.length_nil, List.take_zero, List.append_nil]
          exact ⟨holdsCore, .inl evenCore⟩
        · rw [show [lineFeed].take [lineFeed].length = [lineFeed] from rfl, ← same]
          exact ⟨holds, .inl even⟩
    · have few : trail.length ≤ lead.length := by
        rcases keeps with evenAll | few
        · rw [List.count_append] at evenAll
          rcases short with rfl | rfl <;> exact absurd (by simpa [none] using evenAll) even
        · rwa [here.leading_eq, ← List.nil_append (lead ++ text), here.trailing_eq] at few
      have counted := (edges [] (List.forall_mem_nil _)).trailing_eq []
      rw [List.take_of_length_le few, ← same]
      refine ⟨holds, .inr ⟨rfl, ?_⟩⟩
      rw [List.nil_append, List.nil_append] at counted
      rw [counted]
      exact few.trans atMostOne

/-- Trimming loses nothing behind a message that is taken, either. -/
theorem Holds.keeps_next {head rest : Bytes} (later : Holds jsonCpp unread todo rest)
    (evenHead : Even (head.count quote))
    (kept : Even ((head ++ lineFeed :: rest).count quote) ∨ Faf.trailing (head ++ lineFeed :: rest) ≤ 1) :
    Keeps ([lineFeed] ++ rest) := by
  rcases kept with even | few
  · left
    rw [List.count_append] at even
    exact (Nat.even_add.mp even).mp evenHead
  · by_cases empty : rest = []
    · exact .inl ⟨0, by rw [empty]; rfl⟩
    · right
      obtain ⟨tail, brace⟩ := later.start plain empty
      obtain ⟨core, trail, _, edges⟩ := edges_exists (show openBrace ∉ whitespace by decide) tail
      rw [← brace] at edges
      have blank : ∀ b ∈ [lineFeed], b ∈ whitespace := by simp [whitespace, lineFeed]
      have counted := (edges [lineFeed] blank).trailing_eq head
      have here := (edges [lineFeed] blank).trailing_eq []
      rw [List.singleton_append.symm, counted] at few
      rw [List.nil_append] at here
      rw [here, (edges [lineFeed] blank).leading_eq]
      exact few

/-- A read event passes on the messages that are complete and keeps the next one. -/
theorem drain_holds {lead text : Bytes} (holds : Holds jsonCpp unread todo text)
    (short : lead = [] ∨ lead = [lineFeed]) (keeps : Keeps (lead ++ text)) :
    ∃ left, todo = (drain jsonCpp (lead ++ text)).1 ++ left ∧
      Rests jsonCpp unread left (drain jsonCpp (lead ++ text)).2 := by
  induction todo generalizing lead text with
  | nil =>
      obtain ⟨trimmed, _⟩ := holds.trim plain short keeps
      generalize same : trimWhitespace (lead ++ text) = kept at trimmed
      cases trimmed with
      | nothing follows =>
          rw [drain_empty same]
          exact ⟨[], rfl, .inl ⟨rfl, follows⟩⟩
  | cons value todo ih =>
      have plainHead := plain value List.mem_cons_self
      have plainTail : ∀ value ∈ todo, jsonCpp.Plain value := fun other member =>
        plain other (List.mem_cons_of_mem value member)
      obtain ⟨inner, start⟩ := plainHead.edges
      obtain ⟨trimmed, flag⟩ := holds.trim plain short keeps
      generalize same : trimWhitespace (lead ++ text) = kept at trimmed flag
      cases trimmed with
      | nothing follows =>
          rw [drain_empty same]
          exact ⟨value :: todo, rfl, .inl ⟨rfl, follows⟩⟩
      | part split started missed follows =>
          rw [drain_null same started (plainHead.parse_part split started missed)]
          refine ⟨value :: todo, rfl, .inr ⟨?_, ?_⟩⟩
          · rw [follows, stream_cons, split, List.append_assoc]
          · rw [follows]
            exact List.append_ne_nil_of_left_ne_nil missed _
      | whole follows =>
          have parsed := plainHead.parse_whole []
          rw [List.append_nil] at parsed
          rw [drain_value same (by rw [start]; exact List.cons_ne_nil _ _) parsed plainHead.notNull,
            drain_empty (trimWhitespace_blank fun c member => absurd member List.not_mem_nil)]
          exact ⟨todo, rfl, .inl ⟨rfl, follows⟩⟩
      | next later =>
          rename_i rest
          have parsed := plainHead.parse_whole (lineFeed :: rest)
          have evenHead := (jsonCpp.text_shielded plainHead.quoteFree).1
          have keepsRest : Keeps ([lineFeed] ++ rest) := by
            apply later.keeps_next plainTail evenHead
            rcases flag with even | ⟨whole, few⟩
            · exact .inl even
            · exact .inr (whole ▸ few)
          rw [drain_value same (by rw [start]; exact List.cons_ne_nil _ _) parsed plainHead.notNull]
          obtain ⟨left, split, rests⟩ := ih plainTail later (.inr rfl) keepsRest
          exact ⟨left, congrArg (value :: ·) split, rests⟩

end Plain

/-- A socket has its buffer. The list collects what is passed on for processing. -/
structure Session where
  msgBuffer : Bytes
  processed : List Value

/-- Every read event runs `_read` once. -/
def reader (jsonCpp : JsonCpp) : Machine Session (List Bytes) where
  initial := ⟨[], []⟩
  step session received :=
    let (values, msgBuffer) := read jsonCpp session.msgBuffer received
    some ⟨msgBuffer, session.processed ++ values⟩

theorem held_eq (msgBuffer : Bytes) (received : List Bytes) :
    held msgBuffer received = msgBuffer ++ received.flatten := by
  induction received generalizing msgBuffer with
  | nil => simp [held]
  | cons first received ih =>
      rw [held, List.foldl_cons, ← held, ih, List.flatten_cons, List.append_assoc]

/-- The buffer and the messages that are passed on make up the stream so far. -/
theorem reader_rests {objects : List Value} (plain : ∀ value ∈ objects, jsonCpp.Plain value)
    {events : List (List Bytes)} {session : Session}
    (run : (reader jsonCpp).Reaches (fun session received => Keeps (held session.msgBuffer received))
      events session) (cut : events.flatten.flatten ++ unread = stream jsonCpp objects) :
    ∃ todo, objects = session.processed ++ todo ∧ Rests jsonCpp unread todo session.msgBuffer := by
  induction run generalizing unread with
  | initial => exact ⟨objects, rfl, .inl ⟨rfl, .inl cut⟩⟩
  | step _ keeps steps ih =>
      rename_i events session next received _
      obtain rfl := Option.some.inj steps
      obtain ⟨todo, split, rests⟩ := @ih (received.flatten ++ unread) (by simpa using cut)
      have plainTodo : ∀ value ∈ todo, jsonCpp.Plain value := fun value member =>
        plain value (by rw [split]; exact List.mem_append_right _ member)
      obtain ⟨lead, text, short, same, holds⟩ := holds_of_rests rests
      rw [held_eq, same] at keeps
      obtain ⟨left, splitTodo, restsLeft⟩ := drain_holds plainTodo holds short keeps
      rw [← same, ← held_eq] at splitTodo restsLeft
      refine ⟨left, ?_, restsLeft⟩
      rw [split, splitTodo, List.append_assoc]
      rfl

/-- When trimming never touches an open string, the messages do not depend on the segmentation. -/
theorem reader_segments (jsonCpp : JsonCpp) (objects : List Value)
    (plain : ∀ value ∈ objects, jsonCpp.Plain value) (events : List (List Bytes)) (session : Session)
    (run : (reader jsonCpp).Reaches (fun session received => Keeps (held session.msgBuffer received))
      events session) (unread : Bytes) (cut : events.flatten.flatten ++ unread = stream jsonCpp objects) :
    session.processed <+: objects ∧ (unread = [] → session.processed = objects) := by
  obtain ⟨todo, split, rests⟩ := reader_rests plain run cut
  refine ⟨⟨todo, split.symm⟩, ?_⟩
  intro none
  subst none
  cases todo with
  | nil => rw [split, List.append_nil]
  | cons value todo =>
      rcases rests with ⟨_, none | none⟩ | ⟨_, none⟩
      · rw [stream_cons] at none
        simp at none
      · contradiction
      · contradiction

/-- An object with one string, as jsoncpp reads it. -/
def note (content : String) : Value := .objectValue [(bytes "a", .stringValue (bytes content))]

/-- A jsoncpp that reads these two notes. -/
def noteJson : JsonCpp := Sample.jsonCpp fun text =>
  (true, if text = bytes "\x7b\"a\":\"x y\"\x7d" then note "x y" else note "xy")

theorem note_plain : noteJson.Plain (note "x y") := by
  refine ⟨rfl, ?_, rfl⟩
  intro content member
  simp only [note, Value.tokens, Value.tokens.memberTokens, List.cons_append, List.nil_append, List.mem_cons,
    Token.text.injEq, reduceCtorEq, List.not_mem_nil, or_false, false_or] at member
  rcases member with rfl | rfl <;> decide

/-- A string is read in two events that do not part it at a space. -/
theorem reader_segments_note :
    ∃ session, (reader noteJson).Reaches (fun session received => Keeps (held session.msgBuffer received))
      [[bytes "\x7b\"a\"", bytes ":\"x y"], [bytes "\"\x7d\n"]] session ∧
      session.processed = [note "x y"] := by
  have first : (reader noteJson).Reaches (fun session received => Keeps (held session.msgBuffer received))
      ([] ++ [[bytes "\x7b\"a\"", bytes ":\"x y"]]) ⟨bytes "\x7b\"a\":\"x y", []⟩ :=
    .step .initial (.inr (by decide)) rfl
  have second : (reader noteJson).Reaches (fun session received => Keeps (held session.msgBuffer received))
      ([[bytes "\x7b\"a\"", bytes ":\"x y"]] ++ [[bytes "\"\x7d\n"]]) ⟨[], [note "x y"]⟩ :=
    .step first (.inl (by decide)) rfl
  exact ⟨_, second, (reader_segments noteJson [note "x y"] (List.forall_mem_singleton.mpr note_plain) _ _
    second [] rfl).2 rfl⟩

/-- A space at the end of a read event is trimmed from the middle of a string. -/
theorem reader_trims_space : ¬ ∀ (jsonCpp : JsonCpp) (objects : List Value),
    (∀ value ∈ objects, jsonCpp.Plain value ∧ ∀ content, .text content ∈ value.tokens → backslash ∉ content) →
    ∀ (events : List (List Bytes)) (session : Session), (reader jsonCpp).run events = some session →
      events.flatten.flatten = stream jsonCpp objects → session.processed = objects := by
  intro claim
  have noBackslash : ∀ content, .text content ∈ (note "x y").tokens → backslash ∉ content := by
    intro content member
    simp only [note, Value.tokens, Value.tokens.memberTokens, List.cons_append, List.nil_append, List.mem_cons,
      Token.text.injEq, reduceCtorEq, List.not_mem_nil, or_false, false_or] at member
    rcases member with rfl | rfl <;> decide
  have processed := claim noteJson [note "x y"] (List.forall_mem_singleton.mpr ⟨note_plain, noBackslash⟩)
    [[bytes "\x7b\"a\":\"x "], [bytes "y\"\x7d\n"]] ⟨[], [note "xy"]⟩ rfl rfl
  have content := congrArg (List.map fun value => value.member (bytes "a")) processed
  have different : bytes "xy" = bytes "x y" := Value.stringValue.inj (List.cons.inj content).1
  contradiction

end JsonRpc
end Faf
