import FafIceAdapter.JsonRpc.Buffer
import FafIceAdapter.Json.Sample
import FafIceAdapter.Library.Nesting

namespace Faf
open Json Nesting

/-- The flag after a text, where every quote toggles it. -/
def toggled (flag : Bool) (text : Bytes) : Bool := flag ^^ decide (text.count quote % 2 = 1)

@[simp] theorem toggled_nil (flag : Bool) : toggled flag [] = flag := by
  simp [toggled]

theorem toggled_cons (flag : Bool) (c : UInt8) (text : Bytes) :
    toggled flag (c :: text) = toggled (if c = quote then !flag else flag) text := by
  by_cases same : c = quote
  · simp only [toggled, same, List.count_cons_self, if_true]
    rcases Nat.mod_two_eq_zero_or_one (text.count quote) with even | odd
    · simp [show (text.count quote + 1) % 2 = 1 by omega, even]
    · simp [show (text.count quote + 1) % 2 = 0 by omega, odd]
  · simp [toggled, same, List.count_cons_of_ne same]

theorem toggled_append (flag : Bool) (first second : Bytes) :
    toggled flag (first ++ second) = toggled (toggled flag first) second := by
  induction first generalizing flag with
  | nil => simp
  | cons c first ih => rw [List.cons_append, toggled_cons, toggled_cons, ih]

theorem toggled_not (flag : Bool) (text : Bytes) : toggled (!flag) text = !toggled flag text := by
  simp [toggled]

theorem toggled_false {text : Bytes} : toggled false text = false ↔ Even (text.count quote) := by
  simp [toggled, Nat.even_iff]

/-- The braces of a text that stand outside of strings, when every quote toggles the flag. -/
def visible (inString : Bool) : Bytes → List Bool
  | [] => []
  | c :: text =>
      if c = quote then visible (!inString) text
      else if inString then visible inString text
      else if c = openBrace then true :: visible inString text
      else if c = closeBrace then false :: visible inString text
      else visible inString text

theorem visible_append (inString : Bool) (first second : Bytes) :
    visible inString (first ++ second) = visible inString first ++ visible (toggled inString first) second := by
  induction first generalizing inString with
  | nil => simp [visible]
  | cons c first ih =>
      simp only [List.cons_append, visible, ih, toggled_cons]
      split_ifs <;> rfl

/-- Only the marks of a text matter. -/
theorem visible_filter (inString : Bool) (text : Bytes) :
    visible inString (text.filter isMark) = visible inString text := by
  induction text generalizing inString with
  | nil => rfl
  | cons c text ih =>
      by_cases mark : isMark c
      · simp only [List.filter_cons, if_pos mark, visible, ih]
      · have other : c ≠ quote ∧ c ≠ openBrace ∧ c ≠ closeBrace := by
          simpa [isMark, and_assoc] using mark
        simp [mark, visible, other, ih]

theorem toggled_filter (flag : Bool) (text : Bytes) :
    toggled flag (text.filter isMark) = toggled flag text := by
  rw [toggled, toggled, List.count_filter (by rfl)]

/-- A text without marks shows nothing. -/
theorem visible_plain {text : Bytes} (plain : ∀ c ∈ text, isMark c = false) (inString : Bool) :
    visible inString text = [] ∧ toggled inString text = inString := by
  have empty : text.filter isMark = [] := by
    simpa [List.filter_eq_nil_iff] using plain
  rw [← visible_filter, ← toggled_filter, empty]
  exact ⟨rfl, toggled_nil _⟩

/-- A byte shows at most one brace. -/
theorem visible_single (inString : Bool) (c : UInt8) :
    visible inString [c] = [] ∨ ∃ mark, visible inString [c] = [mark] := by
  simp only [visible]
  split_ifs <;> simp

namespace JsonRpc

/-- The scan goes on after a byte that shows nothing. -/
theorem scan_silent {inString : Bool} {c : UInt8} (silent : visible inString [c] = []) (level : Int)
    (start : Nat) (rest : Bytes) :
    scan inString level start (c :: rest) = scan (toggled inString [c]) level (start + 1) rest := by
  rw [scan, toggled_cons, toggled_nil]
  by_cases isQuote : c = quote
  · subst isQuote
    cases inString <;> rfl
  · cases inString with
    | true => simp [isQuote]
    | false =>
        have unseen : c ≠ openBrace ∧ c ≠ closeBrace := by
          constructor
          all_goals
            intro same
            subst same
            contradiction
        simp [isQuote, unseen]

/-- A visible brace changes the level. -/
theorem scan_mark {inString : Bool} {c : UInt8} {mark : Bool} (shown : visible inString [c] = [mark])
    {level : Int} (positive : 0 < level) (start : Nat) (rest : Bytes) :
    scan inString level start (c :: rest) =
      if 0 < level + sign mark then scan (toggled inString [c]) (level + sign mark) (start + 1) rest
      else .complete start := by
  rw [scan, toggled_cons, toggled_nil]
  by_cases isQuote : c = quote
  · subst isQuote
    cases inString <;> contradiction
  · cases inString with
    | true => simp [visible, isQuote] at shown
    | false =>
        by_cases opens : c = openBrace
        · subst opens
          obtain rfl : true = mark := List.singleton_injective shown
          have next : 0 < level + sign true := by
            simp only [sign, if_true]
            omega
          rw [if_pos next]
          rfl
        · by_cases closes : c = closeBrace
          · subst closes
            obtain rfl : false = mark := List.singleton_injective shown
            have nonneg : ¬ level - 1 < 0 := by omega
            have down : level + sign false = level - 1 := by
              simp only [sign, Bool.false_eq_true, if_false]
              omega
            rw [down]
            simp only [isQuote, opens, if_false, if_true, Bool.false_eq_true, nonneg]
            split_ifs with zero positive' positive'
            · omega
            · rfl
            · rfl
            · omega
          · simp [visible, isQuote, opens, closes] at shown

/-- The scan passes a text whose visible braces keep the level positive. -/
theorem scan_stays {inString : Bool} {level : Int} {start : Nat} {text : Bytes}
    (stays : Stays level (visible inString text)) (rest : Bytes) :
    scan inString level start (text ++ rest) =
      scan (toggled inString text) (level + depth (visible inString text)) (start + text.length) rest := by
  induction text generalizing inString level start with
  | nil => simp [visible]
  | cons c text ih =>
      have place : start + (c :: text).length = start + 1 + text.length := by
        simp only [List.length_cons]
        omega
      rw [← List.singleton_append, visible_append] at stays ⊢
      rw [toggled_append, List.append_assoc, List.singleton_append, List.singleton_append, place]
      rcases visible_single inString c with silent | ⟨mark, shown⟩
      · rw [silent, List.nil_append] at stays ⊢
        rw [scan_silent silent, ih stays]
      · rw [shown, List.singleton_append] at stays ⊢
        obtain ⟨positive, later⟩ := stays_cons.mp stays
        have next : 0 < level + sign mark := by simpa using later [] List.nil_prefix
        rw [scan_mark shown positive, if_pos next, ih later, depth_cons, add_assoc]

/-- The scan ends inside a text whose visible braces bring the level to zero. -/
theorem scan_falls {inString : Bool} {level : Int} {start : Nat} {text : Bytes} (positive : 0 < level)
    (falls : ¬ Stays level (visible inString text)) (rest : Bytes) :
    ∃ msgPos < start + text.length, scan inString level start (text ++ rest) = .complete msgPos := by
  induction text generalizing inString level start with
  | nil => exact absurd (stays_nil.mpr positive) falls
  | cons c text ih =>
      have place : start + (c :: text).length = start + 1 + text.length := by
        simp only [List.length_cons]
        omega
      rw [← List.singleton_append, visible_append] at falls
      rw [List.cons_append, place]
      rcases visible_single inString c with silent | ⟨mark, shown⟩
      · rw [silent, List.nil_append] at falls
        rw [scan_silent silent]
        exact ih positive falls
      · rw [shown, List.singleton_append, stays_cons, not_and] at falls
        rw [scan_mark shown positive]
        by_cases next : 0 < level + sign mark
        · rw [if_pos next]
          exact ih next (falls positive)
        · rw [if_neg next]
          exact ⟨start, by omega, rfl⟩

/-- The scan ends at a brace exactly when the text before it is balanced and leaves no string open. -/
theorem scan_closes_iff (text rest : Bytes) (start : Nat) :
    scan false 1 start (text ++ closeBrace :: rest) = .complete (start + text.length) ↔
      toggled false text = false ∧ Balanced (visible false text) := by
  rw [balanced_iff_stays]
  by_cases stays : Stays 1 (visible false text)
  · have positive := stays _ (List.prefix_refl _)
    have shown : visible false [closeBrace] = [false] := rfl
    rw [scan_stays stays]
    cases flag : toggled false text with
    | true =>
        have hidden : visible true [closeBrace] = [] := rfl
        rw [scan_silent hidden]
        simp only [Bool.true_eq_false, false_and, iff_false]
        intro found
        have bounds := scan_complete_lt found
        omega
    | false =>
        rw [scan_mark shown positive]
        by_cases next : 0 < 1 + depth (visible false text) + sign false
        · rw [if_pos next]
          have open' : depth (visible false text) ≠ 0 := by
            intro zero
            rw [zero] at next
            contradiction
          simp only [open', and_false, iff_false]
          intro found
          have bounds := scan_complete_lt found
          omega
        · have closed : depth (visible false text) = 0 := by
            simp only [sign, Bool.false_eq_true, if_false] at next
            omega
          rw [if_neg next]
          simp [stays, closed]
  · obtain ⟨msgPos, early, found⟩ : ∃ msgPos < start + text.length,
        scan false 1 start (text ++ closeBrace :: rest) = .complete msgPos :=
      scan_falls one_pos stays _
    rw [found]
    simp only [Scan.complete.injEq, stays, false_and, and_false, iff_false]
    omega

end JsonRpc
end Faf
