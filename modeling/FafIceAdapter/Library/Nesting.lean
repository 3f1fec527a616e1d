import FafIceAdapter.Library.Sequence

namespace Nesting

/-- An opening mark is `true`. -/
def sign (mark : Bool) : Int := if mark then 1 else -1

def depth (marks : List Bool) : Int := (marks.map sign).sum

@[simp] theorem depth_nil : depth [] = 0 := rfl

@[simp] theorem depth_cons (mark : Bool) (marks : List Bool) :
    depth (mark :: marks) = sign mark + depth marks := by
  simp [depth]

@[simp] theorem depth_append (first second : List Bool) :
    depth (first ++ second) = depth first + depth second := by
  simp [depth]

/-- The level stays positive at every moment. -/
def Stays (level : Int) (marks : List Bool) : Prop := ∀ part, part <+: marks → 0 < level + depth part

theorem stays_nil {level : Int} : Stays level [] ↔ 0 < level := by
  simp [Stays]

theorem stays_cons {level : Int} {mark : Bool} {marks : List Bool} :
    Stays level (mark :: marks) ↔ 0 < level ∧ Stays (level + sign mark) marks := by
  constructor
  · intro stays
    refine ⟨by simpa using stays [] List.nil_prefix, ?_⟩
    intro part within
    have later := stays (mark :: part) ((List.prefix_cons_inj mark).mpr within)
    rw [depth_cons] at later
    omega
  · intro both part within
    obtain ⟨positive, stays⟩ := both
    cases part with
    | nil => simpa using positive
    | cons other part =>
        obtain ⟨rfl, inside⟩ := List.cons_prefix_cons.mp within
        have later := stays part inside
        rw [depth_cons]
        omega

/-- Every opening mark is closed later. -/
structure Balanced (marks : List Bool) : Prop where
  nonneg : ∀ part, part <+: marks → 0 ≤ depth part
  closed : depth marks = 0

theorem balanced_iff_stays {marks : List Bool} : Balanced marks ↔ Stays 1 marks ∧ depth marks = 0 := by
  constructor
  · intro balanced
    refine ⟨fun part within => ?_, balanced.closed⟩
    have nonneg := balanced.nonneg part within
    omega
  · intro both
    obtain ⟨stays, closed⟩ := both
    refine ⟨fun part within => ?_, closed⟩
    have positive := stays part within
    omega

theorem balanced_nil : Balanced [] := balanced_iff_stays.mpr ⟨stays_nil.mpr one_pos, rfl⟩

theorem balanced_append {first second : List Bool} (start : Balanced first) (continued : Balanced second) :
    Balanced (first ++ second) where
  nonneg part within := by
    rcases Sequence.prefix_append_cases within with ⟨inside, _⟩ | ⟨tail, rfl, inside⟩
    · exact start.nonneg part inside
    · have nonneg := continued.nonneg tail inside
      rw [depth_append, start.closed]
      omega
  closed := by rw [depth_append, start.closed, continued.closed, add_zero]

/-- A pair of marks around a balanced sequence is balanced. -/
theorem balanced_wrap {marks : List Bool} (balanced : Balanced marks) :
    Balanced (true :: (marks ++ [false])) where
  nonneg part within := by
    cases part with
    | nil => simp
    | cons mark part =>
        obtain ⟨rfl, inside⟩ := List.cons_prefix_cons.mp within
        rcases List.prefix_concat_iff.mp inside with rfl | inner
        · simp [sign, balanced.closed]
        · have nonneg := balanced.nonneg part inner
          rw [depth_cons]
          simp only [sign, if_true]
          omega
  closed := by simp [sign, balanced.closed]

end Nesting
