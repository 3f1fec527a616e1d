import Mathlib.Tactic

namespace Generations

section Stream

variable {A G : Type} [Preorder G]

/-- A stream from one generation to another. An announcement starts a generation that is not earlier, and
any other item belongs to the generation before it. -/
inductive Stream (announces : A → Prop) (mark : A → G) : G → List A → G → Prop
  | nil (current : G) : Stream announces mark current [] current
  | announce {item : A} {rest : List A} {current last : G} (announced : announces item)
      (later : current ≤ mark item) (stream : Stream announces mark (mark item) rest last) :
      Stream announces mark current (item :: rest) last
  | follow {item : A} {rest : List A} {current last : G} (other : ¬ announces item)
      (same : mark item = current) (stream : Stream announces mark current rest last) :
      Stream announces mark current (item :: rest) last

variable {announces : A → Prop} {mark : A → G} {items : List A} {first last : G}

theorem Stream.le (stream : Stream announces mark first items last) : first ≤ last := by
  induction stream with
  | nil current => exact le_refl current
  | announce _ later _ ih => exact later.trans ih
  | follow _ _ _ ih => exact ih

/-- A new announcement ends the stream. -/
theorem Stream.append_announce (stream : Stream announces mark first items last) (item : A)
    (announced : announces item) (later : last ≤ mark item) :
    Stream announces mark first (items ++ [item]) (mark item) := by
  induction stream with
  | nil current => exact .announce announced later (.nil (mark item))
  | announce announced' later' _ ih => exact .announce announced' later' (ih later)
  | follow other same _ ih => exact .follow other same (ih later)

/-- An item of the last generation keeps the end of the stream. -/
theorem Stream.append_follow (stream : Stream announces mark first items last) (item : A)
    (other : ¬ announces item) (same : mark item = last) :
    Stream announces mark first (items ++ [item]) last := by
  induction stream with
  | nil current => exact .follow other same (.nil current)
  | announce announced later _ ih => exact .announce announced later (ih same)
  | follow other' same' _ ih => exact .follow other' same' (ih same)

end Stream

section History

variable {G : Type} [Preorder G] {past queue sent : List G} {next : G}

/-- The history and the queue stay in order when copies of the first element are recorded. -/
theorem pairwise_deliver (ordered : (past ++ next :: queue).Pairwise (· ≤ ·)) {recorded : List G}
    (copies : ∀ mark ∈ recorded, mark = next) : (past ++ recorded ++ queue).Pairwise (· ≤ ·) := by
  rw [List.pairwise_append, List.pairwise_cons] at ordered
  obtain ⟨before, ⟨first, after⟩, between⟩ := ordered
  rw [List.append_assoc, List.pairwise_append, List.pairwise_append]
  refine ⟨before, ⟨?_, after, ?_⟩, ?_⟩
  · apply List.pairwise_of_forall_mem_list
    intro one inside other inside'
    rw [copies one inside, copies other inside']
  · intro mark inside other inside'
    rw [copies mark inside]
    exact first other inside'
  · intro mark inside other inside'
    rcases List.mem_append.mp inside' with copied | queued
    · rw [copies other copied]
      exact between mark inside next List.mem_cons_self
    · exact between mark inside other (List.mem_cons_of_mem next queued)

/-- Copies of an upper bound can be appended. -/
theorem pairwise_append_bound (ordered : past.Pairwise (· ≤ ·)) (bound : ∀ mark ∈ past, mark ≤ next)
    (copies : ∀ mark ∈ sent, mark = next) : (past ++ sent).Pairwise (· ≤ ·) := by
  rw [List.pairwise_append]
  refine ⟨ordered, ?_, ?_⟩
  · apply List.pairwise_of_forall_mem_list
    intro one inside other inside'
    rw [copies one inside, copies other inside']
  · intro mark inside other inside'
    rw [copies other inside']
    exact bound mark inside

end History

end Generations
