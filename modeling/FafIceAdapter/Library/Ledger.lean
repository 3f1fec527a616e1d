import Mathlib.Tactic

/-- The messages that a writer was asked to write and what the other side accepted of them. -/
structure Ledger (A : Type) where
  addressed : List (List A)
  accepted : List A

namespace Ledger

variable {A : Type}

def empty : Ledger A := ⟨[], []⟩

/-- The start of a message is accepted. -/
def send (message : List A) (count : Nat) (ledger : Ledger A) : Ledger A :=
  ⟨ledger.addressed ++ [message], ledger.accepted ++ message.take count⟩

/-- The accepted elements are the start of the messages. -/
def Framed (ledger : Ledger A) : Prop := ledger.accepted <+: ledger.addressed.flatten

/-- The ledger of some writes, each of a message with the number of elements that were accepted of it. -/
def after (writes : List (List A × Nat)) : Ledger A :=
  ⟨writes.map Prod.fst, writes.flatMap fun write => write.1.take write.2⟩

theorem after_concat (writes : List (List A × Nat)) (message : List A) (count : Nat) :
    after (writes ++ [(message, count)]) = (after writes).send message count := by
  rw [after, List.map_append, List.flatMap_append, List.flatMap_singleton]
  rfl

/-- After a write that was not accepted whole, nothing is accepted any more. -/
def Stops (writes : List (List A × Nat)) : Prop :=
  writes.Pairwise fun earlier later => earlier.2 < earlier.1.length → later.2 = 0

instance (writes : List (List A × Nat)) : Decidable (Stops writes) :=
  inferInstanceAs (Decidable (writes.Pairwise _))

/-- A reader that stops at a gap has got the start of the messages. -/
theorem Stops.framed {writes : List (List A × Nat)} (stops : Stops writes) : (after writes).Framed := by
  induction writes with
  | nil => exact List.nil_prefix
  | cons write rest ih =>
      obtain ⟨later, others⟩ := List.pairwise_cons.mp stops
      have following := ih others
      unfold Framed after at following ⊢
      rw [List.flatMap_cons, List.map_cons, List.flatten_cons]
      by_cases short : write.2 < write.1.length
      · have nothing : (rest.flatMap fun write => write.1.take write.2) = [] := by
          rw [List.flatMap_eq_nil_iff]
          intro next member
          rw [later next member short, List.take_zero]
        rw [nothing, List.append_nil]
        exact (List.take_prefix _ _).trans (List.prefix_append _ _)
      · rw [List.take_of_length_le (Nat.le_of_not_lt short)]
        exact (List.prefix_append_right_inj _).mpr following

end Ledger
