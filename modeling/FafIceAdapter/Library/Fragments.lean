import FafIceAdapter.Library.StreamReader

namespace StreamReader.Reader

variable {A M N : Type}

/-- What a reader decides on a buffer it also decides on every continuation of it. -/
structure Persistent (reader : Reader A M) : Prop where
  failed : ∀ {buffer}, reader buffer = .failed → ∀ more, reader (buffer ++ more) = .failed
  value : ∀ {buffer rest result}, reader buffer = .value result rest →
    ∀ more, reader (buffer ++ more) = .value result (rest ++ more)

theorem persistent_pure (result : M) : Persistent (Pure.pure result : Reader A M) where
  failed fails := by contradiction
  value read more := by
    obtain ⟨rfl, rfl⟩ := Reading.value.inj read
    rfl

theorem persistent_wait : Persistent (wait : Reader A M) where
  failed fails := by contradiction
  value read := by contradiction

theorem persistent_fail : Persistent (fail : Reader A M) where
  failed _ _ := rfl
  value read := by contradiction

theorem persistent_take (count : Nat) : Persistent (take count : Reader A (List A)) where
  failed fails := by
    unfold take at fails
    split at fails <;> contradiction
  value read more := by
    obtain ⟨rfl, exact⟩ := take_value.mp read
    exact take_value.mpr ⟨List.append_assoc _ _ _, exact⟩

/-- A sequence fails exactly when one of its parts does. -/
theorem bind_failed {reader : Reader A M} {next : M → Reader A N} {buffer : List A} :
    (reader >>= next) buffer = .failed ↔
      reader buffer = .failed ∨
        ∃ first middle, reader buffer = .value first middle ∧ next first middle = .failed := by
  change bind reader next buffer = _ ↔ _
  unfold bind
  cases reader buffer <;> simp

/-- A sequence waits exactly when one of its parts does. -/
theorem bind_waiting {reader : Reader A M} {next : M → Reader A N} {buffer : List A} :
    (reader >>= next) buffer = .waiting ↔
      reader buffer = .waiting ∨
        ∃ first middle, reader buffer = .value first middle ∧ next first middle = .waiting := by
  change bind reader next buffer = _ ↔ _
  unfold bind
  cases reader buffer <;> simp

theorem Persistent.bind {reader : Reader A M} {next : M → Reader A N} (start : Persistent reader)
    (continued : ∀ first, Persistent (next first)) : Persistent (reader >>= next) where
  failed fails more := by
    rcases bind_failed.mp fails with failed | ⟨first, middle, read, failed⟩
    · exact bind_of_failed (start.failed failed more)
    · rw [bind_of_value (start.value read more)]
      exact (continued first).failed failed more
  value read more := by
    obtain ⟨first, middle, headRead, tailRead⟩ := bind_value.mp read
    rw [bind_of_value (start.value headRead more)]
    exact (continued first).value tailRead more

theorem Persistent.require {reader : Reader A M} (persistent : Persistent reader) (count : Nat) :
    Persistent (require count reader) where
  failed {buffer} fails more := by
    unfold Reader.require at fails ⊢
    split at fails
    · contradiction
    · have enough : ¬ (buffer ++ more).length < count := by
        simp only [List.length_append]
        omega
      rw [if_neg enough]
      exact persistent.failed fails more
  value {buffer rest result} read more := by
    unfold Reader.require at read ⊢
    split at read
    · contradiction
    · have enough : ¬ (buffer ++ more).length < count := by
        simp only [List.length_append]
        omega
      rw [if_neg enough]
      exact persistent.value read more

theorem Persistent.times {reader : Reader A M} (persistent : Persistent reader) (count : Nat) :
    Persistent (times reader count) := by
  induction count with
  | zero => exact persistent_pure []
  | succ count ih => exact persistent.bind fun head => ih.bind fun tail => persistent_pure (head :: tail)

/-- Earlier messages come before those of a later part of the stream. -/
def Drained.after (earlier : List M) (later : Drained A M) : Drained A M :=
  { later with delivered := earlier ++ later.delivered }

@[simp] theorem Drained.after_nil (later : Drained A M) : later.after [] = later := rfl

/-- A connection appends what it received and reads again, unless an error ended it. -/
def feed (reader : Reader A M) (connection : Drained A M) (received : List A) : Drained A M :=
  if connection.failed then connection
  else (drain reader (connection.buffer ++ received)).after connection.delivered

section Feeding

variable {reader : Reader A M} (persistent : Persistent reader) (shortens : Shortens reader)
include persistent shortens

/-- A failed loop fails in the same place when more follows. -/
theorem drain_append_failed {buffer : List A} (fails : (drain reader buffer).failed = true) (more : List A) :
    (drain reader (buffer ++ more)).failed = true ∧
      (drain reader (buffer ++ more)).delivered = (drain reader buffer).delivered := by
  induction size : buffer.length using Nat.strong_induction_on generalizing buffer with
  | _ size ih =>
      subst size
      cases read : reader buffer with
      | waiting =>
          rw [drain_waiting read] at fails
          contradiction
      | failed =>
          have later := persistent.failed read more
          simp [drain, drainFor, read, later]
      | value message rest =>
          rw [drain_value shortens read] at fails
          obtain ⟨failed, same⟩ := ih _ (shortens read) fails rfl
          rw [drain_value shortens read, drain_value shortens (persistent.value read more)]
          exact ⟨failed, congrArg (message :: ·) same⟩

/-- Reading a stream is reading its first part and then what that left with the second part. -/
theorem drain_append {buffer : List A} (completes : (drain reader buffer).failed = false) (more : List A) :
    drain reader (buffer ++ more) =
      (drain reader ((drain reader buffer).buffer ++ more)).after (drain reader buffer).delivered := by
  induction size : buffer.length using Nat.strong_induction_on generalizing buffer with
  | _ size ih =>
      subst size
      cases read : reader buffer with
      | waiting => simp [drain_waiting read]
      | failed => simp [drain, drainFor, read] at completes
      | value message rest =>
          rw [drain_value shortens read] at completes ⊢
          rw [drain_value shortens (persistent.value read more), ih _ (shortens read) completes rfl]
          rfl

/-- A connection that appends part after part delivers and keeps what one reading of the whole does. -/
theorem foldl_feed (parts : List (List A)) (completes : (drain reader parts.flatten).failed = false) :
    parts.foldl (feed reader) (drain reader []) = drain reader parts.flatten := by
  induction parts using List.reverseRecOn with
  | nil => rfl
  | append_singleton parts part ih =>
      rw [List.flatten_append, List.flatten_singleton] at completes ⊢
      have earlier : (drain reader parts.flatten).failed = false := by
        rw [← Bool.not_eq_true]
        intro fails
        have failed := (drain_append_failed persistent shortens fails part).1
        rw [failed] at completes
        contradiction
      rw [List.foldl_append, List.foldl_cons, List.foldl_nil, ih earlier, feed, if_neg (by simp [earlier]),
        drain_append persistent shortens earlier part]

/-- A connection that has not failed has read the whole stream without a failure. -/
theorem foldl_feed_completes (parts : List (List A))
    (completes : (parts.foldl (feed reader) (drain reader [])).failed = false) :
    (drain reader parts.flatten).failed = false := by
  induction parts using List.reverseRecOn with
  | nil => exact completes
  | append_singleton parts part ih =>
      rw [List.foldl_append, List.foldl_cons, List.foldl_nil, feed] at completes
      split at completes
      · rename_i failed
        rw [failed] at completes
        contradiction
      · rename_i earlier
        have whole := ih (Bool.not_eq_true _ ▸ earlier)
        rw [foldl_feed persistent shortens parts whole] at completes
        rw [List.flatten_append, List.flatten_singleton, drain_append persistent shortens whole part]
        exact completes

end Feeding

/-- Some continuation turns the buffer into one value. -/
def Completable (reader : Reader A M) (buffer : List A) : Prop :=
  ∃ more result, reader (buffer ++ more) = .value result []

theorem completable_pure (result : M) : Completable (Pure.pure result : Reader A M) [] := ⟨[], result, rfl⟩

/-- A part that is read hands its rest over to the completion of the sequence. -/
theorem completable_of_value {reader : Reader A M} {next : M → Reader A N} {buffer middle : List A}
    {first : M} (persistent : Persistent reader) (read : reader buffer = .value first middle)
    (continued : Completable (next first) middle) : Completable (reader >>= next) buffer := by
  obtain ⟨more, result, completed⟩ := continued
  refine ⟨more, result, ?_⟩
  rw [bind_of_value (persistent.value read more)]
  exact completed

/-- A completed part is followed by a completion of the rest from nothing. -/
theorem completable_bind {reader : Reader A M} {next : M → Reader A N} {buffer more : List A} {first : M}
    (persistent : Persistent reader) (read : reader (buffer ++ more) = .value first [])
    (continued : Completable (next first) []) : Completable (reader >>= next) buffer := by
  obtain ⟨later, result, completed⟩ := completable_of_value persistent read continued
  exact ⟨more ++ later, result, by rwa [← List.append_assoc]⟩

theorem completable_map {reader : Reader A M} {buffer : List A} (persistent : Persistent reader)
    (completable : Completable reader buffer) (f : M → N) :
    Completable (do let value ← reader; return f value) buffer := by
  obtain ⟨more, value, read⟩ := completable
  exact completable_bind persistent read (completable_pure (f value))

theorem completable_require {reader : Reader A M} {buffer : List A} {count : Nat}
    (completable : Completable reader buffer) (long : ¬ buffer.length < count) :
    Completable (require count reader) buffer := by
  obtain ⟨more, value, read⟩ := completable
  have enough : ¬ (buffer ++ more).length < count := by
    simp only [List.length_append]
    omega
  exact ⟨more, value, by rwa [require, if_neg enough]⟩

theorem completable_times {reader : Reader A M} (persistent : Persistent reader)
    (one : Completable reader []) (count : Nat) : Completable (times reader count) [] := by
  induction count with
  | zero => exact completable_pure []
  | succ count ih =>
      obtain ⟨more, first, read⟩ := one
      have others := completable_map (persistent.times count) ih (first :: ·)
      exact completable_bind persistent read others

/-- A repetition that waits can be completed, or one of its values starts with something blocked. -/
theorem times_waiting {reader : Reader A M} {encode : M → List A} {valid : M → Prop}
    {blocked : List A → Prop} (persistent : Persistent reader) (precise : Exact reader encode valid)
    (each : ∀ buffer, reader buffer = .waiting → Completable reader buffer ∨ blocked buffer)
    (one : Completable reader []) {count : Nat} {buffer : List A}
    (waits : times reader count buffer = .waiting) :
    Completable (times reader count) buffer ∨
      ∃ (values : List M) (rest : List A), buffer = values.flatMap encode ++ rest ∧ values.length < count ∧
        (∀ value ∈ values, valid value) ∧ blocked rest := by
  induction count generalizing buffer with
  | zero => contradiction
  | succ count ih =>
      rcases bind_waiting.mp waits with headWaits | ⟨head, middle, headRead, tailWaits⟩
      · rcases each buffer headWaits with ⟨more, head, read⟩ | stuck
        · have others := completable_map (persistent.times count)
            (completable_times persistent one count) (head :: ·)
          exact .inl (completable_bind persistent read others)
        · exact .inr ⟨[], buffer, rfl, Nat.succ_pos count, List.forall_mem_nil _, stuck⟩
      · obtain ⟨rfl, headValid⟩ := precise headRead
        rcases bind_waiting.mp tailWaits with inner | ⟨_, _, _, last⟩
        · rcases ih inner with completable | ⟨values, rest, rfl, few, valuesValid, stuck⟩
          · have others := completable_map (persistent.times count) completable (head :: ·)
            exact .inl (completable_of_value persistent headRead others)
          · exact .inr ⟨head :: values, rest, by simp, Nat.succ_lt_succ few,
              List.forall_mem_cons.mpr ⟨headValid, valuesValid⟩, stuck⟩
        · contradiction

/-- A repetition waits where the reader waits after fewer values than it needs. -/
theorem times_stuck {reader : Reader A M} (encode : N → List A) (decoded : N → M) (values : List N)
    (each : ∀ value ∈ values, Reads reader (encode value) (decoded value)) {count : Nat}
    (few : values.length < count) {rest : List A} (stuck : reader rest = .waiting) :
    times reader count (values.flatMap encode ++ rest) = .waiting := by
  induction values generalizing count with
  | nil =>
      obtain ⟨count, rfl⟩ : ∃ other, count = other + 1 := ⟨count - 1, by simp at few; omega⟩
      exact bind_of_waiting stuck
  | cons head tail ih =>
      rw [List.length_cons] at few
      obtain ⟨count, rfl⟩ : ∃ other, count = other + 1 := ⟨count - 1, by omega⟩
      have first := (each head List.mem_cons_self).whole (tail.flatMap encode ++ rest)
      have others := ih (fun value member => each value (List.mem_cons_of_mem head member))
        (Nat.lt_of_succ_lt_succ few)
      rw [List.flatMap_cons, List.append_assoc]
      exact (bind_of_value first).trans (bind_of_waiting others)

end StreamReader.Reader
