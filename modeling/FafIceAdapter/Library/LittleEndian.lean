import Mathlib.Tactic

namespace LittleEndian

/-- The low bytes of a number come first. -/
def write : Nat → Nat → List UInt8
  | 0, _ => []
  | width + 1, value => UInt8.ofNat value :: write width (value / 256)

def read : List UInt8 → Nat
  | [] => 0
  | byte :: rest => byte.toNat + 256 * read rest

@[simp] theorem write_length (width value : Nat) : (write width value).length = width := by
  induction width generalizing value with
  | zero => rfl
  | succ width ih => simp [write, ih]

/-- The width bounds the number it holds. -/
theorem read_lt (bytes : List UInt8) : read bytes < 256 ^ bytes.length := by
  induction bytes with
  | nil => simp [read]
  | cons byte rest ih =>
      have small := byte.toNat_lt
      simp only [read, List.length_cons, Nat.pow_succ]
      omega

/-- Reading recovers the written number up to the width. -/
theorem read_write (width value : Nat) : read (write width value) = value % 256 ^ width := by
  induction width generalizing value with
  | zero => simp [write, read, Nat.mod_one]
  | succ width ih =>
      have split : value % (256 * 256 ^ width) = value % 256 + 256 * (value / 256 % 256 ^ width) :=
        Nat.mod_mul
      simp only [write, read, ih, UInt8.toNat_ofNat', Nat.pow_succ', split]

/-- Writing recovers the bytes that were read. -/
theorem write_read (bytes : List UInt8) : write bytes.length (read bytes) = bytes := by
  induction bytes with
  | nil => rfl
  | cons byte rest ih =>
      have small := byte.toNat_lt
      have low : UInt8.ofNat (byte.toNat + 256 * read rest) = byte := by
        apply UInt8.toNat_inj.mp
        rw [UInt8.toNat_ofNat']
        omega
      have high : (byte.toNat + 256 * read rest) / 256 = read rest := by omega
      simp only [read, List.length_cons, write, low, high, ih]

/-- A signed word of the given width keeps an integer up to its wrap-around. -/
def writeSigned (width : Nat) (value : Int) : List UInt8 :=
  write width (value % (256 ^ width : Nat)).toNat

def readSigned (bytes : List UInt8) : Int :=
  (read bytes : Int).bmod (256 ^ bytes.length)

@[simp] theorem writeSigned_length (width : Nat) (value : Int) :
    (writeSigned width value).length = width := write_length _ _

/-- The signed round trip narrows the integer to the width. -/
theorem readSigned_writeSigned (width : Nat) (value : Int) :
    readSigned (writeSigned width value) = value.bmod (256 ^ width) := by
  have positive : (0 : Int) < (256 ^ width : Nat) := by positivity
  have nonneg := Int.emod_nonneg value (ne_of_gt positive)
  have below := Int.emod_lt_of_pos value positive
  rw [readSigned, writeSigned, write_length, read_write]
  rw [Nat.mod_eq_of_lt (by omega), Int.toNat_of_nonneg nonneg, Int.emod_bmod]

/-- A read signed word is written back byte for byte. -/
theorem writeSigned_readSigned (bytes : List UInt8) :
    writeSigned bytes.length (readSigned bytes) = bytes := by
  have bound := read_lt bytes
  rw [writeSigned, readSigned, Int.bmod_emod]
  rw [Int.emod_eq_of_lt (by positivity) (by exact_mod_cast bound), Int.toNat_natCast]
  exact write_read bytes

/-- The high bytes of a number are zero. -/
theorem read_append_zeros (bytes : List UInt8) (count : Nat) :
    read (bytes ++ List.replicate count 0) = read bytes := by
  induction bytes with
  | nil =>
      induction count with
      | zero => rfl
      | succ count ih =>
          rw [List.nil_append] at ih ⊢
          simp only [List.replicate_succ, read, ih, UInt8.toNat_zero]
  | cons byte rest ih => simp only [List.cons_append, read, ih]

/-- The unsigned value of a word is written back byte for byte. -/
theorem writeSigned_read (bytes : List UInt8) : writeSigned bytes.length (read bytes) = bytes := by
  have bound := read_lt bytes
  rw [writeSigned, Int.emod_eq_of_lt (by positivity) (by exact_mod_cast bound), Int.toNat_natCast]
  exact write_read bytes

end LittleEndian
