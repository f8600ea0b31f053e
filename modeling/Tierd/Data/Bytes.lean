import Mathlib

namespace Tierd.Data

/-- A byte string, as read from and written to files and databases. -/
abbrev Bytes := List UInt8

/-- The low `width` bytes of a number, least significant first. -/
def littleEndian : Nat → Nat → Bytes
  | 0, _ => []
  | width + 1, value => UInt8.ofNat (value % 256) :: littleEndian width (value / 256)

/-- The number a byte string spells, least significant byte first. -/
def fromLittleEndian : Bytes → Nat
  | [] => 0
  | byte :: rest => byte.toNat + 256 * fromLittleEndian rest

@[simp] theorem littleEndian_length (width value : Nat) : (littleEndian width value).length = width := by
  induction width generalizing value with
  | zero => rfl
  | succ width ih => simp only [littleEndian, List.length_cons, ih]

@[simp] theorem fromLittleEndian_littleEndian (width value : Nat) :
    fromLittleEndian (littleEndian width value) = value % 256 ^ width := by
  induction width generalizing value with
  | zero => simp [littleEndian, fromLittleEndian, Nat.mod_one]
  | succ width ih =>
    have low : (UInt8.ofNat (value % 256)).toNat = value % 256 := by simp
    rw [littleEndian, fromLittleEndian, ih, low, pow_succ, mul_comm (256 ^ width) 256, Nat.mod_mul]

/-- Reading on from where a read stopped. -/
theorem take_append_chunk (bytes : Bytes) (offset count : Nat) :
    bytes.take offset ++ (bytes.drop offset).take count =
      bytes.take (offset + ((bytes.drop offset).take count).length) := by
  rw [List.take_add, List.length_take, ← List.take_eq_take_min]

/-- The bytes `low` up to `high` of a string. -/
def slice (low high : Nat) (bytes : Bytes) : Bytes := (bytes.drop low).take (high - low)

theorem slice_append {low high : Nat} (before piece after : Bytes)
    (start : before.length = low) (stop : low + piece.length = high) :
    slice low high (before ++ (piece ++ after)) = piece := by
  have width : high - low = piece.length := by omega
  rw [slice, ← start, List.drop_left, start, width, List.take_left]

end Tierd.Data
