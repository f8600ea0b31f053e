import Tierd.Data.Bytes

namespace Tierd.Data

open List

variable {α : Type}

/-- The first items of `old` replaced by those of `fresh`, as far as there is room. -/
def overwrite (fresh old : List α) : List α := fresh.take old.length ++ old.drop fresh.length

theorem overwrite_of_le {fresh old : List α} (room : fresh.length ≤ old.length) :
    overwrite fresh old = fresh ++ old.drop fresh.length := by
  rw [overwrite, take_of_length_le room]

@[simp] theorem overwrite_length (fresh old : List α) : (overwrite fresh old).length = old.length := by
  simp only [overwrite, length_append, length_take, length_drop]
  omega

@[simp] theorem overwrite_nil (old : List α) : overwrite [] old = old := by
  rw [overwrite, take_nil, nil_append, length_nil, drop_zero]

theorem overwrite_append {fresh first : List α} (within : fresh.length ≤ first.length) (second : List α) :
    overwrite fresh (first ++ second) = overwrite fresh first ++ second := by
  have room : fresh.length ≤ (first ++ second).length := by
    rw [length_append]
    omega
  rw [overwrite_of_le room, overwrite_of_le within, drop_append_of_le_length within, append_assoc]

theorem overwrite_append_append {fresh first : List α} (same : fresh.length = first.length) (more second : List α) :
    overwrite (fresh ++ more) (first ++ second) = fresh ++ overwrite more second := by
  unfold overwrite
  rw [length_append, length_append, ← same, take_length_add_append, append_assoc,
    drop_append, drop_eq_nil_of_le (by omega), same, Nat.add_sub_cancel_left, nil_append]

/-- The number of places at which two strings differ. -/
def differences [DecidableEq α] : List α → List α → Nat
  | old :: olds, new :: news => (if old = new then 0 else 1) + differences olds news
  | _, _ => 0

section

variable [DecidableEq α]

theorem eq_of_differences_eq_zero {old new : List α} (lengths : old.length = new.length)
    (none : differences old new = 0) : old = new := by
  induction old generalizing new with
  | nil => exact (length_eq_zero_iff.mp lengths.symm).symm
  | cons first rest ih =>
    cases new with
    | nil => nomatch lengths
    | cons other others =>
      simp only [differences, Nat.add_eq_zero_iff] at none
      obtain rfl : first = other := by
        by_contra different
        simp [different] at none
      rw [ih (Nat.succ.inj lengths) none.2]

theorem differences_self (text : List α) : differences text text = 0 := by
  induction text with
  | nil => rfl
  | cons first rest ih => simp [differences, ih]

theorem overwrite_take_eq_iff {old new : List α} (lengths : old.length = new.length) :
    (∀ count, overwrite (new.take count) old = old ∨ overwrite (new.take count) old = new) ↔
      differences old new ≤ 1 := by
  induction old generalizing new with
  | nil => simp [overwrite, differences]
  | cons first rest ih =>
    cases new with
    | nil => nomatch lengths
    | cons other others =>
      have step : ∀ count, overwrite ((other :: others).take (count + 1)) (first :: rest) =
          other :: overwrite (others.take count) rest := fun count =>
        overwrite_append_append (rfl : [other].length = [first].length) (others.take count) rest
      have inner := ih (Nat.succ.inj lengths)
      by_cases same : first = other
      case pos =>
        subst same
        rw [differences, if_pos rfl, Nat.zero_add, ← inner]
        constructor
        · intro outcomes count
          have outcome := outcomes (count + 1)
          rwa [step, cons_inj_right, cons_inj_right] at outcome
        · intro outcomes count
          cases count with
          | zero => exact .inl rfl
          | succ count =>
            rw [step, cons_inj_right, cons_inj_right]
            exact outcomes count
      case neg =>
        rw [differences, if_neg same]
        constructor
        · intro outcomes
          have stopped := outcomes 1
          rw [step, take_zero, overwrite_nil] at stopped
          have rest_eq : rest = others := by
            rcases stopped with back | done
            · exact absurd (List.cons.inj back).1.symm same
            · exact (List.cons.inj done).2
          rw [rest_eq, differences_self]
        · intro once
          obtain rfl : rest = others := eq_of_differences_eq_zero (Nat.succ.inj lengths) (by omega)
          intro count
          cases count with
          | zero => exact .inl rfl
          | succ count =>
            right
            rw [step]
            rcases inner.mpr (by omega) count with kept | kept <;> rw [kept]

end

theorem fromLittleEndian_append (first second : Bytes) :
    fromLittleEndian (first ++ second) = fromLittleEndian first + 256 ^ first.length * fromLittleEndian second := by
  induction first with
  | nil => simp [fromLittleEndian]
  | cons byte rest ih =>
    rw [cons_append, fromLittleEndian, ih, fromLittleEndian, length_cons, pow_succ]
    ring

theorem littleEndian_take (width value count : Nat) :
    (littleEndian width value).take count = littleEndian (min count width) value := by
  induction width generalizing value count with
  | zero => simp [littleEndian]
  | succ width ih =>
    cases count with
    | zero => simp [littleEndian]
    | succ count => rw [littleEndian, take_succ_cons, ih, Nat.succ_min_succ, littleEndian]

theorem fromLittleEndian_drop (bytes : Bytes) (count : Nat) :
    fromLittleEndian (bytes.drop count) = fromLittleEndian bytes / 256 ^ count := by
  induction bytes generalizing count with
  | nil => simp [fromLittleEndian]
  | cons byte rest ih =>
    cases count with
    | zero => simp
    | succ count =>
      have small := byte.toNat_lt
      rw [drop_succ_cons, ih, fromLittleEndian, pow_succ, mul_comm (256 ^ count), ← Nat.div_div_eq_div_mul]
      congr 1
      omega

/-- A number of which the low `count` bytes have been replaced. -/
def mixed (count old new : Nat) : Nat := new % 256 ^ count + 256 ^ count * (old / 256 ^ count)

theorem fromLittleEndian_overwrite {width : Nat} {field : Bytes} (lengths : field.length = width) {count : Nat}
    (within : count ≤ width) (value : Nat) :
    fromLittleEndian (overwrite ((littleEndian width value).take count) field) =
      mixed count (fromLittleEndian field) value := by
  have taken : ((littleEndian width value).take count).length = count := by
    rw [length_take, littleEndian_length, Nat.min_eq_left within]
  rw [overwrite_of_le (by omega), fromLittleEndian_append, taken, fromLittleEndian_drop, littleEndian_take,
    Nat.min_eq_left within, fromLittleEndian_littleEndian, mixed]

end Tierd.Data
