import Tierd.Data.Text

namespace Tierd.Data

/-- The number as `%d` prints it. -/
def decimal (n : Nat) : Text := Nat.toDigits 10 n

theorem isDigit_of_mem_decimal {n : Nat} {c : Char} (member : c ∈ decimal n) : c.isDigit = true :=
  Nat.isDigit_of_mem_toDigits (by decide) (by decide) member

theorem decimal_inj {m n : Nat} (same : decimal m = decimal n) : m = n := by
  have value (k : Nat) : Nat.ofDigitChars 10 (decimal k) 0 = k := Nat.ofDigitChars_toDigits (by decide) (by decide)
  rw [← value m, same, value n]

theorem not_mem_decimal {n : Nat} {c : Char} (other : c.isDigit = false) : c ∉ decimal n := by
  intro member
  exact absurd ((isDigit_of_mem_decimal member).symm.trans other) (by decide)

theorem append_cons_inj {separator : Char} {first second x y : Text} (left : separator ∉ x) (right : separator ∉ y) :
    first ++ separator :: x = second ++ separator :: y ↔ first = second ∧ x = y := by
  refine ⟨fun same => ?_, fun ⟨one, two⟩ => by rw [one, two]⟩
  rcases List.append_eq_append_iff.mp same with ⟨more, whole, rest⟩ | ⟨more, whole, rest⟩
  · cases more with
    | nil => exact ⟨by simpa using whole.symm, by simpa using rest⟩
    | cons c more =>
      have later : x = more ++ separator :: y := (List.cons.inj rest).2
      exact absurd (later ▸ by simp) left
  · cases more with
    | nil => exact ⟨by simpa using whole, by simpa using rest.symm⟩
    | cons c more =>
      have later : y = more ++ separator :: x := (List.cons.inj rest).2
      exact absurd (later ▸ by simp) right

end Tierd.Data
