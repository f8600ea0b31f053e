import Mathlib

namespace Tierd.Data

variable {κ ν ω : Type*} [DecidableEq κ] (key : ω → κ) (effect : ω → ν → ν)

/-- Applies an operation to its cell. -/
def updateCell (cells : κ → ν) (op : ω) : κ → ν :=
  Function.update cells (key op) (effect op (cells (key op)))

variable {key effect}

theorem updateCell_comm {cells : κ → ν} {first second : ω} (apart : key first ≠ key second) :
    updateCell key effect (updateCell key effect cells first) second =
      updateCell key effect (updateCell key effect cells second) first := by
  simp only [updateCell, Function.update_of_ne apart, Function.update_of_ne apart.symm]
  exact Function.update_comm apart _ _ _

theorem foldl_updateCell_overtakes {before after : List ω} {op : ω}
    (apart : ∀ earlier ∈ before, key earlier ≠ key op) (cells : κ → ν) :
    (before ++ op :: after).foldl (updateCell key effect) cells =
      (before ++ after).foldl (updateCell key effect) (updateCell key effect cells op) := by
  induction before generalizing cells with
  | nil => rfl
  | cons first rest ih =>
    have restApart : ∀ earlier ∈ rest, key earlier ≠ key op :=
      fun earlier member => apart earlier (List.mem_cons_of_mem first member)
    simp only [List.cons_append, List.foldl_cons]
    rw [ih restApart, updateCell_comm (apart first List.mem_cons_self)]

end Tierd.Data
