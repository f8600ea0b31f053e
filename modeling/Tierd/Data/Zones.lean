import Mathlib

namespace Tierd.Data

/-- Instants are counted in nanoseconds since the epoch. -/
def minute : Int := 60 * 10 ^ 9

def hour : Int := 60 * minute

def day : Int := 24 * hour

inductive Weekday
  | mon
  | tue
  | wed
  | thu
  | fri
  | sat
  | sun
  deriving DecidableEq

def week : List Weekday := [.mon, .tue, .wed, .thu, .fri, .sat, .sun]

/-- The day with number zero was a Thursday. -/
def weekday (number : Int) : Weekday :=
  match (number % 7).toNat with
  | 0 => .thu
  | 1 => .fri
  | 2 => .sat
  | 3 => .sun
  | 4 => .mon
  | 5 => .tue
  | _ => .wed

theorem mem_week (name : Weekday) : name ∈ week := by cases name <;> decide

theorem exists_weekday (number : Int) (name : Weekday) :
    ∃ later : Int, number ≤ later ∧ later < number + 7 ∧ weekday later = name := by
  have remainder : ∃ rest : Int, 0 ≤ rest ∧ rest < 7 ∧ ∀ later : Int, later % 7 = rest → weekday later = name := by
    cases name with
    | thu => exact ⟨0, by decide, by decide, fun later same => by simp [weekday, same]⟩
    | fri => exact ⟨1, by decide, by decide, fun later same => by simp [weekday, same]⟩
    | sat => exact ⟨2, by decide, by decide, fun later same => by simp [weekday, same]⟩
    | sun => exact ⟨3, by decide, by decide, fun later same => by simp [weekday, same]⟩
    | mon => exact ⟨4, by decide, by decide, fun later same => by simp [weekday, same]⟩
    | tue => exact ⟨5, by decide, by decide, fun later same => by simp [weekday, same]⟩
    | wed => exact ⟨6, by decide, by decide, fun later same => by simp [weekday, same]⟩
  obtain ⟨rest, low, high, right⟩ := remainder
  exact ⟨number + (rest - number) % 7, by omega, by omega, right _ (by omega)⟩

/-- The number of the day, counted from the epoch. -/
def dayOf (reading : Int) : Int := reading / day

def minuteOf (reading : Int) : Int := reading % day / minute

/-- A zone says what its clocks show and which instant is meant by a date and a time of day. A
reading that the clocks skip is resolved to any instant. -/
structure Zone where
  offset : Int → Int
  date : Int → Int
  shown : ∀ instant, date (instant + offset instant) + offset (date (instant + offset instant)) =
    instant + offset instant

/-- What the clocks show, as the instant at which UTC shows it. -/
def Zone.clock (zone : Zone) (instant : Int) : Int := instant + zone.offset instant

def utc : Zone where
  offset := fun _ => 0
  date := fun reading => reading
  shown := fun _ => by simp

/-- `AddDate` with a number of days. -/
def Zone.addDays (zone : Zone) (instant count : Int) : Int := zone.date (zone.clock instant + count * day)

theorem minuteOf_count (number : Int) {count : Nat} (within : count < 1440) :
    minuteOf (number * day + count * minute) = count := by
  unfold minuteOf day hour minute
  omega

theorem dayOf_bounds (now offset : Int) : dayOf (now + offset) * day ≤ now + offset ∧
    now + offset < dayOf (now + offset) * day + day := by
  unfold dayOf day hour minute
  omega

section Fixed

variable {zone : Zone} {offset : Int} (fixed : ∀ instant, zone.offset instant = offset)

include fixed in
theorem Zone.date_fixed (reading : Int) : zone.date reading = reading - offset := by
  have shown := zone.shown (reading - offset)
  simp only [fixed, sub_add_cancel] at shown
  omega

include fixed in
theorem Zone.addDays_fixed (instant count : Int) : zone.addDays instant count = instant + count * day := by
  rw [Zone.addDays, Zone.date_fixed fixed, Zone.clock, fixed]
  ring

include fixed in
theorem Zone.dayOf_addDays (instant count : Int) :
    dayOf (zone.clock (zone.addDays instant count)) = dayOf (instant + offset) + count := by
  rw [Zone.addDays_fixed fixed, Zone.clock, fixed, dayOf, dayOf, add_right_comm]
  exact Int.add_mul_ediv_right _ _ (by decide)

end Fixed

end Tierd.Data
