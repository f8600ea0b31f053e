import Tierd.Spindown.Windows

namespace Tierd.Spindown

open Tierd.Data List

def ActiveWindow.Open (window : ActiveWindow) (reading : Int) : Prop :=
  ∃ number, dayName (weekday number) ∈ window.days ∧ number * day + clockMinute window.start * minute ≤ reading ∧
    reading < (if clockMinute window.start < clockMinute window.stop then number else number + 1) * day +
      clockMinute window.stop * minute

structure ActiveWindow.Accepted (window : ActiveWindow) : Prop where
  days : ∃ name, dayName name ∈ window.days
  start : 0 ≤ clockMinute window.start ∧ clockMinute window.start < 24 * 60
  stop : 0 ≤ clockMinute window.stop ∧ clockMinute window.stop < 24 * 60

theorem clockMinute_bounds {text : Text} {given : Int} (parsed : parseClock text = .ok given) :
    0 ≤ clockMinute text ∧ clockMinute text < 24 * 60 := by
  have same : clockMinute text = given := by simp [clockMinute, parsed, Except.toOption]
  rw [same]
  unfold parseClock at parsed
  split at parsed
  case h_2 => cases parsed
  case h_1 =>
    split at parsed
    case h_1 => cases parsed
    case h_2 =>
      split_ifs at parsed with hours
      split at parsed
      case h_1 => cases parsed
      case h_2 =>
        split_ifs at parsed with minutes
        obtain rfl := Except.ok.inj parsed
        omega

theorem expandDay_ne_nil {word : Text} {names : List Weekday} (known : expandDay word = some names) : names ≠ [] := by
  unfold expandDay at known
  split_ifs at known <;> cases known <;> exact cons_ne_nil _ _

theorem expandDays_ne_nil {days : List Text} {names : List Weekday} (given : days ≠ [])
    (known : expandDays days = .ok names) : names ≠ [] := by
  cases days with
  | nil => exact absurd rfl given
  | cons word rest =>
    unfold expandDays at known
    split at known
    case h_1 => cases known
    case h_2 first expanded =>
      obtain ⟨later, -, same⟩ := bind_eq_ok.mp known
      obtain rfl := Except.ok.inj same
      exact append_ne_nil_of_left_ne_nil (expandDay_ne_nil expanded) _

theorem exists_day {days normal : List Text} (done : normalizeDays days = .ok normal) :
    ∃ name, dayName name ∈ normal := by
  unfold normalizeDays at done
  split_ifs at done with empty
  · obtain rfl := Except.ok.inj done
    exact ⟨.mon, mem_map_of_mem (mem_week .mon)⟩
  · obtain ⟨names, expanded, same⟩ := bind_eq_ok.mp done
    obtain rfl := Except.ok.inj same
    obtain ⟨name, member⟩ := exists_mem_of_ne_nil names (expandDays_ne_nil empty expanded)
    exact ⟨name, mem_map_of_mem (mem_filter.mpr ⟨mem_week name, decide_eq_true member⟩)⟩

theorem accepted_of_normalizeWindow {given window : ActiveWindow} (done : normalizeWindow given = .ok window) :
    window.Accepted := by
  obtain ⟨days, normal, rest⟩ := bind_eq_ok.mp done
  cases opens : parseClock given.start with
  | error reason => simp [opens] at rest
  | ok start =>
    cases closes : parseClock given.stop with
    | error reason => simp [opens, closes] at rest
    | ok stop =>
      simp only [opens, closes] at rest
      split_ifs at rest
      obtain rfl := Except.ok.inj rest
      exact ⟨exists_day normal, clockMinute_bounds opens, clockMinute_bounds closes⟩

theorem accepted_of_normalizeWindows {given windows : List ActiveWindow} (done : normalizeWindows given = .ok windows) :
    ∀ window ∈ windows, window.Accepted := by
  induction given generalizing windows with
  | nil =>
    obtain rfl := Except.ok.inj done
    simp
  | cons first rest ih =>
    simp only [normalizeWindows, mapM_cons, bind_eq_ok] at done
    obtain ⟨head, here, tail, there, same⟩ := done
    obtain rfl := Except.ok.inj same
    intro window member
    rcases mem_cons.mp member with rfl | later
    · exact accepted_of_normalizeWindow here
    · exact ih there window later

theorem reading_eq (reading : Int) : ∃ rest, reading = dayOf reading * day + minuteOf reading * minute + rest ∧
    0 ≤ rest ∧ rest < minute ∧ 0 ≤ minuteOf reading ∧ minuteOf reading < 24 * 60 := by
  refine ⟨reading % day % minute, ?_⟩
  simp only [dayOf, minuteOf, day, hour, minute]
  omega

theorem ActiveWindow.Accepted.open_iff {window : ActiveWindow} (accepted : window.Accepted) (reading : Int) :
    window.Open reading ↔
      if clockMinute window.start < clockMinute window.stop then
        dayName (weekday (dayOf reading)) ∈ window.days ∧ clockMinute window.start ≤ minuteOf reading ∧
          minuteOf reading < clockMinute window.stop
      else dayName (weekday (dayOf reading)) ∈ window.days ∧ clockMinute window.start ≤ minuteOf reading ∨
        dayName (weekday (dayOf reading - 1)) ∈ window.days ∧ minuteOf reading < clockMinute window.stop := by
  obtain ⟨-, start, stop⟩ := accepted
  obtain ⟨rest, parts, low, high, minutes⟩ := reading_eq reading
  unfold ActiveWindow.Open
  generalize clockMinute window.start = start at *
  generalize clockMinute window.stop = stop at *
  generalize dayOf reading = today at *
  generalize minuteOf reading = time at *
  subst parts
  simp only [day, hour, minute] at *
  split
  case isTrue within =>
    constructor
    · rintro ⟨number, listed, opened, closes⟩
      obtain rfl : number = today := by omega
      exact ⟨listed, by omega, by omega⟩
    · rintro ⟨listed, opened, closes⟩
      exact ⟨today, listed, by omega, by omega⟩
  case isFalse overnight =>
    constructor
    · rintro ⟨number, listed, opened, closes⟩
      rcases (by omega : number = today ∨ number = today - 1) with rfl | rfl
      · exact Or.inl ⟨listed, by omega⟩
      · exact Or.inr ⟨listed, by omega⟩
    · rintro (⟨listed, opened⟩ | ⟨listed, closes⟩)
      · exact ⟨today, listed, by omega, by omega⟩
      · exact ⟨today - 1, listed, by omega, by omega⟩

def IsOpen (zone : Zone) (windows : List ActiveWindow) (now : Int) : Prop :=
  ∃ window ∈ windows, window.Open (zone.clock now)

/-- `AddDate` goes back to the day before. -/
def DayBefore (zone : Zone) (now : Int) : Prop :=
  weekday (dayOf (zone.clock (zone.addDays now (-1)))) = weekday (dayOf (zone.clock now) - 1)

theorem windowContains_iff (zone : Zone) (window : ActiveWindow) (now : Int) :
    windowContains zone window now = true ↔
      if clockMinute window.start < clockMinute window.stop then
        dayName (weekday (dayOf (zone.clock now))) ∈ window.days ∧
          clockMinute window.start ≤ minuteOf (zone.clock now) ∧
          minuteOf (zone.clock now) < clockMinute window.stop
      else dayName (weekday (dayOf (zone.clock now))) ∈ window.days ∧
        clockMinute window.start ≤ minuteOf (zone.clock now) ∨
        dayName (weekday (dayOf (zone.clock (zone.addDays now (-1))))) ∈ window.days ∧
          minuteOf (zone.clock now) < clockMinute window.stop := by
  unfold windowContains
  dsimp only
  split <;> simp [and_assoc]

theorem isActive_iff (zone : Zone) (windows : List ActiveWindow) (now : Int) :
    isActive zone windows now = true ↔ ∃ window ∈ windows, windowContains zone window now = true := by
  simp [isActive]

theorem dayName_injective : Function.Injective dayName := by
  intro first second same
  cases first <;> cases second <;> first | rfl | exact absurd same (by decide)

/-- A window from the end of one day to the end of the next; the two times are spelled differently.
-/
def allNight (name : Weekday) : ActiveWindow := ⟨[dayName name], "23:59", "023:59"⟩

theorem normalizeWindows_allNight (name : Weekday) : normalizeWindows [allNight name] = .ok [allNight name] := by
  cases name <;> rfl

theorem overnight_allNight (name : Weekday) :
    ¬ clockMinute (allNight name).start < clockMinute (allNight name).stop := by
  change ¬ clockMinute "23:59" < clockMinute "023:59"
  decide

theorem isActive_agrees_iff (zone : Zone) (now : Int) :
    (∀ given windows, normalizeWindows given = .ok windows →
      (isActive zone windows now = true ↔ IsOpen zone windows now)) ↔
      DayBefore zone now ∨ minuteOf (zone.clock now) = 24 * 60 - 1 := by
  have parts := reading_eq (zone.clock now)
  constructor
  · intro agrees
    by_contra! wrong
    have before : minuteOf (zone.clock now) < 24 * 60 - 1 := by omega
    have active := agrees _ _ (normalizeWindows_allNight (weekday (dayOf (zone.clock now) - 1)))
    have opened : (allNight (weekday (dayOf (zone.clock now) - 1))).Open (zone.clock now) := by
      rw [(accepted_of_normalizeWindows (normalizeWindows_allNight _) _ (mem_singleton_self _)).open_iff,
        if_neg (overnight_allNight _)]
      exact Or.inr ⟨mem_singleton_self _, before⟩
    obtain ⟨window, member, contains⟩ := (isActive_iff _ _ _).mp (active.mpr ⟨_, mem_singleton_self _, opened⟩)
    obtain rfl := mem_singleton.mp member
    rw [windowContains_iff, if_neg (overnight_allNight _)] at contains
    rcases contains with ⟨-, late⟩ | ⟨listed, -⟩
    · exact absurd late (not_le.mpr before)
    · exact wrong.1 (dayName_injective (mem_singleton.mp listed))
  · intro right given windows done
    rw [isActive_iff]
    refine exists_congr fun window => and_congr_right fun member => ?_
    have accepted := accepted_of_normalizeWindows done window member
    rw [windowContains_iff, accepted.open_iff]
    rcases right with same | last
    · rw [show weekday (dayOf (zone.clock (zone.addDays now (-1)))) = weekday (dayOf (zone.clock now) - 1) from same]
    · have late : ¬ minuteOf (zone.clock now) < clockMinute window.stop := by
        have bound := accepted.stop.2
        omega
      simp only [late, and_false]

def activeMinutes (zone : Zone) (windows : List ActiveWindow) (now : Int) : Set Int :=
  {instant | now ≤ instant ∧ instant % minute = 0 ∧ isActive zone windows instant = true}

theorem mem_candidates {now instant : Int} :
    instant ∈ candidates now ↔ now < instant ∧ instant ≤ now + 8 * day ∧ instant % minute = 0 := by
  simp only [candidates, mem_map, mem_range, day, hour, minute]
  constructor
  · rintro ⟨i, bound, rfl⟩
    omega
  · rintro ⟨later, soon, whole⟩
    exact ⟨((instant - now) / (60 * 10 ^ 9) - if now % (60 * 10 ^ 9) = 0 then 1 else 0).toNat, by split <;> omega,
      by split <;> omega⟩

theorem candidates_pairwise (now : Int) : (candidates now).Pairwise (· < ·) := by
  rw [candidates, pairwise_map]
  refine pairwise_lt_range.imp fun {first second} before => ?_
  simp only [minute]
  omega

theorem isLeast_of_find? {zone : Zone} {windows : List ActiveWindow} {now instant : Int}
    (idle : isActive zone windows now = false) (found : (candidates now).find? (isActive zone windows) = some instant) :
    IsLeast (activeMinutes zone windows now) instant := by
  obtain ⟨active, before, after, split, none⟩ := List.find?_eq_some_iff_append.mp found
  have member : instant ∈ candidates now := mem_of_find?_eq_some found
  obtain ⟨later, soon, whole⟩ := mem_candidates.mp member
  refine ⟨⟨later.le, whole, active⟩, fun other others => ?_⟩
  obtain ⟨notBefore, aligned, opens⟩ := others
  have past : now < other := lt_of_le_of_ne notBefore fun same => by simp [same, opens] at idle
  by_cases far : now + 8 * day < other
  · exact (soon.trans_lt far).le
  · have listed : other ∈ candidates now := mem_candidates.mpr ⟨past, not_lt.mp far, aligned⟩
    have sorted := candidates_pairwise now
    rw [split] at listed sorted
    rcases mem_append.mp listed with earlier | rest
    · have closed := none other earlier
      simp [opens] at closed
    · rcases mem_cons.mp rest with rfl | behind
      · exact le_refl other
      · exact ((pairwise_cons.mp (pairwise_append.mp sorted).2.1).1 other behind).le

theorem nextActive_least_iff (zone : Zone) (windows : List ActiveWindow) (now : Int) :
    (∃ instant, nextActive zone windows now = some instant ∧ IsLeast (activeMinutes zone windows now) instant) ↔
      (isActive zone windows now = true → now % minute = 0) ∧
        (isActive zone windows now = false → ∃ instant, now < instant ∧ instant ≤ now + 8 * day ∧ instant % minute = 0 ∧
          isActive zone windows instant = true) := by
  unfold nextActive
  cases active : isActive zone windows now with
  | true =>
    simp only [if_true, Option.some.injEq, exists_eq_left', true_implies, Bool.true_eq_false, false_implies, and_true]
    constructor
    · exact fun least => least.1.2.1
    · exact fun whole => ⟨⟨le_refl now, whole, active⟩, fun other others => others.1⟩
  | false =>
    simp only [Bool.false_eq_true, if_false, false_implies, true_and, true_implies]
    constructor
    · rintro ⟨instant, found, least⟩
      obtain ⟨later, soon, whole⟩ := mem_candidates.mp (mem_of_find?_eq_some found)
      exact ⟨instant, later, soon, whole, least.1.2.2⟩
    · rintro ⟨instant, later, soon, whole, opens⟩
      have some : ((candidates now).find? (isActive zone windows)).isSome :=
        List.find?_isSome.mpr ⟨instant, mem_candidates.mpr ⟨later, soon, whole⟩, opens⟩
      obtain ⟨first, found⟩ := Option.isSome_iff_exists.mp some
      exact ⟨first, found, isLeast_of_find? active found⟩

theorem exists_opening {zone : Zone} {windows : List ActiveWindow} {now : Int}
    (even : ∀ instant, now ≤ instant → instant ≤ now + 8 * day → zone.offset instant = zone.offset now)
    {window : ActiveWindow} (member : window ∈ windows) (accepted : window.Accepted) :
    ∃ instant, now < instant ∧ instant ≤ now + 8 * day ∧ instant % minute = 0 ∧
      isActive zone windows instant = true := by
  obtain ⟨⟨name, listed⟩, ⟨low, high⟩, stop⟩ := accepted
  obtain ⟨rest, today, -⟩ := reading_eq (zone.clock now)
  obtain ⟨number, soon, week, rfl⟩ := exists_weekday (dayOf (zone.clock now) + 1) name
  obtain ⟨instant, whole, reached, just⟩ : ∃ instant, instant % minute = 0 ∧
      number * day + clockMinute window.start * minute ≤ instant + zone.offset now ∧
      instant + zone.offset now < number * day + clockMinute window.start * minute + minute := by
    refine ⟨number * day + clockMinute window.start * minute - zone.offset now +
      (zone.offset now - (number * day + clockMinute window.start * minute)) % minute, ?_⟩
    simp only [minute]
    omega
  have parts := reading_eq (zone.clock now)
  have later : now < instant := by
    simp only [Zone.clock, day, hour, minute] at *
    omega
  have bound : instant ≤ now + 8 * day := by
    simp only [Zone.clock, day, hour, minute] at *
    omega
  have shows : zone.clock instant = instant + zone.offset now := by rw [Zone.clock, even instant later.le bound]
  have onDay : dayOf (zone.clock instant) = number ∧ minuteOf (zone.clock instant) = clockMinute window.start := by
    rw [shows]
    simp only [dayOf, minuteOf, day, hour, minute] at *
    omega
  refine ⟨instant, later, bound, whole, (isActive_iff _ _ _).mpr ⟨window, member, ?_⟩⟩
  rw [windowContains_iff, onDay.1, onDay.2]
  split
  case isTrue within => exact ⟨listed, le_refl _, within⟩
  case isFalse => exact Or.inl ⟨listed, le_refl _⟩

/-- `isActive` is right about every list of windows exactly if `AddDate` finds the day before or the
day is at its last minute. `nextActive` finds the least whole minute exactly if it is asked at one
or outside the windows, and one of the next eight days has a minute at which a window is open; that
is so while the clocks are not changed. -/
theorem active_windows_iff (zone : Zone) (now : Int) :
    ((∀ given windows, normalizeWindows given = .ok windows →
      (isActive zone windows now = true ↔ IsOpen zone windows now)) ↔
      DayBefore zone now ∨ minuteOf (zone.clock now) = 24 * 60 - 1) ∧
    (∀ windows,
      (∃ instant, nextActive zone windows now = some instant ∧ IsLeast (activeMinutes zone windows now) instant) ↔
        (isActive zone windows now = true → now % minute = 0) ∧
          (isActive zone windows now = false → ∃ instant, now < instant ∧ instant ≤ now + 8 * day ∧
            instant % minute = 0 ∧
            isActive zone windows instant = true)) ∧
    ((∀ instant, now ≤ instant → instant ≤ now + 8 * day → zone.offset instant = zone.offset now) →
      ∀ given windows, normalizeWindows given = .ok windows → windows ≠ [] →
        ∃ instant, now < instant ∧ instant ≤ now + 8 * day ∧ instant % minute = 0 ∧
          isActive zone windows instant = true) := by
  refine ⟨isActive_agrees_iff zone now, fun windows => nextActive_least_iff zone windows now, ?_⟩
  intro even given windows done some
  obtain ⟨window, member⟩ := exists_mem_of_ne_nil windows some
  exact exists_opening even member (accepted_of_normalizeWindows done window member)

/-- The clocks are set forward by an hour at an instant, to `west` behind UTC. A reading in between
is resolved with the offset after the change. -/
def springForward (change west : Int) : Zone where
  offset := fun instant => if instant < change then -(west + hour) else -west
  date := fun reading => if reading < change - (west + hour) then reading + (west + hour) else reading + west
  shown := by
    intro instant
    by_cases before : instant < change
    · have early : instant + -(west + hour) < change - (west + hour) := by omega
      simp only [before, if_true, early, neg_add_cancel_right]
    · have late : ¬ instant + -west < change - (west + hour) := by
        simp only [hour, minute]
        omega
      simp only [before, if_false, late, neg_add_cancel_right]

/-- Sunday begins at one o'clock. -/
def havana : Zone := springForward (3 * day + 5 * hour) (4 * hour)

def sundayNight : ActiveWindow := ⟨["sun"], "23:00", "01:00"⟩

def afterMidnight : ActiveWindow := ⟨["sun"], "00:00", "00:30"⟩

theorem remainder_of_sunday {number : Int} (sunday : weekday number = .sun) : number % 7 = 3 := by
  unfold weekday at sunday
  split at sunday
  case h_4 => omega
  all_goals cases sunday

/-- At half past midnight the day before is taken to be Saturday. A window of the hour that is
skipped is not found from the Sunday before, and a window that is open now is answered with a time
between two minutes. -/
theorem sunday_skipped :
    (normalizeWindows [sundayNight] = .ok [sundayNight] ∧
      isActive havana [sundayNight] (4 * day + 4 * hour + 30 * minute) = false ∧
      IsOpen havana [sundayNight] (4 * day + 4 * hour + 30 * minute)) ∧
    (normalizeWindows [afterMidnight] = .ok [afterMidnight] ∧
      nextActive havana [afterMidnight] (-4 * day + 5 * hour + 30 * minute) = none) ∧
    nextActive utc [afterMidnight] (3 * day + 1) = some (3 * day + 1) ∧ (3 * day + 1) % minute ≠ 0 := by
  refine ⟨⟨rfl, rfl, sundayNight, mem_singleton_self _, 3, by decide, by decide, by decide⟩,
    ⟨rfl, ?_⟩, rfl, by decide⟩
  have idle : ∀ instant, -4 * day + 5 * hour + 30 * minute ≤ instant →
      instant ≤ -4 * day + 5 * hour + 30 * minute + 8 * day → isActive havana [afterMidnight] instant = false := by
    intro instant low high
    rw [← Bool.not_eq_true, isActive_iff]
    rintro ⟨window, member, contains⟩
    obtain rfl := mem_singleton.mp member
    rw [windowContains_iff, if_pos (by decide)] at contains
    obtain ⟨listed, -, early⟩ := contains
    have sunday := remainder_of_sunday (dayName_injective (mem_singleton.mp listed))
    have closes : clockMinute afterMidnight.stop = 30 := by decide
    rw [closes] at early
    by_cases before : instant < 3 * day + 5 * hour
    · simp only [Zone.clock, havana, springForward, if_pos before] at sunday early
      simp only [dayOf, minuteOf, day, hour, minute] at *
      omega
    · simp only [Zone.clock, havana, springForward, if_neg before] at sunday early
      simp only [dayOf, minuteOf, day, hour, minute] at *
      omega
  unfold nextActive
  rw [idle _ (le_refl _) (by decide)]
  simp only [Bool.false_eq_true, if_false, List.find?_eq_none]
  intro instant member
  obtain ⟨later, soon, -⟩ := mem_candidates.mp member
  simp [idle instant later.le soon]

end Tierd.Spindown
