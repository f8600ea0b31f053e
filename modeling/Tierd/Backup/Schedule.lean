import Tierd.Backup.KeysPermanent
import Tierd.Data.Firsts
import Tierd.Data.Zones

namespace Tierd.Backup.Schedule

open Tierd.Data Tierd.Backup.Drive List

def second : Int := 10 ^ 9

/-- The minute of the day that a valid time names. -/
def targetMinute : Text → Nat
  | [h, h', ':', m, m'] => (twoDigits h h').getD 0 * 60 + (twoDigits m m').getD 0
  | _ => 0

/-- `time.Date` with the day of the instant and no time. -/
def midnight (zone : Zone) (instant : Int) : Int := zone.date (dayOf (zone.clock instant) * day)

/-- The instants that the loop of `slot` looks at, a minute apart and before the end of the day. -/
def minutes (start stop : Int) : List Int :=
  (List.range ((stop - start + minute - 1) / minute).toNat).map fun count : Nat => start + count * minute

def slot (zone : Zone) (instant : Int) (clock : Text) : Int :=
  ((minutes (midnight zone instant) (zone.addDays (midnight zone instant) 1)).find? fun time =>
    targetMinute clock ≤ minuteOf (zone.clock time)).getD (zone.addDays (midnight zone instant) 1)

def selectedDay (number days : Int) : Bool := days.toNat.testBit (week.idxOf (weekday number))

def selected (zone : Zone) (instant days : Int) : Bool := selectedDay (dayOf (zone.clock instant)) days

/-- The column `last_scheduled_at`, in seconds; a text that is no time is read as the zero time. -/
abbrev Stamp := Option Int

def previous (last : Stamp) : Int := last.getD (-62135596800) * second

/-- `Format(time.RFC3339)`, which drops fractions of a second. -/
def stamp (instant : Int) : Int := instant / second

/-- The slot of the day of an instant, if the day is selected and the slot fits. -/
def slotIf (zone : Zone) (instant : Int) (clock : Text) (days : Int) (fits : Int → Prop) [DecidablePred fits] :
    Option Int :=
  if selected zone instant days = true ∧ fits (slot zone instant clock) then some (slot zone instant clock) else none

def due (zone : Zone) (now : Int) (clock : Text) (days : Int) (last : Stamp) : Option Int :=
  if validSchedule clock days = false then none
  else
    (List.range 3).findSome? fun back : Nat => slotIf zone (zone.addDays now (-back)) clock days fun found =>
      found ≤ now ∧ now - found ≤ 24 * hour ∧ previous last < found

/-- `none` is the empty text. -/
def next (zone : Zone) (now : Int) (clock : Text) (days : Int) : Option Int :=
  if validSchedule clock days = false then none
  else (List.range 8).findSome? fun ahead : Nat => slotIf zone (zone.addDays now ahead) clock days
    fun found => now < found

structure Claim where
  job : Nat
  stamp : Int
  tick : Int
deriving DecidableEq

structure Scheduler where
  handler : Handler
  last : Nat → Stamp
  /-- History: the slots that were claimed. -/
  claimed : List Claim

/-- What the store and the host answer while a job is looked at. -/
structure Answers where
  claims : Bool
  /-- The statements between the claim and the row of the run. -/
  reads : Bool
  guard : Bool
  starts : Bool
  records : Bool

/-- The update of one row, which compares the column with the value that was read. -/
def claimBackupSlot (scheduler : Scheduler) (id : Nat) (old : Stamp) (new now : Int) : Option Scheduler :=
  if (∃ cfg ∈ scheduler.handler.configs, cfg.id = id ∧ cfg.scheduleEnabled = true) ∧ scheduler.last id = old then
    some { scheduler with
      last := Function.update scheduler.last id (some new)
      claimed := scheduler.claimed ++ [⟨id, new, now⟩] }
  else none

/-- A run whose guard refuses or that cannot start any more has its row already, which is marked as
failed. -/
def startScheduled (handler : Handler) (id : Nat) (answers : Answers) : Handler :=
  if answers.reads = false ∨ handler.Active id ∨ handler.getBackupConfig id = none then handler
  else
    match handler.createBackupRun id with
    | .error _ => handler
    | .ok created =>
      if answers.guard = true ∧ answers.starts = true ∨ answers.records = false then created
      else created.step (.finishRun handler.nextRun)

/-- Claims a slot that is due, which succeeds only if nobody else has, and starts the run. -/
def tickJob (zone : Zone) (now : Int) (answers : Nat → Answers) (scheduler : Scheduler) (row : BackupConfig × Stamp) :
    Scheduler :=
  if row.1.scheduleEnabled = false then scheduler
  else
    match due zone now row.1.scheduleTime row.1.scheduleDays row.2 with
    | none => scheduler
    | some found =>
      if (answers row.1.id).claims = false then scheduler
      else
        match claimBackupSlot scheduler row.1.id row.2 (stamp found) now with
        | none => scheduler
        | some after => { after with handler := startScheduled after.handler row.1.id (answers row.1.id) }

/-- The rows are read before the first of them is looked at. -/
def scheduleTick (zone : Zone) (scheduler : Scheduler) (now : Int) (answers : Nat → Answers) : Scheduler :=
  (scheduler.handler.configs.map fun cfg => (cfg, scheduler.last cfg.id)).foldl (tickJob zone now answers) scheduler

inductive Event where
  | request (event : Drive.Event)
  | tick (now : Int) (answers : Nat → Answers)

def step (zone : Zone) (scheduler : Scheduler) : Event → Scheduler
  | .request event => { scheduler with handler := scheduler.handler.step event }
  | .tick now answers => scheduleTick zone scheduler now answers

def initial (accounts : List Nat) : Scheduler := ⟨.initial accounts, fun _ => none, []⟩

theorem tickJob_cases (zone : Zone) (now : Int) (scheduler : Scheduler) (answers : Nat → Answers)
    (row : BackupConfig × Stamp) :
    tickJob zone now answers scheduler row = scheduler ∨
      ∃ found after, due zone now row.1.scheduleTime row.1.scheduleDays row.2 = some found ∧
        claimBackupSlot scheduler row.1.id row.2 (stamp found) now = some after ∧
        tickJob zone now answers scheduler row =
          { after with handler := startScheduled after.handler row.1.id (answers row.1.id) } := by
  rw [tickJob]
  split
  case isTrue => exact .inl rfl
  case isFalse =>
    cases isDue : due zone now row.1.scheduleTime row.1.scheduleDays row.2 with
    | none => exact .inl rfl
    | some found =>
      dsimp only
      split
      case isTrue => exact .inl rfl
      case isFalse =>
        cases claim : claimBackupSlot scheduler row.1.id row.2 (stamp found) now with
        | none => exact .inl rfl
        | some after => exact .inr ⟨found, after, rfl, claim, rfl⟩

variable {zone : Zone} {scheduler after : Scheduler} {now found days : Int} {clock : Text} {last : Stamp}

theorem run_keeps (invariant : Scheduler → Prop) (accounts : List Nat) (events : List Event)
    (requested : ∀ scheduler event, invariant scheduler →
      invariant { scheduler with handler := scheduler.handler.step event })
    (ticked : ∀ scheduler now answers row, invariant scheduler → invariant (tickJob zone now answers scheduler row))
    (initially : invariant (initial accounts)) : invariant (run (step zone) (initial accounts) events) := by
  refine run_invariant (fun scheduler event before => ?_) events initially
  cases event with
  | request event => exact requested scheduler event before
  | tick now answers =>
    rw [step, scheduleTick]
    generalize (scheduler.handler.configs.map fun cfg => (cfg, scheduler.last cfg.id)) = rows
    induction rows generalizing scheduler with
    | nil => exact before
    | cons row rest ih => exact ih _ (ticked scheduler now answers row before)

/-- Instants at a full second are shown and resolved as such, as in all zones with offsets in
seconds. -/
structure WholeSeconds (zone : Zone) : Prop where
  shown : ∀ instant, second ∣ zone.offset instant
  resolved : ∀ reading, second ∣ reading → second ∣ zone.date reading

theorem second_dvd_day : second ∣ day := ⟨86400, by decide⟩

theorem WholeSeconds.midnight (whole : WholeSeconds zone) (instant : Int) : second ∣ midnight zone instant :=
  whole.resolved _ (second_dvd_day.mul_left _)

theorem WholeSeconds.slot (whole : WholeSeconds zone) (instant : Int) (clock : Text) :
    second ∣ slot zone instant clock := by
  have start := whole.midnight instant
  have stop : second ∣ zone.addDays (Schedule.midnight zone instant) 1 :=
    whole.resolved _ ((start.add (whole.shown _)).add (second_dvd_day.mul_left 1))
  rw [Schedule.slot]
  cases looked : (minutes (Schedule.midnight zone instant) (zone.addDays (Schedule.midnight zone instant) 1)).find?
    fun time =>
      targetMinute clock ≤ minuteOf (zone.clock time) with
  | none => exact stop
  | some time =>
    obtain ⟨count, -, rfl⟩ := mem_map.mp (mem_of_find?_eq_some looked)
    exact start.add (Dvd.dvd.mul_left ⟨60, by decide⟩ _)

theorem slotIf_eq_some {instant : Int} {fits : Int → Prop} [DecidablePred fits] :
    slotIf zone instant clock days fits = some found ↔
      selected zone instant days = true ∧ slot zone instant clock = found ∧ fits found := by
  rw [slotIf, Option.ite_none_right_eq_some]
  constructor
  · rintro ⟨⟨chosen, within⟩, same⟩
    cases same
    exact ⟨chosen, rfl, within⟩
  · rintro ⟨chosen, rfl, within⟩
    exact ⟨⟨chosen, within⟩, rfl⟩

theorem due_fits (isDue : due zone now clock days last = some found) :
    (∃ instant, slot zone instant clock = found) ∧ found ≤ now ∧ now - found ≤ 24 * hour ∧ previous last < found := by
  rw [due] at isDue
  split at isDue
  case isTrue => cases isDue
  case isFalse =>
    obtain ⟨back, -, passes⟩ := exists_of_findSome?_eq_some isDue
    obtain ⟨-, same, within⟩ := slotIf_eq_some.mp passes
    exact ⟨⟨_, same⟩, within⟩

/-- No claim is later than the column of its job says. -/
structure Ordered (scheduler : Scheduler) : Prop where
  known : ∀ claim ∈ scheduler.claimed, ∃ last, scheduler.last claim.job = some last ∧ claim.stamp ≤ last
  increasing : scheduler.claimed.Pairwise fun first second => first.job = second.job → first.stamp < second.stamp
  timely : ∀ claim ∈ scheduler.claimed, claim.stamp * second ≤ claim.tick ∧
    claim.tick ≤ claim.stamp * second + 24 * hour

theorem claimBackupSlot_eq_some {id : Nat} {new : Int}
    (claim : claimBackupSlot scheduler id last new now = some after) :
    scheduler.last id = last ∧ after = { scheduler with
      last := Function.update scheduler.last id (some new)
      claimed := scheduler.claimed ++ [⟨id, new, now⟩] } := by
  rw [claimBackupSlot, Option.ite_none_right_eq_some] at claim
  exact ⟨claim.1.2, (Option.some.inj claim.2).symm⟩

theorem Ordered.claim (ordered : Ordered scheduler) (whole : WholeSeconds zone) {id : Nat}
    (isDue : due zone now clock days last = some found)
    (claim : claimBackupSlot scheduler id last (stamp found) now = some after) : Ordered after := by
  obtain ⟨read, rfl⟩ := claimBackupSlot_eq_some claim
  obtain ⟨⟨instant, rfl⟩, past, recent, later⟩ := due_fits isDue
  have exact : stamp (slot zone instant clock) * second = slot zone instant clock :=
    Int.ediv_mul_cancel (whole.slot instant clock)
  have positive : 0 < second := by decide
  have newest : ∀ claim ∈ scheduler.claimed, claim.job = id → claim.stamp < stamp (slot zone instant clock) := by
    intro claim member same
    obtain ⟨stored, column, bound⟩ := ordered.known claim member
    rw [same, read] at column
    rw [column, ← exact] at later
    exact bound.trans_lt (lt_of_mul_lt_mul_right later positive.le)
  refine ⟨fun claim member => ?_, ?_, fun claim member => ?_⟩
  · rcases mem_append.mp member with old | new
    · obtain ⟨stored, column, bound⟩ := ordered.known claim old
      by_cases same : claim.job = id
      · exact ⟨_, (congrArg _ same).trans (Function.update_self ..), (newest claim old same).le⟩
      · exact ⟨stored, (Function.update_of_ne same ..).trans column, bound⟩
    · rw [mem_singleton.mp new]
      exact ⟨_, Function.update_self .., le_rfl⟩
  · refine pairwise_append.mpr ⟨ordered.increasing, pairwise_singleton _ _, fun claim old _ new same => ?_⟩
    rw [mem_singleton.mp new] at same ⊢
    exact newest claim old same
  · rcases mem_append.mp member with old | new
    · exact ordered.timely claim old
    · rw [mem_singleton.mp new]
      dsimp only
      rw [exact]
      exact ⟨past, by omega⟩

theorem Ordered.tickJob (ordered : Ordered scheduler) (whole : WholeSeconds zone) (answers : Nat → Answers)
    (row : BackupConfig × Stamp) : Ordered (tickJob zone now answers scheduler row) := by
  rcases tickJob_cases zone now scheduler answers row with same | ⟨found, after, isDue, claim, same⟩
  · rwa [same]
  · rw [same]
    have kept := ordered.claim whole isDue claim
    exact ⟨kept.known, kept.increasing, kept.timely⟩

/-- Over every run, the claims of a job are in the order of their slots, so that no slot is claimed
twice, and each is made within a day of its slot. -/
theorem slots_claimed_in_order (whole : WholeSeconds zone) (accounts : List Nat) (events : List Event) :
    ((run (step zone) (initial accounts) events).claimed.Pairwise fun first second =>
      first.job = second.job → first.stamp < second.stamp) ∧
    ∀ claim ∈ (run (step zone) (initial accounts) events).claimed,
      claim.stamp * second ≤ claim.tick ∧ claim.tick ≤ claim.stamp * second + 24 * hour := by
  have ordered : Ordered (run (step zone) (initial accounts) events) :=
    run_keeps Ordered accounts events (fun _ _ before => ⟨before.known, before.increasing, before.timely⟩)
      (fun _ _ answers row before => before.tickJob whole answers row)
      ⟨fun _ member => absurd member not_mem_nil, List.Pairwise.nil,
        fun _ member => absurd member not_mem_nil⟩
  exact ⟨ordered.increasing, ordered.timely⟩

def nightly : CreateBackupConfigRequest :=
  { offsite with encrypt := false, scheduleEnabled := true, scheduleTime := "00:05", scheduleDays := 127 }

/-- A job and three ticks, of which the second finds the slot of the first one claimed. -/
def nightlyRun : List Event :=
  [.request (.createConfig 0 nightly), .tick (6 * minute) fun _ => ⟨true, true, true, true, true⟩,
    .tick (7 * minute) fun _ => ⟨true, true, true, true, true⟩,
      .tick (day + 6 * minute) fun _ => ⟨true, true, true, true, true⟩]

theorem nightly_claimed_in_order :
    (run (step utc) (initial [1]) nightlyRun).claimed =
        [⟨1, 300, 6 * minute⟩, ⟨1, 86700, day + 6 * minute⟩] ∧
      (run (step utc) (initial [1]) nightlyRun).claimed.Pairwise fun first second =>
        first.job = second.job → first.stamp < second.stamp :=
  ⟨by decide +kernel, (slots_claimed_in_order ⟨fun _ => dvd_zero _, fun _ whole => whole⟩ [1] nightlyRun).1⟩

def OneActive (handler : Handler) : Prop :=
  handler.runs.Pairwise fun first second => first.running = true → second.running = true →
    first.configID ≠ second.configID

variable {handler : Handler}

theorem OneActive.create (one : OneActive handler) {id : Nat} {created : Handler}
    (made : handler.createBackupRun id = .ok created) : OneActive created := by
  simp only [Handler.createBackupRun, bind_eq_ok, ensure_eq_ok] at made
  obtain ⟨_, idle, made⟩ := made
  cases made
  refine pairwise_append.mpr ⟨one, pairwise_singleton _ _, fun row member new isNew active _ same => ?_⟩
  rw [mem_singleton.mp isNew] at same
  exact idle ⟨row, member, same, active⟩

theorem OneActive.finish (one : OneActive handler) (runID : Nat) : OneActive (handler.step (.finishRun runID)) := by
  refine pairwise_map.mpr (one.imp fun {first second} apart => ?_)
  split <;> split <;> simp_all

theorem OneActive.step (one : OneActive handler) (event : Drive.Event) : OneActive (handler.step event) := by
  cases event with
  | prepareRecovery now req session keys =>
    rw [Handler.step, Handler.prepareRecovery]
    split
    · exact one
    · split <;> exact one
  | createConfig now req =>
    refine after_keeps one fun after done => ?_
    obtain ⟨keys, -, rfl⟩ := createConfig_eq_ok done
    exact one
  | updateConfig id now req =>
    refine after_keeps one fun after done => ?_
    obtain ⟨old, -, -, keys, -, rfl⟩ := updateConfig_eq_ok done
    exact one
  | deleteConfig id =>
    refine after_keeps one fun after done => ?_
    rw [deleteConfig_eq_ok done]
    exact one.filter _
  | runBackup id draining guard =>
    refine after_keeps one fun after done => ?_
    simp only [Handler.runBackup, bind_eq_ok] at done
    obtain ⟨_, -, _, -, _, -, made⟩ := done
    exact one.create made
  | finishRun runID => exact one.finish runID
  | restart => exact one

theorem OneActive.startScheduled (one : OneActive handler) (id : Nat) (answers : Answers) :
    OneActive (startScheduled handler id answers) := by
  rw [Schedule.startScheduled]
  split
  case isTrue => exact one
  case isFalse =>
    cases made : handler.createBackupRun id with
    | error _ => exact one
    | ok created =>
      dsimp only
      split
      · exact one.create made
      · exact (one.create made).finish _

/-- No two runs of a job are marked as running, whether they were asked for or scheduled. -/
theorem one_active_run (zone : Zone) (accounts : List Nat) (events : List Event) :
    OneActive (run (step zone) (initial accounts) events).handler := by
  refine run_keeps (fun scheduler => OneActive scheduler.handler) accounts events (fun _ event one => one.step event) ?_
    List.Pairwise.nil
  intro scheduler now answers row one
  rcases tickJob_cases zone now scheduler answers row with same | ⟨found, after, -, claim, same⟩
  · rwa [same]
  · obtain ⟨-, rfl⟩ := claimBackupSlot_eq_some claim
    rw [same]
    exact one.startScheduled _ _

section Fixed

variable {offset : Int} (fixed : ∀ instant, zone.offset instant = offset)

def slotOn (offset : Int) (clock : Text) (number : Int) : Int := number * day + targetMinute clock * minute - offset

/-- The slots of all selected days. -/
def slots (offset : Int) (clock : Text) (days : Int) : Set Int :=
  {found | ∃ number, selectedDay number days = true ∧ slotOn offset clock number = found}

theorem targetMinute_lt (valid : validSchedule clock days = true) : targetMinute clock < 1440 := by
  unfold validSchedule at valid
  split at valid
  case h_1 h h' m m' =>
    simp only [Bool.and_eq_true, Option.any_eq_true, decide_eq_true_eq] at valid
    obtain ⟨⟨⟨hours, readHours, hoursBound⟩, minutes, readMinutes, minutesBound⟩, -⟩ := valid
    simp only [targetMinute, readHours, readMinutes, Option.getD_some]
    omega
  case h_2 => cases valid

include fixed in
theorem slot_fixed (valid : validSchedule clock days = true) (instant : Int) :
    slot zone instant clock = slotOn offset clock (dayOf (zone.clock instant)) := by
  have start : midnight zone instant = dayOf (zone.clock instant) * day - offset := Zone.date_fixed fixed _
  have shows : ∀ count : Nat, zone.clock (midnight zone instant + count * minute) =
      dayOf (zone.clock instant) * day + count * minute := by
    intro count
    rw [Zone.clock, fixed, start]
    ring
  have total : ((zone.addDays (midnight zone instant) 1 - midnight zone instant + minute - 1) / minute).toNat =
    1440 := by
    rw [Zone.addDays_fixed fixed, one_mul, add_sub_cancel_left]
    decide
  have first : (List.range 1440).find? ((fun time => decide (↑(targetMinute clock) ≤ minuteOf (zone.clock time))) ∘
      fun count : Nat => midnight zone instant + count * minute) = some (targetMinute clock) := by
    rw [List.find?_range_eq_some]
    have bound := targetMinute_lt valid
    refine ⟨?_, mem_range.mpr bound, fun count earlier => ?_⟩
    · simp only [Function.comp_apply, shows, minuteOf_count _ bound, le_refl, decide_true]
    · simp only [Function.comp_apply, shows, minuteOf_count _ (earlier.trans bound)]
      simpa using earlier
  rw [slot, minutes, total, List.find?_map, first, Option.map_some, Option.getD_some, start, slotOn]
  ring

include fixed in
/-- The loops of `Due` and `Next` look at the slots of the days around today. -/
theorem slotIf_fixed (valid : validSchedule clock days = true) {count : Int} {fits : Int → Prop} [DecidablePred fits] :
    slotIf zone (zone.addDays now count) clock days fits = some found ↔
      selectedDay (dayOf (now + offset) + count) days = true ∧
        slotOn offset clock (dayOf (now + offset) + count) = found ∧ fits found := by
  rw [slotIf_eq_some, slot_fixed fixed valid, selected, Zone.dayOf_addDays fixed]

theorem slotOn_strictMono : StrictMono (slotOn offset clock) := by
  intro first second earlier
  unfold slotOn day hour minute
  omega

theorem le_today {number : Int} (past : slotOn offset clock number ≤ now) : number ≤ dayOf (now + offset) := by
  have bounds := dayOf_bounds now offset
  unfold slotOn at past
  unfold day hour minute at past bounds
  omega

theorem today_lt {number : Int} (valid : validSchedule clock days = true)
    (recent : now - slotOn offset clock number ≤ 24 * hour) : dayOf (now + offset) < number + 2 := by
  have bounds := dayOf_bounds now offset
  have minutes := targetMinute_lt valid
  unfold slotOn at recent
  unfold day hour minute at bounds
  unfold day hour minute at recent
  omega

include fixed in
/-- What is due is the last slot so far, unless that is more than a day ago or was claimed. -/
theorem due_iff (valid : validSchedule clock days = true) :
    due zone now clock days last = some found ↔
      IsGreatest {earlier ∈ slots offset clock days | earlier ≤ now} found ∧
        now - found ≤ 24 * hour ∧ previous last < found := by
  rw [due, if_neg (by simp [valid]), findSome?_range_eq_some]
  simp only [slotIf_fixed fixed valid, Option.eq_none_iff_forall_ne_some]
  constructor
  · rintro ⟨back, within, ⟨chosen, rfl, past, recent, later⟩, misses⟩
    refine ⟨⟨⟨⟨_, chosen, rfl⟩, past⟩, ?_⟩, recent, later⟩
    rintro other ⟨⟨number, alsoChosen, rfl⟩, alsoPast⟩
    by_contra! newer
    have after := slotOn_strictMono.lt_iff_lt.mp newer
    have place : dayOf (now + offset) + -((dayOf (now + offset) - number).toNat : Int) = number := by
      have := le_today alsoPast
      omega
    refine misses (dayOf (now + offset) - number).toNat (by omega) (slotOn offset clock number) ?_
    rw [slotIf_fixed fixed valid, place]
    exact ⟨alsoChosen, rfl, alsoPast, by omega, by omega⟩
  · rintro ⟨⟨⟨⟨number, chosen, rfl⟩, past⟩, newest⟩, recent, later⟩
    have place : dayOf (now + offset) + -((dayOf (now + offset) - number).toNat : Int) = number := by
      have := le_today past
      omega
    refine ⟨(dayOf (now + offset) - number).toNat, ?_, ?_, fun before earlier other hit => ?_⟩
    · have := today_lt valid recent
      omega
    · rw [place]
      exact ⟨chosen, rfl, past, recent, later⟩
    · obtain ⟨alsoChosen, rfl, alsoPast, -⟩ := (slotIf_fixed fixed valid).mp hit
      exact absurd (newest ⟨⟨_, alsoChosen, rfl⟩, alsoPast⟩) (not_le.mpr (slotOn_strictMono (by omega)))

theorem exists_selected (valid : validSchedule clock days = true) (number : Int) :
    ∃ later : Int, number ≤ later ∧ later < number + 7 ∧ selectedDay later days = true := by
  have range : 0 < days ∧ days ≤ 127 := by
    unfold validSchedule at valid
    split at valid
    case h_1 => exact of_decide_eq_true (Bool.and_eq_true_iff.mp valid).2
    case h_2 => cases valid
  obtain ⟨bit, set⟩ := Nat.exists_testBit_of_ne_zero (x := days.toNat) (by omega)
  have small : bit < week.length := by
    by_contra! large
    have : days.toNat < 2 ^ bit :=
      lt_of_lt_of_le (by omega : days.toNat < 2 ^ 7) (Nat.pow_le_pow_right (by decide) large)
    rw [Nat.testBit_lt_two_pow this] at set
    cases set
  obtain ⟨later, low, high, named⟩ := exists_weekday number week[bit]
  refine ⟨later, low, high, ?_⟩
  rw [selectedDay, named, List.Nodup.idxOf_getElem (by decide) bit small, set]

theorem today_le {number : Int} (valid : validSchedule clock days = true) (ahead : now < slotOn offset clock number) :
    dayOf (now + offset) ≤ number := by
  have bounds := dayOf_bounds now offset
  have minutes := targetMinute_lt valid
  unfold slotOn at ahead
  unfold day hour minute at ahead bounds
  omega

theorem lt_slotOn {number : Int} (tomorrow : dayOf (now + offset) < number) : now < slotOn offset clock number := by
  have bounds := dayOf_bounds now offset
  unfold slotOn
  unfold day hour minute at bounds ⊢
  omega

include fixed in
theorem isLeast_of_next (valid : validSchedule clock days = true) (shown : next zone now clock days = some found) :
    IsLeast {later ∈ slots offset clock days | now < later} found := by
  rw [next, if_neg (by simp [valid]), findSome?_range_eq_some] at shown
  simp only [slotIf_fixed fixed valid, Option.eq_none_iff_forall_ne_some] at shown
  obtain ⟨ahead, within, ⟨chosen, rfl, future⟩, misses⟩ := shown
  refine ⟨⟨⟨_, chosen, rfl⟩, future⟩, ?_⟩
  rintro other ⟨⟨number, alsoChosen, rfl⟩, alsoFuture⟩
  by_contra! sooner
  have before := slotOn_strictMono.lt_iff_lt.mp sooner
  have place : dayOf (now + offset) + ((number - dayOf (now + offset)).toNat : Int) = number := by
    have := today_le valid alsoFuture
    omega
  refine misses (number - dayOf (now + offset)).toNat (by omega) (slotOn offset clock number) ?_
  rw [slotIf_fixed fixed valid, place]
  exact ⟨alsoChosen, rfl, alsoFuture⟩

include fixed in
theorem exists_next (valid : validSchedule clock days = true) (now : Int) :
    ∃ found, next zone now clock days = some found := by
  obtain ⟨number, low, high, chosen⟩ := exists_selected valid (dayOf (now + offset) + 1)
  have place : dayOf (now + offset) + ((number - dayOf (now + offset)).toNat : Int) = number := by omega
  have hit : slotIf zone (zone.addDays now (number - dayOf (now + offset)).toNat) clock days
    (fun found => now < found) =
      some (slotOn offset clock number) := by
    rw [slotIf_fixed fixed valid, place]
    exact ⟨chosen, rfl, lt_slotOn (by omega)⟩
  rw [next, if_neg (by simp [valid]), ← Option.isSome_iff_exists, List.findSome?_isSome_iff]
  exact ⟨_, mem_range.mpr (by omega), Option.isSome_of_eq_some hit⟩

include fixed in
theorem due_of_next (valid : validSchedule clock days = true) (shown : next zone now clock days = some found)
    {later : Int}
    (reached : found ≤ later) (within : later < found + day) (unclaimed : previous last < found) :
    due zone later clock days last = some found := by
  obtain ⟨⟨⟨number, chosen, rfl⟩, -⟩, -⟩ := isLeast_of_next fixed valid shown
  rw [due_iff fixed valid]
  refine ⟨⟨⟨⟨number, chosen, rfl⟩, reached⟩, ?_⟩, by unfold day at within; omega, unclaimed⟩
  rintro other ⟨⟨number', -, rfl⟩, past⟩
  by_contra! newer
  unfold slotOn day hour minute at within past newer
  omega

end Fixed

theorem startScheduled_eq (handler : Handler) (id : Nat) (answers : Answers) :
    ∃ runs nextRun, startScheduled handler id answers = { handler with runs := runs, nextRun := nextRun } := by
  rw [startScheduled]
  split
  case isTrue => exact ⟨_, _, rfl⟩
  case isFalse =>
    cases made : handler.createBackupRun id with
    | error _ => exact ⟨_, _, rfl⟩
    | ok created =>
      simp only [Handler.createBackupRun, bind_eq_ok] at made
      obtain ⟨_, -, made⟩ := made
      cases made
      dsimp only
      split <;> exact ⟨_, _, rfl⟩

theorem tickJob_frame (zone : Zone) (now : Int) (scheduler : Scheduler) (answers : Nat → Answers)
    (row : BackupConfig × Stamp) :
    (tickJob zone now answers scheduler row).handler.configs = scheduler.handler.configs ∧
      scheduler.claimed ⊆ (tickJob zone now answers scheduler row).claimed ∧
      ∀ id ≠ row.1.id, (tickJob zone now answers scheduler row).last id = scheduler.last id := by
  rcases tickJob_cases zone now scheduler answers row with same | ⟨found, after, -, claim, same⟩
  · rw [same]
    exact ⟨rfl, List.Subset.refl _, fun _ _ => rfl⟩
  · obtain ⟨-, rfl⟩ := claimBackupSlot_eq_some claim
    obtain ⟨runs, nextRun, started⟩ := startScheduled_eq scheduler.handler row.1.id (answers row.1.id)
    rw [same, started]
    exact ⟨rfl, subset_append_left .., fun id other => Function.update_of_ne other ..⟩

theorem foldl_tickJob_frame (zone : Zone) (now : Int) (scheduler : Scheduler) (answers : Nat → Answers)
    (rows : List (BackupConfig × Stamp)) :
    (rows.foldl (tickJob zone now answers) scheduler).handler.configs = scheduler.handler.configs ∧
      scheduler.claimed ⊆ (rows.foldl (tickJob zone now answers) scheduler).claimed ∧
      ∀ id, (∀ row ∈ rows, id ≠ row.1.id) →
        (rows.foldl (tickJob zone now answers) scheduler).last id = scheduler.last id := by
  induction rows generalizing scheduler with
  | nil => exact ⟨rfl, List.Subset.refl _, fun _ _ => rfl⟩
  | cons row rest ih =>
    obtain ⟨configs, claimed, columns⟩ := tickJob_frame zone now scheduler answers row
    obtain ⟨configs', claimed', columns'⟩ := ih (tickJob zone now answers scheduler row)
    refine ⟨configs'.trans configs, List.Subset.trans claimed claimed', fun id others => ?_⟩
    rw [foldl_cons, columns' id fun row member => others row (mem_cons_of_mem _ member),
      columns id (others row mem_cons_self)]

/-- A tick claims the slot that is due for a job. -/
theorem mem_scheduleTick (sound : Drive.Sound scheduler.handler) {cfg : BackupConfig}
    (listed : cfg ∈ scheduler.handler.configs)
    (enabled : cfg.scheduleEnabled = true) {answers : Nat → Answers} (works : (answers cfg.id).claims = true)
    (isDue : due zone now cfg.scheduleTime cfg.scheduleDays (scheduler.last cfg.id) = some found) :
    ⟨cfg.id, stamp found, now⟩ ∈ (scheduleTick zone scheduler now answers).claimed := by
  obtain ⟨before, rest, parts⟩ := append_of_mem listed
  have once := sound.ids
  rw [parts, map_append, map_cons, nodup_middle, nodup_cons, ← map_append] at once
  rw [scheduleTick, parts, map_append, map_cons, foldl_append, foldl_cons]
  refine (foldl_tickJob_frame zone now _ answers _).2.1 ?_
  obtain ⟨configs, -, columns⟩ := foldl_tickJob_frame zone now scheduler answers
    (before.map fun cfg => (cfg, scheduler.last cfg.id))
  generalize (before.map fun cfg => (cfg, scheduler.last cfg.id)).foldl (tickJob zone now answers) scheduler =
    reached at *
  have column : reached.last cfg.id = scheduler.last cfg.id := columns cfg.id fun row member same => by
    obtain ⟨other, earlier, rfl⟩ := mem_map.mp member
    exact once.1 (mem_map.mpr ⟨other, mem_append_left _ earlier, same.symm⟩)
  have claim : claimBackupSlot reached cfg.id (scheduler.last cfg.id) (stamp found) now = some { reached with
      last := Function.update reached.last cfg.id (some (stamp found))
      claimed := reached.claimed ++ [⟨cfg.id, stamp found, now⟩] } :=
    if_pos ⟨⟨cfg, configs ▸ listed, rfl, enabled⟩, column⟩
  simp only [tickJob, enabled, isDue, works, claim, Bool.true_eq_false, if_false]
  exact mem_append_right _ mem_cons_self

theorem Sound.tickJob (sound : Drive.Sound scheduler.handler) (answers : Nat → Answers) (row : BackupConfig × Stamp) :
    Drive.Sound (tickJob zone now answers scheduler row).handler := by
  rcases tickJob_cases zone now scheduler answers row with same | ⟨found, after, -, claim, same⟩
  · rwa [same]
  · obtain ⟨-, rfl⟩ := claimBackupSlot_eq_some claim
    obtain ⟨runs, nextRun, started⟩ := startScheduled_eq scheduler.handler row.1.id (answers row.1.id)
    rw [same, started]
    exact sound.runs runs nextRun

/-- In a zone without transitions, the time that is shown for a job is its first slot from now on,
and any tick in the day after it claims it. -/
theorem shown_slot_claimed (fixed : ∀ instant, zone.offset instant = zone.offset 0)
    (valid : validSchedule clock days = true) (now : Int) :
    ∃ found, next zone now clock days = some found ∧
      IsLeast {later ∈ slots (zone.offset 0) clock days | now < later} found ∧
      ∀ (accounts : List Nat) (events : List Event) (cfg : BackupConfig) (later : Int) (answers : Nat → Answers),
        cfg ∈ (run (step zone) (initial accounts) events).handler.configs → cfg.scheduleEnabled = true →
        cfg.scheduleTime = clock → cfg.scheduleDays = days → (answers cfg.id).claims = true →
        previous ((run (step zone) (initial accounts) events).last cfg.id) < found →
        found ≤ later → later < found + day →
        ⟨cfg.id, stamp found, later⟩ ∈
          (run (step zone) (initial accounts) (events ++ [.tick later answers])).claimed := by
  obtain ⟨found, shown⟩ := exists_next fixed valid now
  refine ⟨found, shown, isLeast_of_next fixed valid shown, ?_⟩
  intro accounts events cfg later answers listed enabled time mask works unclaimed reached within
  rw [run_append, run_cons, run_nil]
  refine mem_scheduleTick ?_ listed enabled works ?_
  · exact run_keeps (fun scheduler => Drive.Sound scheduler.handler) accounts events
      (fun _ event before => before.step event)
      (fun _ _ answers row before => Sound.tickJob before answers row) (Sound.initial accounts)
  · rw [time, mask]
    exact due_of_next fixed valid shown reached within unclaimed

def nightlyCreated : List Event := [.request (.createConfig 0 nightly)]

theorem shown_slot_utc :
    next utc 0 "00:05" 127 = some (5 * minute) ∧
      IsLeast {later ∈ slots 0 "00:05" 127 | 0 < later} (5 * minute) ∧
      ⟨1, 300, 6 * minute⟩ ∈ (run (step utc) (initial [1])
        (nightlyCreated ++ [.tick (6 * minute) fun _ => ⟨true, true, true, true, true⟩])).claimed := by
  obtain ⟨found, shown, least, claimed⟩ := shown_slot_claimed
    (fun _ => rfl : ∀ instant, utc.offset instant = utc.offset 0)
    (by decide : validSchedule "00:05" 127 = true) 0
  have first : next utc 0 "00:05" 127 = some (5 * minute) := by decide +kernel
  obtain rfl : 5 * minute = found := Option.some.inj (first.symm.trans shown)
  have created : ∃ cfg ∈ (run (step utc) (initial [1]) nightlyCreated).handler.configs, cfg.id = 1 ∧
      cfg.scheduleEnabled = true ∧ cfg.scheduleTime = "00:05" ∧ cfg.scheduleDays = 127 := by decide +kernel
  obtain ⟨cfg, listed, one, enabled, time, mask⟩ := created
  have claim := claimed [1] nightlyCreated cfg (6 * minute) (fun _ => ⟨true, true, true, true, true⟩) listed enabled
    time mask rfl (by rw [one]; decide +kernel) (by decide) (by decide)
  rw [one] at claim
  exact ⟨first, least, claim⟩

end Tierd.Backup.Schedule
