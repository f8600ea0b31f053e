import Tierd.Health.Alerts

namespace Tierd.Health

open Tierd.Data List

namespace Monitor

def Known (monitor : Monitor) (condition : Condition) : Prop :=
  condition ∈ monitor.active ∨ condition ∈ monitor.dismissed

structure Sound (monitor : Monitor) : Prop where
  once : monitor.active.Nodup
  hidden : ∀ condition ∈ monitor.dismissed, condition ∉ monitor.active
  stored : monitor.stored = monitor.dismissed

theorem addAlert_eq (monitor : Monitor) (condition : Condition) (severity : Severity) (timestamp : Nat) :
    (monitor.addAlert condition severity timestamp).dismissed = monitor.dismissed ∧
      (monitor.addAlert condition severity timestamp).stored = monitor.stored ∧
      (monitor.addAlert condition severity timestamp).seen = monitor.seen.map (condition :: ·) ∧
      (monitor.addAlert condition severity timestamp).checked = monitor.checked ∧
      (monitor.addAlert condition severity timestamp).lastSeen = monitor.lastSeen ∧
      (monitor.addAlert condition severity timestamp).active =
        if condition ∈ monitor.dismissed ∨ condition ∈ monitor.active then monitor.active
        else monitor.active ++ [condition] := by
  have same : (monitor.see condition).active = monitor.active := rfl
  unfold addAlert
  simp only [same]
  by_cases known : condition ∈ monitor.dismissed ∨ condition ∈ monitor.active
  · rw [if_pos (show condition ∈ (monitor.see condition).dismissed ∨ _ from known), if_pos known]
    exact ⟨rfl, rfl, rfl, rfl, rfl, rfl⟩
  · rw [if_neg (show ¬ (condition ∈ (monitor.see condition).dismissed ∨ _) from known), if_neg known]
    exact ⟨rfl, rfl, rfl, rfl, rfl, by simp [active, see]⟩

variable {monitor : Monitor} {condition : Condition}

theorem known_addAlert {other : Condition} {severity : Severity} {timestamp : Nat} :
    (monitor.addAlert condition severity timestamp).Known other ↔ monitor.Known other ∨ other = condition := by
  obtain ⟨dismissed, _, _, _, _, active⟩ := addAlert_eq monitor condition severity timestamp
  simp only [Known, dismissed, active]
  split
  case isTrue known =>
    constructor
    · exact .inl
    · rintro (before | rfl)
      · exact before
      · exact known.symm
  case isFalse =>
    simp only [mem_append, mem_singleton]
    tauto

theorem Sound.addAlert (sound : monitor.Sound) (condition : Condition) (severity : Severity)
    (timestamp : Nat) : (monitor.addAlert condition severity timestamp).Sound := by
  obtain ⟨dismissed, stored, _, _, _, active⟩ := addAlert_eq monitor condition severity timestamp
  refine ⟨?_, ?_, by rw [stored, dismissed, sound.stored]⟩
  · rw [active]
    split
    case isTrue => exact sound.once
    case isFalse fresh =>
      rw [not_or] at fresh
      refine nodup_append.mpr ⟨sound.once, nodup_singleton _, fun other member single same => ?_⟩
      rw [mem_singleton.mp same]
      exact fun again => fresh.2 (again ▸ member)
  · rw [dismissed, active]
    intro other member
    split
    case isTrue => exact sound.hidden other member
    case isFalse fresh =>
      rw [not_or] at fresh
      rw [mem_append, not_or]
      refine ⟨sound.hidden other member, fun same => fresh.1 ?_⟩
      rwa [← mem_singleton.mp same]

theorem clearAlert_cases (monitor : Monitor) (id : Nat) :
    monitor.clearAlert id = monitor ∨ ∃ before alert after, monitor.alerts = before ++ alert :: after ∧
      monitor.clearAlert id =
        { monitor with
          alerts := before ++ after
          dismissed := alert.condition :: monitor.dismissed
          stored := alert.condition :: monitor.stored } := by
  unfold clearAlert
  split
  case h_1 => exact .inl rfl
  case h_2 alert found =>
    refine .inr ?_
    obtain ⟨here, before, after, same, others⟩ := List.find?_eq_some_iff_append.mp found
    refine ⟨before, alert, after, same, ?_⟩
    have erased : monitor.alerts.eraseP (·.id = id) = before ++ after := by
      rw [same, eraseP_append_right _ (by simpa using others), eraseP_cons, here]
      rfl
    rw [erased]

theorem known_clearAlert {id : Nat} :
    (monitor.clearAlert id).Known condition ↔ monitor.Known condition := by
  rcases clearAlert_cases monitor id with same | ⟨before, alert, after, alerts, same⟩
  · rw [same]
  · rw [same]
    simp only [Known, active, alerts, map_append, map_cons, mem_append, mem_cons]
    tauto

theorem Sound.clearAlert (sound : monitor.Sound) (id : Nat) : (monitor.clearAlert id).Sound := by
  rcases clearAlert_cases monitor id with same | ⟨before, alert, after, alerts, same⟩
  · rw [same]
    exact sound
  · obtain ⟨once, hidden, stored⟩ := sound
    rw [same]
    simp only [active, alerts, map_append, map_cons] at once hidden
    refine ⟨?_, ?_, by rw [stored]⟩
    · simp only [active, map_append]
      exact once.sublist ((sublist_cons_self _ _).append_left _)
    · simp only [active, map_append]
      refine forall_mem_cons.mpr ⟨?_, fun other member present => hidden other member ?_⟩
      · rw [nodup_append, nodup_cons] at once
        rw [mem_append, not_or]
        exact ⟨fun early => once.2.2 _ early _ mem_cons_self rfl, once.2.1.1⟩
      · rcases mem_append.mp present with early | late
        · exact mem_append_left _ early
        · exact mem_append_right _ (mem_cons_of_mem _ late)

theorem clearAlert_rest (monitor : Monitor) (id : Nat) :
    (monitor.clearAlert id).seen = monitor.seen ∧ (monitor.clearAlert id).checked = monitor.checked ∧
      (monitor.clearAlert id).lastSeen = monitor.lastSeen ∧
      ∀ condition ∈ monitor.dismissed, condition ∈ (monitor.clearAlert id).dismissed := by
  rcases clearAlert_cases monitor id with same | ⟨before, alert, after, _, same⟩
  · rw [same]
    exact ⟨rfl, rfl, rfl, fun _ member => member⟩
  · rw [same]
    exact ⟨rfl, rfl, rfl, fun _ member => mem_cons_of_mem _ member⟩

theorem known_endCycle :
    monitor.endCycle.Known condition ↔ monitor.Known condition ∧ ¬ monitor.Resolved condition := by
  have present : condition ∈ monitor.endCycle.active ↔ condition ∈ monitor.active ∧ ¬ monitor.Resolved condition := by
    simp only [active, endCycle, mem_map, mem_filter, decide_eq_true_eq]
    constructor
    · rintro ⟨alert, ⟨member, kept⟩, rfl⟩
      exact ⟨⟨alert, member, rfl⟩, kept⟩
    · rintro ⟨⟨alert, member, rfl⟩, kept⟩
      exact ⟨alert, ⟨member, kept⟩, rfl⟩
  have dismissed : condition ∈ monitor.endCycle.dismissed ↔
      condition ∈ monitor.dismissed ∧ ¬ monitor.Resolved condition := by
    simp [endCycle, mem_filter]
  rw [Known, Known, present, dismissed]
  tauto

theorem Sound.endCycle (sound : monitor.Sound) : monitor.endCycle.Sound := by
  obtain ⟨once, hidden, stored⟩ := sound
  have fewer : monitor.endCycle.active.Sublist monitor.active := List.Sublist.map _ filter_sublist
  refine ⟨once.sublist fewer, fun condition member present => ?_, ?_⟩
  · exact hidden condition (mem_of_mem_filter member) (fewer.subset present)
  · simp only [Monitor.endCycle, stored]
    exact filter_congr fun condition member => by simp [member]

theorem Sound.cleanExpired (sound : monitor.Sound) (now : Nat) : (monitor.cleanExpired now).Sound := by
  obtain ⟨once, hidden, stored⟩ := sound
  have fewer : (monitor.cleanExpired now).active.Sublist monitor.active := List.Sublist.map _ filter_sublist
  exact ⟨once.sublist fewer, fun condition member present => hidden condition member (fewer.subset present), stored⟩

theorem known_cleanExpired {now : Nat} :
    ((monitor.cleanExpired now).Known condition → monitor.Known condition) ∧
      (monitor.Known condition → condition ∈ monitor.lastSeen → (monitor.cleanExpired now).Known condition) := by
  have fewer : (monitor.cleanExpired now).active.Sublist monitor.active := List.Sublist.map _ filter_sublist
  refine ⟨fun known => known.imp_left fun present => fewer.subset present, fun known seen => known.imp_left
    fun present => ?_⟩
  obtain ⟨alert, member, rfl⟩ := mem_map.mp present
  refine mem_map.mpr ⟨alert, mem_filter.mpr ⟨member, ?_⟩, rfl⟩
  simp [seen]

end Monitor

@[simp] theorem raised_append (first second : List Action) : raised (first ++ second) = raised first ++ raised second :=
  filterMap_append

@[simp] theorem marks_append (first second : List Action) : marks (first ++ second) = marks first ++ marks second :=
  filterMap_append

variable {scope : Scope}

theorem mem_marks {actions : List Action} : scope ∈ marks actions ↔ .mark scope ∈ actions := by
  simp only [marks, mem_filterMap]
  constructor
  · rintro ⟨action, member, found⟩
    cases action with
    | mark other =>
      cases found
      exact member
    | _ => cases found
  · exact fun member => ⟨_, member, rfl⟩

theorem mark_checkDrive {now : Nat} {reading : DriveReading} :
    .mark scope ∈ checkDrive now reading ↔ scope = ⟨.smart, reading.drive⟩ := by
  unfold checkDrive
  cases reading.evaluation with
  | none => simp
  | some events => by_cases failed : reading.healthFailed <;> simp [failed]

theorem mark_checkArray {now : Nat} {reading : ArrayReading} :
    .mark scope ∈ checkArray now reading ↔ scope = ⟨.mdadm, reading.path⟩ := by
  unfold checkArray
  cases reading.state <;> simp

theorem mark_checkPoolAlerts {now : Nat} {reading : PoolReading} :
    .mark scope ∉ checkPoolAlerts now reading := by
  unfold checkPoolAlerts
  cases reading.health <;> cases reading.resilvering <;> cases reading.checksumErrors <;> simp

variable {readings : Readings}

theorem mark_checkZFS :
    .mark scope ∈ checkZFS readings ↔ readings.arc.isSome ∧ scope = ⟨.zfs, []⟩ := by
  have pools : .mark scope ∉ readings.pools.flatMap (checkPoolAlerts readings.zfsTime) := by
    rw [mem_flatMap]
    rintro ⟨reading, _, marked⟩
    exact mark_checkPoolAlerts marked
  unfold checkZFS
  rw [mem_append, or_iff_right pools]
  cases readings.arc with
  | none => simp
  | some low => cases low <;> simp

variable {monitor : Monitor}

theorem mark_checkDNS :
    .mark scope ∈ checkDNS monitor readings ↔ monitor.dnsDue readings.dnsTime = true ∧ scope = ⟨.network, []⟩ := by
  unfold checkDNS
  split
  case isTrue due =>
    by_cases failing : readings.dnsResolves = false ∧ 2 ≤ monitor.dnsFailures + 1
    · simp [failing, due]
    · rw [if_neg failing]
      simp [due]
  case isFalse early => simp [early]

/-- The scopes that a cycle marks. -/
theorem mem_marks_checks :
    scope ∈ marks (checks monitor readings) ↔
      (∃ reading ∈ readings.drives, scope = ⟨.smart, reading.drive⟩) ∨
      (∃ reading ∈ readings.arrays, scope = ⟨.mdadm, reading.path⟩) ∨
      (readings.arc.isSome ∧ scope = ⟨.zfs, []⟩) ∨
      (monitor.dnsDue readings.dnsTime = true ∧ scope = ⟨.network, []⟩) := by
  rw [mem_marks, checks]
  simp only [mem_append, checkSMART, checkMdadm, mem_flatMap, mark_checkDrive, mark_checkArray, mark_checkZFS,
    mark_checkDNS, or_assoc]

theorem mem_succeeds :
    scope ∈ succeeds monitor readings ↔
      (∃ reading ∈ readings.drives, reading.evaluation.isSome ∧ scope = ⟨.smart, reading.drive⟩) ∨
      (∃ reading ∈ readings.arrays, scope = ⟨.mdadm, reading.path⟩) ∨
      (∃ reading ∈ readings.pools, scope = ⟨.zfs, reading.name⟩) ∨
      (readings.arc.isSome ∧ scope = ⟨.zfs, []⟩) ∨
      (monitor.dnsDue readings.dnsTime = true ∧ scope = ⟨.network, []⟩) := by
  have optional (present : Bool) (other : Scope) : scope ∈ (if present = true then [other] else []) ↔ present ∧
      scope = other := by
    cases present <;> simp
  unfold succeeds
  simp only [mem_append, mem_map, mem_filter, optional, and_assoc, or_assoc, eq_comm (a := scope)]

theorem keepDNS_checks (keeps : .keepDNS ∈ checks monitor readings) :
    monitor.dnsDue readings.dnsTime = false := by
  by_contra due
  rw [Bool.not_eq_false] at due
  have drives : .keepDNS ∉ checkSMART readings := by
    rw [checkSMART, mem_flatMap]
    rintro ⟨reading, _, member⟩
    unfold checkDrive at member
    cases found : reading.evaluation <;> cases failed : reading.healthFailed <;> simp [found, failed] at member
  have arrays : .keepDNS ∉ checkMdadm readings := by
    rw [checkMdadm, mem_flatMap]
    rintro ⟨reading, _, member⟩
    unfold checkArray at member
    cases found : reading.state <;> simp [found] at member
  have pools : .keepDNS ∉ checkZFS readings := by
    rw [checkZFS, mem_append, mem_flatMap, not_or]
    refine ⟨?_, ?_⟩
    · rintro ⟨reading, _, member⟩
      unfold checkPoolAlerts at member
      cases health : reading.health <;> cases scan : reading.resilvering <;> cases sums : reading.checksumErrors <;>
        simp [health, scan, sums] at member
    · cases found : readings.arc with
      | none => simp
      | some low => cases low <;> simp
  have dns : .keepDNS ∉ checkDNS monitor readings := by
    unfold checkDNS
    rw [if_pos due]
    split <;> simp
  rw [checks, mem_append, mem_append, mem_append] at keeps
  tauto

structure Cycle.Fits (cycle : Cycle) (actions : List Action) : Prop where
  marked : ∀ scope ∈ cycle.marked, scope ∈ cycle.succeeded
  reported : ∀ condition ∈ raised actions, condition ∈ cycle.reported
  kept : .keepDNS ∈ actions → Monitor.dnsCondition.scope ∉ cycle.succeeded

structure Checking (cycle : Cycle) (left : List Action) (monitor : Monitor) : Prop where
  fits : cycle.Fits left
  seen : ∃ seen, monitor.seen = some seen ∧
    (∀ condition ∈ seen, condition ∈ cycle.reported ∨ condition.scope ∉ cycle.succeeded) ∧
    ∀ condition ∈ cycle.reported, condition ∈ raised left ∨ condition ∈ seen ∧ monitor.Known condition
  checked : ∃ checked, monitor.checked = some checked ∧
    ∀ scope, scope ∈ cycle.marked ↔ scope ∈ checked ∨ scope ∈ marks left
  unmarked : ∀ condition, condition.scope ∈ cycle.succeeded → condition.scope ∉ cycle.marked →
    condition ∉ cycle.reported → ¬ monitor.Known condition

structure Settled (cycle : Cycle) (monitor : Monitor) : Prop where
  reported : ∀ condition ∈ cycle.reported, monitor.Known condition ∧ condition ∈ monitor.lastSeen
  cleared : ∀ condition, condition.scope ∈ cycle.succeeded → condition ∉ cycle.reported → ¬ monitor.Known condition

variable {cycle : Cycle} {left : List Action}

theorem Cycle.Fits.tail {action : Action} (fits : cycle.Fits (action :: left)) :
    cycle.Fits left := by
  refine ⟨fits.marked, fun condition member => fits.reported condition ?_, fun keeps => fits.kept ?_⟩
  · obtain ⟨other, among, found⟩ := mem_filterMap.mp member
    exact mem_filterMap.mpr ⟨other, mem_cons_of_mem action among, found⟩
  · exact mem_cons_of_mem action keeps

theorem Checking.of_known {after : Monitor} (checking : Checking cycle left monitor)
    (seen : after.seen = monitor.seen) (checked : after.checked = monitor.checked)
    (known : ∀ condition, after.Known condition ↔ monitor.Known condition) : Checking cycle left after := by
  obtain ⟨fits, ⟨before, sawBefore, among, reported⟩, ⟨done, checkedBefore, marks⟩, unmarked⟩ := checking
  refine ⟨fits, ⟨before, seen.trans sawBefore, among, ?_⟩, ⟨done, checked.trans checkedBefore, marks⟩, ?_⟩
  · exact fun condition member => (reported condition member).imp_right (And.imp_right (known condition).mpr)
  · exact fun condition inside outside absent now => unmarked condition inside outside absent ((known condition).mp now)

theorem Checking.mark
    (checking : Checking cycle (.mark scope :: left) monitor) : Checking cycle left (monitor.markChecked scope) := by
  obtain ⟨fits, ⟨seen, saw, among, reported⟩, ⟨checked, done, marks⟩, unmarked⟩ := checking
  refine ⟨fits.tail, ⟨seen, saw, among, reported⟩,
    ⟨scope :: checked, by simp [Monitor.markChecked, done], fun other => ?_⟩, unmarked⟩
  rw [marks other]
  simp only [Health.marks, filterMap_cons, mem_cons]
  tauto

theorem Checking.raise {condition : Condition} {severity : Severity}
    {timestamp : Nat} (checking : Checking cycle (.raise condition severity timestamp :: left) monitor) :
    Checking cycle left (monitor.addAlert condition severity timestamp) := by
  obtain ⟨fits, ⟨seen, saw, among, reported⟩, ⟨checked, done, marks⟩, unmarked⟩ := checking
  obtain ⟨_, _, sees, checks, _, _⟩ := Monitor.addAlert_eq monitor condition severity timestamp
  have own : condition ∈ cycle.reported := fits.reported condition mem_cons_self
  refine ⟨fits.tail, ⟨condition :: seen, by rw [sees, saw]; rfl, ?_, fun other member => ?_⟩,
    ⟨checked, checks.trans done, marks⟩, fun other inside outside absent known => ?_⟩
  · exact forall_mem_cons.mpr ⟨.inl own, among⟩
  · rcases reported other member with later | ⟨before, known⟩
    · rcases mem_cons.mp later with rfl | later
      · exact .inr ⟨mem_cons_self, Monitor.known_addAlert.mpr (.inr rfl)⟩
      · exact .inl later
    · exact .inr ⟨mem_cons_of_mem _ before, Monitor.known_addAlert.mpr (.inl known)⟩
  · rcases Monitor.known_addAlert.mp known with before | rfl
    · exact unmarked other inside outside absent before
    · exact absent own

theorem Checking.keepDNS
    (checking : Checking cycle (.keepDNS :: left) monitor) : Checking cycle left (perform monitor .keepDNS) := by
  obtain ⟨fits, ⟨seen, saw, among, reported⟩, checked, unmarked⟩ := checking
  simp only [perform]
  split
  case isFalse => exact ⟨fits.tail, ⟨seen, saw, among, reported⟩, checked, unmarked⟩
  case isTrue =>
    refine ⟨fits.tail, ⟨Monitor.dnsCondition :: seen, by simp [Monitor.see, saw], ?_, fun condition member => ?_⟩,
      checked, unmarked⟩
    · exact forall_mem_cons.mpr ⟨.inr (fits.kept mem_cons_self), among⟩
    · exact (reported condition member).imp_right (And.imp_left (mem_cons_of_mem _))

theorem Checking.perform {action : Action}
    (checking : Checking cycle (action :: left) monitor) : Checking cycle left (perform monitor action) := by
  cases action with
  | mark scope => exact checking.mark
  | raise condition severity timestamp => exact checking.raise
  | keepDNS => exact checking.keepDNS
  | noteDNS now resolves => exact ⟨checking.fits.tail, checking.seen, checking.checked, checking.unmarked⟩

theorem Checking.resolved (checking : Checking cycle [] monitor) {condition : Condition}
    (resolved : monitor.Resolved condition) : condition.scope ∈ cycle.succeeded ∧ condition ∉ cycle.reported := by
  obtain ⟨fits, ⟨seen, saw, _, reported⟩, ⟨checked, done, marks⟩, _⟩ := checking
  rw [Monitor.Resolved, saw, done] at resolved
  refine ⟨fits.marked _ ((marks _).mpr (.inl resolved.1)), fun member => resolved.2 ?_⟩
  rcases reported condition member with later | ⟨before, _⟩
  · cases later
  · exact before

theorem Checking.settled (checking : Checking cycle [] monitor) :
    Settled cycle monitor.endCycle := by
  refine ⟨fun condition member => ?_, fun condition inside absent known => ?_⟩
  · obtain ⟨seen, saw, _, reported⟩ := checking.seen
    rcases reported condition member with later | ⟨before, known⟩
    · cases later
    · refine ⟨Monitor.known_endCycle.mpr ⟨known, fun resolved => (checking.resolved resolved).2 member⟩, ?_⟩
      simpa [Monitor.endCycle, saw] using before
  · obtain ⟨known, unresolved⟩ := Monitor.known_endCycle.mp known
    by_cases marked : condition.scope ∈ cycle.marked
    · obtain ⟨seen, saw, among, _⟩ := checking.seen
      obtain ⟨checked, done, marks⟩ := checking.checked
      refine unresolved ⟨?_, fun sawIt => ?_⟩
      · rcases (marks _).mp marked with member | later
        · simpa [done] using member
        · cases later
      · rw [saw] at sawIt
        rcases among condition sawIt with member | outside
        · exact absent member
        · exact outside inside
    · exact checking.unmarked condition inside marked absent known

def Careful (system : System) : Event → Prop
  | .poll readings =>
    (∀ reading ∈ readings.drives, reading.evaluation.isSome) ∧
      ∀ reading ∈ readings.pools, ∀ condition ∈ system.monitor.active ++ system.monitor.dismissed,
        condition.scope = ⟨.zfs, reading.name⟩ → condition ∈ raised (checks system.monitor readings)
  | _ => True

instance (system : System) : ∀ event, Decidable (Careful system event)
  | .poll _ => inferInstanceAs (Decidable ((∀ _ ∈ _, _) ∧ ∀ _ ∈ _, ∀ _ ∈ _, _ → _))
  | .proceed => inferInstanceAs (Decidable True)
  | .dismiss _ => inferInstanceAs (Decidable True)
  | .restart => inferInstanceAs (Decidable True)

/-- Where a cycle stands. -/
def InPhase (monitor : Monitor) (cycle : Option Cycle) : Phase → Prop
  | .idle => ∀ last ∈ cycle, Settled last monitor
  | .checking left _ => ∃ current, cycle = some current ∧ Checking current left monitor
  | .cleaning _ => ∃ current, cycle = some current ∧ Settled current monitor

structure System.Sound (system : System) : Prop where
  monitor : system.monitor.Sound
  phase : InPhase system.monitor system.cycle system.phase

theorem checking_begin
    (evaluated : ∀ reading ∈ readings.drives, reading.evaluation.isSome)
    (lasting : ∀ reading ∈ readings.pools, ∀ condition ∈ monitor.active ++ monitor.dismissed,
      condition.scope = ⟨.zfs, reading.name⟩ → condition ∈ raised (checks monitor readings)) :
    Checking (cycleOf monitor readings) (checks monitor readings) monitor.beginCycle := by
  refine ⟨⟨fun scope marked => ?_, fun _ member => member, fun keeps succeeded => ?_⟩,
    ⟨[], rfl, nofun, fun _ member => .inl member⟩, ⟨[], rfl, fun scope => by simp [cycleOf]⟩,
      fun condition inside outside absent known => ?_⟩
  · refine mem_succeeds.mpr ?_
    rcases mem_marks_checks.mp marked with ⟨reading, member, same⟩ | array | arc | dns
    · exact .inl ⟨reading, member, evaluated reading member, same⟩
    · exact .inr (.inl array)
    · exact .inr (.inr (.inr (.inl arc)))
    · exact .inr (.inr (.inr (.inr dns)))
  · have early := keepDNS_checks keeps
    rcases mem_succeeds.mp succeeded with ⟨_, _, _, same⟩ | ⟨_, _, same⟩ | ⟨_, _, same⟩ | ⟨_, same⟩ | ⟨due, _⟩
    · cases same
    · cases same
    · cases same
    · cases same
    · rw [early] at due
      cases due
  · have unmarked := fun marked => outside (mem_marks_checks.mpr marked)
    rcases mem_succeeds.mp inside with ⟨reading, member, _, same⟩ | array | ⟨reading, member, same⟩ | arc | dns
    · exact unmarked (.inl ⟨reading, member, same⟩)
    · exact unmarked (.inr (.inl array))
    · exact absent (lasting reading member condition (mem_append.mpr known) same)
    · exact unmarked (.inr (.inr (.inl arc)))
    · exact unmarked (.inr (.inr (.inr dns)))

theorem Monitor.Sound.perform (sound : monitor.Sound) (action : Action) : (perform monitor action).Sound := by
  cases action with
  | mark scope => exact ⟨sound.once, sound.hidden, sound.stored⟩
  | raise condition severity timestamp => exact sound.addAlert condition severity timestamp
  | keepDNS =>
    simp only [Health.perform]
    split
    · exact ⟨sound.once, sound.hidden, sound.stored⟩
    · exact sound
  | noteDNS now resolves => exact ⟨sound.once, sound.hidden, sound.stored⟩

theorem Settled.of_known {after : Monitor} (settled : Settled cycle monitor)
    (known : ∀ condition, after.Known condition ↔ monitor.Known condition)
    (lastSeen : after.lastSeen = monitor.lastSeen) :
    Settled cycle after := by
  refine ⟨fun condition member => ?_, fun condition inside absent now => ?_⟩
  · obtain ⟨before, seen⟩ := settled.reported condition member
    exact ⟨(known condition).mpr before, lastSeen ▸ seen⟩
  · exact settled.cleared condition inside absent ((known condition).mp now)

theorem System.Sound.step {system : System} {event : Event} (sound : system.Sound) (careful : Careful system event) :
    (system.step event).Sound := by
  obtain ⟨monitor, phase, cycle⟩ := system
  obtain ⟨holds, inPhase⟩ := sound
  cases event with
  | poll readings =>
    cases phase with
    | idle => exact ⟨⟨holds.once, holds.hidden, holds.stored⟩, _, rfl, checking_begin careful.1 careful.2⟩
    | checking left cleanTime => exact ⟨holds, inPhase⟩
    | cleaning cleanTime => exact ⟨holds, inPhase⟩
  | proceed =>
    cases phase with
    | idle => exact ⟨holds, inPhase⟩
    | checking left cleanTime =>
      obtain ⟨current, rfl, checking⟩ := inPhase
      cases left with
      | nil => exact ⟨holds.endCycle, current, rfl, checking.settled⟩
      | cons action left => exact ⟨holds.perform action, current, rfl, checking.perform⟩
    | cleaning cleanTime =>
      obtain ⟨current, rfl, settled⟩ := inPhase
      refine ⟨holds.cleanExpired cleanTime, ?_⟩
      rintro _ ⟨⟩
      refine ⟨fun condition member => ?_, fun condition inside absent known => ?_⟩
      · obtain ⟨known, seen⟩ := settled.reported condition member
        exact ⟨Monitor.known_cleanExpired.2 known seen, seen⟩
      · exact settled.cleared condition inside absent (Monitor.known_cleanExpired.1 known)
  | dismiss id =>
    obtain ⟨seen, checked, lastSeen, _⟩ := monitor.clearAlert_rest id
    refine ⟨holds.clearAlert id, ?_⟩
    cases phase with
    | idle => exact fun last found => (inPhase last found).of_known (fun _ => Monitor.known_clearAlert) lastSeen
    | checking left cleanTime =>
      obtain ⟨current, rfl, checking⟩ := inPhase
      exact ⟨current, rfl, checking.of_known seen checked fun _ => Monitor.known_clearAlert⟩
    | cleaning cleanTime =>
      obtain ⟨current, rfl, settled⟩ := inPhase
      exact ⟨current, rfl, settled.of_known (fun _ => Monitor.known_clearAlert) lastSeen⟩
  | restart => exact ⟨⟨nodup_nil, fun _ _ => not_mem_nil, rfl⟩, nofun⟩

theorem System.Sound.dismissed_step {system : System} (sound : system.Sound) (event : Event) {condition : Condition}
    (dismissed : condition ∈ system.monitor.dismissed) :
    condition ∈ (system.step event).monitor.dismissed ∨
      ∃ cycle ∈ system.cycle, condition.scope ∈ cycle.succeeded ∧ condition ∉ cycle.reported := by
  obtain ⟨monitor, phase, cycle⟩ := system
  obtain ⟨holds, inPhase⟩ := sound
  cases event with
  | poll readings => cases phase <;> exact .inl dismissed
  | proceed =>
    cases phase with
    | idle => exact .inl dismissed
    | checking left cleanTime =>
      obtain ⟨current, rfl, checking⟩ := inPhase
      cases left with
      | nil =>
        by_cases resolved : monitor.Resolved condition
        · exact .inr ⟨current, rfl, checking.resolved resolved⟩
        · exact .inl (mem_filter.mpr ⟨dismissed, by simpa using resolved⟩)
      | cons action left =>
        refine .inl ?_
        cases action with
        | raise other severity timestamp =>
          simpa [System.step, perform, (Monitor.addAlert_eq monitor other severity timestamp).1] using dismissed
        | keepDNS =>
          simp only [System.step, perform]
          split <;> exact dismissed
        | _ => exact dismissed
    | cleaning cleanTime => exact .inl dismissed
  | dismiss id => exact .inl ((monitor.clearAlert_rest id).2.2.2 condition dismissed)
  | restart =>
    refine .inl ?_
    change condition ∈ monitor.stored
    rw [holds.stored]
    exact dismissed

/-- Where no evaluation of alarm rules fails and no condition of a pool goes away: after a cycle
what it reported is dismissed or an alert exactly once, and what a successful check has not reported
is gone, the dismissal with it; and a dismissed condition is hidden until such a check. -/
theorem alert_lifecycle (events : List Event) (guarded : Guarded System.step Careful {} events) :
    let system := run System.step {} events
    (system.phase = .idle → ∀ cycle ∈ system.cycle,
      (∀ condition ∈ cycle.reported, condition ∉ system.monitor.dismissed → system.monitor.active.count condition = 1) ∧
      ∀ condition, condition.scope ∈ cycle.succeeded → condition ∉ cycle.reported →
        condition ∉ system.monitor.active ∧ condition ∉ system.monitor.dismissed) ∧
    ∀ condition ∈ system.monitor.dismissed, condition ∉ system.monitor.active ∧
      ∀ event, condition ∈ (system.step event).monitor.dismissed ∨
        ∃ cycle ∈ system.cycle, condition.scope ∈ cycle.succeeded ∧ condition ∉ cycle.reported := by
  intro system
  have initially : System.Sound {} := ⟨⟨nodup_nil, fun _ _ => not_mem_nil, rfl⟩, nofun⟩
  have sound : system.Sound :=
    guarded_run_invariant (fun _ _ sound careful => sound.step careful) guarded initially
  refine ⟨fun idle cycle found => ?_, fun condition dismissed => ?_⟩
  · have inPhase := sound.phase
    rw [idle] at inPhase
    have settled := inPhase cycle found
    refine ⟨fun condition member undismissed => ?_, fun condition inside absent => ?_⟩
    · have present := (settled.reported condition member).1.resolve_right undismissed
      exact count_eq_one_of_mem sound.monitor.once present
    · exact not_or.mp (settled.cleared condition inside absent)
  · exact ⟨sound.monitor.hidden condition dismissed, fun event => sound.dismissed_step event dismissed⟩

section Example

/-- A whole cycle; steps after its end do nothing. -/
def wholeCycle (readings : Readings) : List Event := .poll readings :: List.replicate 8 .proceed

def worn : Condition := ⟨.smart, "WD 1", "Reallocated = 8"⟩

def wornDrive : Readings := { drives := [⟨"WD 1", some [⟨"Reallocated", 8, .warning⟩], false⟩] }

def newDrive : Readings := { drives := [⟨"WD 1", some [], false⟩] }

def unevaluatedDrive : Readings := { drives := [⟨"WD 1", none, false⟩] }

def afterEvents (events : List Event) : System := run System.step {} events

/-- The alert is dismissed, stays away while it is reported, and is forgotten when it is not. -/
theorem worn_drive_dismissed :
    (let system := afterEvents (wholeCycle wornDrive ++ [.dismiss 1] ++ wholeCycle wornDrive)
    worn ∈ system.monitor.dismissed ∧ worn ∉ system.monitor.active) ∧
      (let system := afterEvents (wholeCycle wornDrive ++ [.dismiss 1] ++ wholeCycle newDrive)
      worn ∉ system.monitor.active ∧ worn ∉ system.monitor.dismissed) := by
  have hidden := alert_lifecycle (wholeCycle wornDrive ++ [.dismiss 1] ++ wholeCycle wornDrive) (by decide +kernel)
  have gone := alert_lifecycle (wholeCycle wornDrive ++ [.dismiss 1] ++ wholeCycle newDrive) (by decide +kernel)
  have dismissed : worn ∈
    (afterEvents (wholeCycle wornDrive ++ [.dismiss 1] ++ wholeCycle wornDrive)).monitor.dismissed := by
    decide +kernel
  obtain ⟨cycle, found, inside, absent⟩ :
      ∃ cycle ∈ (afterEvents (wholeCycle wornDrive ++ [.dismiss 1] ++ wholeCycle newDrive)).cycle,
        worn.scope ∈ cycle.succeeded ∧ worn ∉ cycle.reported := by decide +kernel
  exact ⟨⟨dismissed, (hidden.2 worn dismissed).1⟩, (gone.1 rfl cycle found).2 worn inside absent⟩

def poolDegraded : Condition := ⟨.zfs, "tank", "pool tank is DEGRADED"⟩

def degradedPool : Readings := { pools := [⟨"tank", .degraded, false, false⟩] }

def onlinePool : Readings := { pools := [⟨"tank", .online, false, false⟩] }

/-- A dismissal goes with a failed evaluation; the alert of a pool and its dismissal stay when the
pool is online. -/
theorem dismissal_lost_or_kept :
    (let system := afterEvents (wholeCycle wornDrive ++ [.dismiss 1] ++ (wholeCycle unevaluatedDrive).take 3)
    worn ∈ system.monitor.dismissed ∧ worn ∉ (system.step .proceed).monitor.dismissed ∧
      ∀ cycle ∈ system.cycle, worn.scope ∉ cycle.succeeded) ∧
    (let system := afterEvents (wholeCycle degradedPool ++ wholeCycle onlinePool)
    poolDegraded ∈ system.monitor.active ∧
      ∃ cycle ∈ system.cycle, poolDegraded.scope ∈ cycle.succeeded ∧ poolDegraded ∉ cycle.reported) ∧
    (let system := afterEvents
      (wholeCycle degradedPool ++ [.dismiss 1] ++ wholeCycle onlinePool ++ wholeCycle degradedPool)
    poolDegraded ∉ system.monitor.active) := by
  decide +kernel

end Example

end Tierd.Health
