import Tierd.Data.Firsts
import Tierd.Disks.Requests
import Tierd.Spindown.Windows

namespace Tierd.Spindown

open Tierd.Data List

inductive PowerState
  | standby
  | sleeping
  | active
  | idle
  | unknown
  deriving DecidableEq

def parsePowerState (out : Text) : PowerState :=
  let text := Network.toLower out
  if Text.contains text "standby" then .standby
  else if Text.contains text "sleeping" then .sleeping
  else if Text.contains text "active/idle" ∨ Text.contains text "active or idle" then .active
  else if Text.contains text "idle" then .idle
  else .unknown

structure ListedDisk where
  path : Text
  rotational : Bool

structure ListedArray where
  path : Text
  memberDisks : List Text

/-- What the probes answer. -/
structure Host where
  disks : Except Text (List ListedDisk)
  arrays : Except Text (List ListedArray)
  /-- The members that `zpool status` names; none where it fails. -/
  zfsMembers : Text → List Text
  /-- The output of `hdparm -C`. -/
  hdparm : Text → Except Text Text

inductive SlotState
  | empty
  | assigned
  | degraded
  | missing
  deriving DecidableEq

inductive BackingKind
  | zfs
  | other (name : Text)
  deriving DecidableEq

structure TierSlot where
  state : SlotState
  pvDevice : Option Text
  backingKind : BackingKind
  backingRef : Text

def Host.queryPowerState (host : Host) (path : Text) : Except Text PowerState :=
  if Disks.isValidDiskPath path then (host.hdparm path).map parsePowerState
  else .error ("invalid disk path: " ++ path)

def Host.mdadmMembers (host : Host) (path : Text) : List Text :=
  match host.arrays with
  | .error _ => []
  | .ok arrays => (arrays.reverse.find? (·.path = path)).elim [] ListedArray.memberDisks

/-- What the probes say about one slot. -/
def Host.probed (host : Host) (slot : TierSlot) : List Text :=
  match slot.state, slot.backingKind with
  | .empty, _ => []
  | _, .zfs => host.zfsMembers slot.backingRef
  | _, .other _ =>
    match slot.pvDevice with
    | none => []
    | some device => if host.mdadmMembers device ≠ [] then host.mdadmMembers device else [device]

def Host.poolBackingDevices (host : Host) (slots : List TierSlot) : List Text :=
  firsts id [[]] (slots.flatMap host.probed)

def rotational (disks : List ListedDisk) (base : Text) : Option Bool :=
  (disks.reverse.find? fun listed => Disks.baseDiskPath listed.path = base).map ListedDisk.rotational

def notConfirmed : Text := "could not confirm backing disks are already active"

def notConfirmedHDD : Text := "could not confirm backing HDD is already active"

def inStandby : Text := "backing HDD is in standby; waiting for external activity"

/-- Why a device holds maintenance back. -/
def Host.deviceBlock (host : Host) (disks : List ListedDisk) (device : Text) : Option Text :=
  match rotational disks (Disks.baseDiskPath device) with
  | none => some notConfirmed
  | some false => none
  | some true =>
    match host.queryPowerState (Disks.baseDiskPath device) with
    | .error _ => some notConfirmedHDD
    | .ok .standby => some inStandby
    | .ok .sleeping => some inStandby
    | .ok _ => none

def Host.standbyBlockForDevices (host : Host) (devices : List Text) : Except Text (Option Text) :=
  if devices = [] then .ok none
  else do
    let disks ← host.disks
    return devices.findSome? (host.deviceBlock disks)

/-- With no device to ask, the active windows decide. -/
def Host.maintenanceDecision (host : Host) (zone : Zone) (policy : Policy) (devices : List Text) (now : Int) :
    Except Text Decision := do
  let enabled ← policy.enabled
  if enabled = false then return { allowed := true }
  else
    match ← host.standbyBlockForDevices devices with
    | some reason => do
        let (_, windows) ← decisionFor zone policy now
        return { allowed := false, nextActiveAt := nextActive zone windows now, reason }
    | none =>
      if devices ≠ [] then return { allowed := true, activeNow := true }
      else do
        let (decision, _) ← decisionFor zone policy now
        return decision

def Host.poolMaintenanceDecision (host : Host) (zone : Zone) (policy : Policy) (slots : Except Text (List TierSlot))
    (now : Int) : Except Text Decision := do
  host.maintenanceDecision zone policy (host.poolBackingDevices (← slots)) now

section Decisions

variable {host : Host} {zone : Zone} {policy : Policy} {slots : List TierSlot} {disks : List ListedDisk} {now : Int}
  {device disk : Text}

theorem mem_poolBackingDevices :
    device ∈ host.poolBackingDevices slots ↔ device ≠ [] ∧ ∃ slot ∈ slots, device ∈ host.probed slot := by
  unfold Host.poolBackingDevices
  constructor
  · intro kept
    have reported := firsts_sublist.subset kept
    refine ⟨?_, mem_flatMap.mp reported⟩
    rintro rfl
    exact not_seen_of_mem_firsts kept (mem_singleton_self _)
  · rintro ⟨named, slot, member, answer⟩
    have reported : device ∈ slots.flatMap host.probed := mem_flatMap.mpr ⟨slot, member, answer⟩
    have unmet : id device ∉ [([] : Text)] := by simpa using named
    obtain ⟨same, kept, rfl⟩ := exists_firsts reported unmet
    exact kept

/-- A device that the guard cannot take for awake. -/
def Host.Resting (host : Host) (disks : List ListedDisk) (device : Text) : Prop :=
  rotational disks (Disks.baseDiskPath device) = none ∨
  rotational disks (Disks.baseDiskPath device) = some true ∧
    ∀ state, host.queryPowerState (Disks.baseDiskPath device) = .ok state → state = .standby ∨ state = .sleeping

theorem deviceBlock_eq_none : host.deviceBlock disks device = none ↔ ¬ host.Resting disks device := by
  unfold Host.deviceBlock Host.Resting
  cases rotational disks (Disks.baseDiskPath device) with
  | none => simp
  | some spins =>
    cases spins with
    | false => simp
    | true =>
      cases host.queryPowerState (Disks.baseDiskPath device) with
      | error reason => simp
      | ok state => cases state <;> simp

theorem standbyBlockForDevices_eq_none (host : Host) {devices : List Text} (some : devices ≠ []) :
    host.standbyBlockForDevices devices = .ok none ↔
      ∃ disks, host.disks = .ok disks ∧ ∀ device ∈ devices, ¬ host.Resting disks device := by
  unfold Host.standbyBlockForDevices
  rw [if_neg some]
  cases host.disks with
  | error reason => simp [bind, Except.bind]
  | ok disks =>
    simp only [bind, Except.bind, pure, Except.pure, Except.ok.injEq, List.findSome?_eq_none_iff, deviceBlock_eq_none,
      exists_eq_left']

def Outside (zone : Zone) (policy : Policy) (now : Int) : Prop :=
  ∀ windows, policy.windows = .ok windows → windows ≠ [] ∧ isActive zone windows now = false

theorem decisionFor_outside (enabled : policy.enabled = .ok true) (outside : Outside zone policy now)
    {decision : Decision} {windows : List ActiveWindow}
    (decided : decisionFor zone policy now = .ok (decision, windows)) :
    decision.allowed = false := by
  unfold decisionFor at decided
  rw [enabled] at decided
  cases loaded : policy.windows with
  | error reason => simp [loaded, bind, Except.bind] at decided
  | ok stored =>
    obtain ⟨nonempty, closed⟩ := outside stored loaded
    simp only [loaded, bind, Except.bind, pure, Except.pure, closed, nonempty, Bool.true_eq_false, or_self, if_false,
      Except.ok.injEq, Prod.mk.injEq] at decided
    rw [← decided.1]

theorem allowed_outside_iff (host : Host) (slots : List TierSlot) (enabled : policy.enabled = .ok true)
    (outside : Outside zone policy now) :
    (∃ decision, host.poolMaintenanceDecision zone policy (.ok slots) now = .ok decision ∧ decision.allowed = true) ↔
      ∃ disks, host.disks = .ok disks ∧ host.poolBackingDevices slots ≠ [] ∧
        ∀ device ∈ host.poolBackingDevices slots, ¬ host.Resting disks device := by
  have start : host.poolMaintenanceDecision zone policy (.ok slots) now =
      host.maintenanceDecision zone policy (host.poolBackingDevices slots) now := rfl
  rw [start]
  generalize host.poolBackingDevices slots = devices
  unfold Host.maintenanceDecision
  rw [enabled]
  simp only [bind, Except.bind, Bool.true_eq_false, if_false]
  by_cases nothing : devices = []
  · subst nothing
    simp only [Host.standbyBlockForDevices, if_true, ne_eq, not_true, if_false, false_and, and_false,
      exists_false, iff_false]
    rintro ⟨decision, decided, allowed⟩
    cases policyAlone : decisionFor zone policy now with
    | error reason => simp [policyAlone] at decided
    | ok answer =>
      simp only [policyAlone, pure, Except.pure, Except.ok.injEq] at decided
      have refused : answer.1.allowed = false := decisionFor_outside enabled outside policyAlone
      rw [decided, allowed] at refused
      exact Bool.noConfusion refused
  · have awake := standbyBlockForDevices_eq_none host nothing
    cases block : host.standbyBlockForDevices devices with
    | error reason =>
      rw [block] at awake
      simp only [reduceCtorEq, false_iff] at awake
      simp only [reduceCtorEq, false_and, exists_false, false_iff]
      rintro ⟨disks, listed, -, rest⟩
      exact awake ⟨disks, listed, rest⟩
    | ok answer =>
      rw [block] at awake
      cases answer with
      | none =>
        obtain ⟨disks, listed, rest⟩ := awake.mp rfl
        simp only [ne_eq, nothing, not_false_eq_true, if_true, pure, Except.pure]
        exact iff_of_true ⟨_, rfl, rfl⟩ ⟨disks, listed, trivial, rest⟩
      | some reason =>
        simp only [Except.ok.injEq, reduceCtorEq, false_iff] at awake
        refine iff_of_false ?_ fun ⟨disks, listed, _, rest⟩ => awake ⟨disks, listed, rest⟩
        rintro ⟨decision, decided, allowed⟩
        cases policyAlone : decisionFor zone policy now with
        | error reason => simp [policyAlone] at decided
        | ok answer =>
          simp only [policyAlone, pure, Except.pure, Except.ok.injEq] at decided
          rw [← decided] at allowed
          exact Bool.noConfusion allowed

def Host.ReportedAwake (host : Host) (slots : List TierSlot) (disk : Text) : Prop :=
  (∃ disks, host.disks = .ok disks ∧ rotational disks disk = some true) ∧
  (∃ device ∈ host.poolBackingDevices slots, Disks.baseDiskPath device = disk) ∧
  ∃ state, host.queryPowerState disk = .ok state ∧ state ≠ .standby ∧ state ≠ .sleeping ∧ state ≠ .unknown

structure Host.Found (host : Host) (slots : List TierSlot) (disk : Text) : Prop where
  probed : ∃ slot ∈ slots, ∃ device ∈ host.probed slot, device ≠ [] ∧ Disks.baseDiskPath device = disk
  listed : ∃ disks, host.disks = .ok disks ∧ rotational disks disk = some true
  readable : host.queryPowerState disk ≠ .ok .unknown

def Host.HoldsBack (host : Host) (slots : List TierSlot) : Prop :=
  ∀ disks, host.disks = .ok disks →
    (∀ slot ∈ slots, ∀ device ∈ host.probed slot, device = []) ∨
    ∃ slot ∈ slots, ∃ device ∈ host.probed slot, device ≠ [] ∧ host.Resting disks device

theorem holdsBack_iff : host.HoldsBack slots ↔
    ¬ ∃ disks, host.disks = .ok disks ∧ host.poolBackingDevices slots ≠ [] ∧
      ∀ device ∈ host.poolBackingDevices slots, ¬ host.Resting disks device := by
  constructor
  · rintro held ⟨disks, listing, nonempty, awake⟩
    rcases held disks listing with unnamed | ⟨slot, member, device, answer, named, rests⟩
    · obtain ⟨device, kept⟩ := exists_mem_of_ne_nil _ nonempty
      obtain ⟨named, slot, member, answer⟩ := mem_poolBackingDevices.mp kept
      exact named (unnamed slot member device answer)
    · exact awake device (mem_poolBackingDevices.mpr ⟨named, slot, member, answer⟩) rests
  · intro refused disks listing
    by_contra! both
    obtain ⟨⟨slot, member, device, answer, named⟩, awake⟩ := both
    refine refused ⟨disks, listing, ?_, fun other kept => ?_⟩
    · exact ne_nil_of_mem (mem_poolBackingDevices.mpr ⟨named, slot, member, answer⟩)
    · obtain ⟨named, slot, member, answer⟩ := mem_poolBackingDevices.mp kept
      exact awake slot member other answer named

theorem ReportedAwake.found (reported : host.ReportedAwake slots disk) : host.Found slots disk := by
  obtain ⟨listed, ⟨device, kept, base⟩, state, answer, -, -, known⟩ := reported
  obtain ⟨named, slot, member, probed⟩ := mem_poolBackingDevices.mp kept
  refine ⟨⟨slot, member, device, probed, named, base⟩, listed, ?_⟩
  rw [answer]
  exact fun same => known (Except.ok.inj same)

theorem Found.reportedAwake (found : host.Found slots disk) (listing : host.disks = .ok disks)
    (awake : ∀ device ∈ host.poolBackingDevices slots, ¬ host.Resting disks device) :
    host.ReportedAwake slots disk := by
  obtain ⟨⟨slot, member, device, probed, named, rfl⟩, ⟨others, again, spins⟩, readable⟩ := found
  obtain rfl : disks = others := Except.ok.inj (listing.symm.trans again)
  have kept : device ∈ host.poolBackingDevices slots := mem_poolBackingDevices.mpr ⟨named, slot, member, probed⟩
  refine ⟨⟨disks, listing, spins⟩, ⟨device, kept, rfl⟩, ?_⟩
  have moving := awake device kept
  simp only [Host.Resting, spins, reduceCtorEq, true_and, false_or] at moving
  push Not at moving
  obtain ⟨state, answer, standby, sleeping⟩ := moving
  exact ⟨state, answer, standby, sleeping, fun same => readable (same ▸ answer)⟩

end Decisions

/-- Maintenance that is allowed outside the windows wakes no disk exactly if something holds it back
or the guard finds every rotational disk behind the slots that are in use. -/
theorem maintenance_wakes_nothing_iff (host : Host) (zone : Zone) (policy : Policy) (slots : List TierSlot) (now : Int)
    (backing : TierSlot → List Text) (spins : Text → Bool) (enabled : policy.enabled = .ok true)
    (outside : Outside zone policy now) :
    (∀ decision, host.poolMaintenanceDecision zone policy (.ok slots) now = .ok decision → decision.allowed = true →
      ∀ slot ∈ slots, slot.state ≠ .empty → ∀ disk ∈ backing slot, spins disk = true → host.ReportedAwake slots disk) ↔
    host.HoldsBack slots ∨
      ∀ slot ∈ slots, slot.state ≠ .empty → ∀ disk ∈ backing slot, spins disk = true → host.Found slots disk := by
  have allowed := allowed_outside_iff host slots enabled outside
  constructor
  · intro safe
    by_cases held : host.HoldsBack slots
    · exact Or.inl held
    · rw [holdsBack_iff, not_not] at held
      obtain ⟨decision, decided, permits⟩ := allowed.mpr held
      exact Or.inr fun slot member used disk behind turning =>
        ReportedAwake.found (safe decision decided permits slot member used disk behind turning)
  · rintro (held | found) decision decided permits slot member used disk behind turning
    · exact absurd (allowed.mp ⟨decision, decided, permits⟩) (holdsBack_iff.mp held)
    · obtain ⟨disks, listing, -, awake⟩ := allowed.mp ⟨decision, decided, permits⟩
      exact Found.reportedAwake (found slot member used disk behind turning) listing awake

def nightly : Policy where
  enabled := .ok true
  windows := .ok [⟨week.map dayName, "02:00", "03:00"⟩]

theorem outside_nightly : Outside utc nightly 0 := by
  intro windows loaded
  cases loaded
  decide +kernel

def arraySlot : TierSlot where
  state := .assigned
  pvDevice := some "/dev/md0"
  backingKind := .other "mdadm"
  backingRef := "/dev/md0"

def mountedSlot : TierSlot where
  state := .assigned
  pvDevice := none
  backingKind := .other "btrfs"
  backingRef := "/mnt/bulk"

def pairOfDisks (first second : String) : Host where
  disks := .ok [⟨"/dev/sda", true⟩, ⟨"/dev/sdb", true⟩]
  arrays := .ok [⟨"/dev/md0", ["/dev/sda"]⟩]
  zfsMembers := fun _ => []
  hdparm := fun path => .ok (if path = "/dev/sda" then first.toList else second.toList)

def disksBehind (slot : TierSlot) : List Text :=
  if slot.pvDevice = none then ["/dev/sdb"] else ["/dev/sda"]

def poolSlot : TierSlot where
  state := .assigned
  pvDevice := none
  backingKind := .zfs
  backingRef := "tank"

def bothAwake : Host := { pairOfDisks "active/idle" "idle" with zfsMembers := fun _ => ["/dev/sdb1"] }

/-- An array and a pool on disks that are awake are maintained outside the window. -/
theorem awake_disks_are_maintained :
    Outside utc nightly 0 ∧
    bothAwake.poolMaintenanceDecision utc nightly (.ok [arraySlot, poolSlot]) 0 =
      .ok { allowed := true, activeNow := true } ∧
    bothAwake.ReportedAwake [arraySlot, poolSlot] "/dev/sda" ∧
    bothAwake.ReportedAwake [arraySlot, poolSlot] "/dev/sdb" := by
  have found : ∀ slot ∈ [arraySlot, poolSlot], slot.state ≠ .empty → ∀ disk ∈ disksBehind slot, (true : Bool) = true →
      bothAwake.Found [arraySlot, poolSlot] disk := by
    intro slot member _ disk behind _
    rcases mem_pair.mp member with rfl | rfl
    · obtain rfl : disk = "/dev/sda" := mem_singleton.mp behind
      exact ⟨⟨arraySlot, by simp, "/dev/sda", by decide +kernel⟩, ⟨_, rfl, by decide +kernel⟩,
        fun same => absurd (Except.ok.inj same) (by decide +kernel)⟩
    · obtain rfl : disk = "/dev/sdb" := mem_singleton.mp behind
      exact ⟨⟨poolSlot, by simp, "/dev/sdb1", by decide +kernel⟩, ⟨_, rfl, by decide +kernel⟩,
        fun same => absurd (Except.ok.inj same) (by decide +kernel)⟩
  have decided : bothAwake.poolMaintenanceDecision utc nightly (.ok [arraySlot, poolSlot]) 0 =
      .ok { allowed := true, activeNow := true } := rfl
  have wakes := (maintenance_wakes_nothing_iff bothAwake utc nightly [arraySlot, poolSlot] 0 disksBehind
    (fun _ => true) rfl outside_nightly).mpr (Or.inr found) _ decided rfl
  exact ⟨outside_nightly, decided, wakes arraySlot (by simp) (by decide) _ (mem_singleton_self _) rfl,
    wakes poolSlot (by simp) (by decide) _ (mem_singleton_self _) rfl⟩

/-- The disk behind the mounted slot is in standby and nobody asks it; an answer that cannot be read
counts as awake. -/
theorem resting_disk_ignored :
    Outside utc nightly 0 ∧
    ((pairOfDisks "active/idle" "standby").poolMaintenanceDecision utc nightly (.ok [arraySlot, mountedSlot]) 0 =
        .ok { allowed := true, activeNow := true } ∧
      (pairOfDisks "active/idle" "standby").queryPowerState "/dev/sdb".toList = .ok .standby ∧
      "/dev/sdb".toList ∈ disksBehind mountedSlot) ∧
    ((pairOfDisks "no reply" "standby").poolMaintenanceDecision utc nightly (.ok [arraySlot]) 0 =
        .ok { allowed := true, activeNow := true } ∧
      (pairOfDisks "no reply" "standby").queryPowerState "/dev/sda".toList = .ok .unknown ∧
      "/dev/sda".toList ∈ disksBehind arraySlot) := by
  refine ⟨outside_nightly, ⟨?_, ?_, by decide⟩, ⟨?_, ?_, by decide⟩⟩ <;> rfl

end Tierd.Spindown
