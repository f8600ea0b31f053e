import Tierd.Data.Runs
import Tierd.Tiers.Database
import Tierd.Tiers.Names

namespace Tierd.Tiers

open Tierd.Data

/-- A filesystem or dataset.  `overhead` is its metadata, `data` what users stored. -/
structure Volume where
  capacity : Nat
  overhead : Nat
  data : Nat
deriving DecidableEq, Repr

/-- What `statfs` and `zfs get used` report. -/
def Volume.used (volume : Volume) : Nat := volume.overhead + volume.data

/-- A tier slot with its backing.  `attached` says that the filesystem is mounted at the
backing mount, or that the zpool of the dataset is imported; `baseline` is the value of
`tier_baseline.<pool>.<tier>`. -/
structure BackedSlot where
  name : String
  kind : BackingKind
  ref : String
  volume : Option Volume
  attached : Bool
  baseline : Option Nat
deriving DecidableEq, Repr

def emptyThresholdBytes : Nat := 128 * 2 ^ 20

namespace BackedSlot

/-- `tierBaselineBytes`: a missing value counts as zero. -/
def tierBaselineBytes (slot : BackedSlot) : Nat := slot.baseline.getD 0

/-- Usage above the baseline, of a mounted filesystem; a baseline above a twentieth of
the capacity is not used. -/
def usedAbove (baseline : Nat) (volume : Volume) : Nat :=
  let baseline := if baseline > volume.capacity / 20 then 0 else baseline
  if baseline > 0 then
    if volume.used > baseline then volume.used - baseline else 0
  else volume.used

/-- `backingFSUsage`, its `used` result: nothing when the mount is missing or `statfs`
fails. -/
def backingFSUsage (slot : BackedSlot) (failure : Option String) : Option Nat :=
  if slot.attached && failure.isNone then slot.volume.map (usedAbove slot.tierBaselineBytes) else none

/-- What `backingFSUsage` leaves stored: it discards a baseline that is too large. -/
def discardBaseline (slot : BackedSlot) : BackedSlot :=
  match slot.volume with
  | some volume =>
    if slot.attached && decide (slot.tierBaselineBytes > volume.capacity / 20) then
      { slot with baseline := none }
    else slot
  | none => slot

/-- `zfsDatasetUsedBytes`: nothing when the dataset is absent or its pool is not
imported, where `zfs get` says in both cases that it does not exist. -/
def zfsDatasetUsedBytes (slot : BackedSlot) : Option Nat :=
  if slot.attached then slot.volume.map Volume.used else none

/-- The user data of the slot. -/
def userData (slot : BackedSlot) : Nat := (slot.volume.map Volume.data).getD 0

end BackedSlot

inductive HeldDetail where
  | unlisted (failure : String)
  | unreadable (dataset failure : String)
  | dataset (name : String) (bytes : Nat)
  | unknown (tier : String)
  | tier (name : String) (bytes : Nat)
deriving DecidableEq, Repr

def HeldDetail.message : HeldDetail → String
  | .unlisted failure => "cannot list tier slots: " ++ failure
  | .unreadable name failure => name ++ ": usage unreadable: " ++ failure
  | .dataset name bytes => name ++ " holds " ++ toString bytes ++ " bytes"
  | .unknown name => "tier " ++ name ++ ": backing usage unknown"
  | .tier name bytes => "tier " ++ name ++ " holds " ++ toString bytes ++ " bytes"

/-- The dataset of a slot, as the guard spells it. -/
def slotDataset (pool : String) (slot : BackedSlot) : String :=
  trimSpace slot.ref ++ "/tierd/" ++ pool ++ "/" ++ slot.name

section Verdict

variable (pool : String) (failure : String → Option String)

/-- The verdict on one slot. -/
def slotHoldsData (slot : BackedSlot) : Option HeldDetail :=
  match slot.kind with
  | .zfs =>
    match failure slot.name with
    | some reason => some (.unreadable (slotDataset pool slot) reason)
    | none =>
      match slot.zfsDatasetUsedBytes with
      | some used =>
        if used > emptyThresholdBytes then some (.dataset (slotDataset pool slot) used) else none
      | none => none
  | .mdadm | .btrfs | .bcachefs =>
    match slot.backingFSUsage (failure slot.name) with
    | some used => if used > emptyThresholdBytes then some (.tier slot.name used) else none
    | none => some (.unknown slot.name)

/-- `tierBackingHoldsData`: the first backing that is not proved empty.  `listing` is the
result of `ListTierSlots`. -/
def tierBackingHoldsData (listing : Except String (List BackedSlot)) : Option HeldDetail :=
  match listing with
  | .error reason => some (.unlisted reason)
  | .ok slots => slots.findSome? (slotHoldsData pool failure)

/-- The guard of `destroyTierPool`. -/
def destroyGuard (explicit : Bool) (listing : Except String (List BackedSlot)) : Except String Unit :=
  if explicit then .ok ()
  else
    match tierBackingHoldsData pool failure listing with
    | some detail =>
      .error ("refused automatic teardown: pool " ++ quoted pool ++ " backing still holds data (" ++
        detail.message ++ "); re-issue the delete explicitly to confirm")
    | none => .ok ()

end Verdict

/-- `assign` gives a slot a backing, which may hold files already.  `provision` mounts or
imports what is there and creates a volume otherwise.  `captureBaseline` stores the
`statfs` usage at the backing mount; `elsewhere` is what it reads when nothing is mounted
there.  `clearBaseline`, `detach` and `removeVolume` are steps of a delete, which may
stop after any of them. -/
inductive BackingEvent where
  | assign (name : String) (kind : BackingKind) (ref : String) (existing : Option Volume)
  | provision (name : String) (capacity overhead : Nat)
  | captureBaseline (name : String) (elsewhere : Option Nat)
  | write (name : String) (bytes : Nat)
  | erase (name : String) (bytes : Nat)
  | readUsage (name : String)
  | attach (name : String)
  | detach (name : String)
  | clearBaseline (name : String)
  | removeVolume (name : String)
deriving DecidableEq, Repr

def BackingEvent.slot : BackingEvent → String
  | .assign name .. | .provision name .. | .captureBaseline name _ | .write name _ | .erase name _
  | .readUsage name | .attach name | .detach name | .clearBaseline name | .removeVolume name => name

/-- The effect of an event on its slot. -/
def BackedSlot.change (slot : BackedSlot) : BackingEvent → BackedSlot
  | .assign _ kind ref existing => { slot with kind, ref, volume := existing, attached := false }
  | .provision _ capacity overhead =>
    match slot.volume with
    | some _ => { slot with attached := true }
    | none => { slot with volume := some ⟨capacity, overhead, 0⟩, attached := true }
  | .captureBaseline _ elsewhere =>
    match slot.volume with
    | some volume =>
      if slot.attached then { slot with baseline := some volume.used }
      else { slot with baseline := elsewhere.or slot.baseline }
    | none => { slot with baseline := elsewhere.or slot.baseline }
  | .write _ bytes =>
    { slot with volume := slot.volume.map fun volume => { volume with data := volume.data + bytes } }
  | .erase _ bytes =>
    { slot with volume := slot.volume.map fun volume => { volume with data := volume.data - bytes } }
  | .readUsage _ => slot.discardBaseline
  | .attach _ => { slot with attached := true }
  | .detach _ => { slot with attached := false }
  | .clearBaseline _ => { slot with baseline := none }
  | .removeVolume _ => { slot with volume := none, attached := false }

def backingStep (slots : List BackedSlot) (event : BackingEvent) : List BackedSlot :=
  changeRow BackedSlot.name event.slot (fun slot => slot.change event) slots

def newPoolSlots (names : List String) : List BackedSlot :=
  names.map fun name => ⟨name, .mdadm, "", none, false, none⟩

def Fits (baseline : Option Nat) (volume : Volume) : Prop :=
  baseline.getD 0 ≤ volume.overhead ∨ baseline.getD 0 > volume.capacity / 20
deriving Decidable

/-- A baseline is captured from a mounted filesystem without user data, or when the
value is too large to be used, and a volume comes into a slot only when the baseline
stored for the slot fits it.  Datasets are judged without a baseline. -/
def SafeBaseline (slot : BackedSlot) : BackingEvent → Prop
  | .assign _ kind _ existing => kind = .zfs ∨ ∀ volume ∈ existing, Fits slot.baseline volume
  | .provision _ capacity overhead =>
    slot.kind = .zfs ∨ slot.volume ≠ none ∨ Fits slot.baseline ⟨capacity, overhead, 0⟩
  | .captureBaseline _ elsewhere =>
    slot.kind = .zfs ∨ ∀ volume ∈ slot.volume,
      if slot.attached then volume.data = 0 ∨ volume.used > volume.capacity / 20
      else ∀ reading ∈ elsewhere, Fits (some reading) volume
  | .write .. | .erase .. | .readUsage _ | .attach _ | .detach _ | .clearBaseline _ | .removeVolume _ => True

instance (slot : BackedSlot) : (event : BackingEvent) → Decidable (SafeBaseline slot event)
  | .assign .. | .provision .. | .captureBaseline .. => inferInstanceAs (Decidable (_ ∨ _))
  | .write .. | .erase .. | .readUsage _ | .attach _ | .detach _ | .clearBaseline _ | .removeVolume _ =>
    inferInstanceAs (Decidable True)

def SafeBaselines (slots : List BackedSlot) (event : BackingEvent) : Prop :=
  ∀ slot ∈ slots, slot.name = event.slot → SafeBaseline slot event
deriving Decidable

def SoundBaseline (slot : BackedSlot) : Prop :=
  slot.kind = .zfs ∨ ∀ volume ∈ slot.volume, Fits slot.baseline volume

def SoundBaselines (slots : List BackedSlot) : Prop := ∀ slot ∈ slots, SoundBaseline slot

theorem SoundBaseline.provision {slot : BackedSlot} {name : String} {capacity overhead : Nat}
    (sound : SoundBaseline slot) (safe : SafeBaseline slot (.provision name capacity overhead)) :
    SoundBaseline (slot.change (.provision name capacity overhead)) := by
  rcases sound with zfs | fits
  · simp only [BackedSlot.change]
    split <;> exact .inl zfs
  · cases held : slot.volume with
    | some volume =>
      simp only [BackedSlot.change, held]
      exact .inr fun found stored => fits found (held.trans stored)
    | none =>
      simp only [BackedSlot.change, held]
      rcases safe with zfs | occupied | fresh
      · exact .inl zfs
      · exact absurd held occupied
      · refine .inr ?_
        rintro volume ⟨⟩
        exact fresh

theorem SoundBaseline.captureBaseline {slot : BackedSlot} {name : String} {elsewhere : Option Nat}
    (sound : SoundBaseline slot) (safe : SafeBaseline slot (.captureBaseline name elsewhere)) :
    SoundBaseline (slot.change (.captureBaseline name elsewhere)) := by
  have sameKind : (slot.change (.captureBaseline name elsewhere)).kind = slot.kind := by
    simp only [BackedSlot.change]
    repeat' split
    all_goals rfl
  rcases safe with zfs | captured
  · exact .inl (sameKind.trans zfs)
  rcases sound with zfs | fits
  · exact .inl (sameKind.trans zfs)
  refine .inr ?_
  cases held : slot.volume with
  | none =>
    simp only [BackedSlot.change, held]
    rintro volume ⟨⟩
  | some volume =>
    have captured := captured volume held
    simp only [BackedSlot.change, held]
    cases mounted : slot.attached with
    | true =>
      simp only [mounted, ↓reduceIte] at captured ⊢
      rintro found ⟨⟩
      rcases captured with empty | large
      · exact .inl (by simp [Volume.used, empty])
      · exact .inr large
    | false =>
      simp only [mounted, Bool.false_eq_true, ↓reduceIte] at captured ⊢
      rintro found ⟨⟩
      cases elsewhere with
      | none => exact fits volume held
      | some reading => exact captured reading rfl

theorem SoundBaseline.mapVolume {slot : BackedSlot} (sound : SoundBaseline slot) {change : Volume → Volume}
    (same : ∀ volume, (change volume).overhead = volume.overhead ∧ (change volume).capacity = volume.capacity) :
    SoundBaseline { slot with volume := slot.volume.map change } := by
  refine sound.imp id fun fits volume stored => ?_
  obtain ⟨before, held, rfl⟩ := Option.map_eq_some_iff.mp stored
  unfold Fits
  rw [(same before).1, (same before).2]
  exact fits before held

theorem SoundBaseline.change {slot : BackedSlot} {event : BackingEvent} (sound : SoundBaseline slot)
    (safe : SafeBaseline slot event) : SoundBaseline (slot.change event) := by
  cases event with
  | assign name kind ref existing => exact safe
  | provision name capacity overhead => exact sound.provision safe
  | captureBaseline name elsewhere => exact sound.captureBaseline safe
  | write name bytes => exact sound.mapVolume fun _ => ⟨rfl, rfl⟩
  | erase name bytes => exact sound.mapVolume fun _ => ⟨rfl, rfl⟩
  | readUsage name =>
    simp only [BackedSlot.change, BackedSlot.discardBaseline]
    split
    case h_1 =>
      split
      case isTrue => exact sound.imp id fun _ volume _ => .inl (Nat.zero_le _)
      case isFalse => exact sound
    case h_2 => exact sound
  | attach name => exact sound
  | detach name => exact sound
  | clearBaseline name => exact sound.imp id fun _ volume _ => .inl (Nat.zero_le _)
  | removeVolume name => exact .inr fun volume stored => by cases stored

/-- A fitting baseline hides no user data. -/
theorem data_le_usedAbove {baseline : Option Nat} {volume : Volume} (fits : Fits baseline volume) :
    volume.data ≤ BackedSlot.usedAbove (baseline.getD 0) volume := by
  unfold Fits at fits
  unfold BackedSlot.usedAbove Volume.used
  simp only
  split_ifs <;> omega

def Imported (slot : BackedSlot) : Prop :=
  slot.kind = .zfs → slot.volume ≠ none → slot.attached = true
deriving Decidable

section Passed

variable {pool : String} {failure : String → Option String}

theorem userData_le_of_dataset_passed {slot : BackedSlot} (zfs : slot.kind = .zfs)
    (imported : Imported slot) (passed : slotHoldsData pool failure slot = none) :
    slot.userData ≤ emptyThresholdBytes := by
  cases held : slot.volume with
  | none => simp [BackedSlot.userData, held]
  | some volume =>
    have reachable := imported zfs (by simp [held])
    have reading : slot.zfsDatasetUsedBytes = some volume.used := by
      simp [BackedSlot.zfsDatasetUsedBytes, reachable, held]
    simp only [slotHoldsData, zfs, reading] at passed
    have below : volume.used ≤ emptyThresholdBytes := by
      split at passed
      · cases passed
      · split at passed
        · cases passed
        · omega
    calc slot.userData = volume.data := by simp [BackedSlot.userData, held]
      _ ≤ volume.used := Nat.le_add_left _ _
      _ ≤ emptyThresholdBytes := below

theorem userData_le_of_mount_passed {slot : BackedSlot} (mounted : slot.kind ≠ .zfs)
    (fits : ∀ volume ∈ slot.volume, Fits slot.baseline volume)
    (passed : slotHoldsData pool failure slot = none) : slot.userData ≤ emptyThresholdBytes := by
  have measured : ∃ used ≤ emptyThresholdBytes, slot.backingFSUsage (failure slot.name) = some used := by
    unfold slotHoldsData at passed
    split at passed
    case h_1 zfs => exact absurd zfs mounted
    all_goals
      split at passed
      case h_1 used reading =>
        split at passed
        · cases passed
        · exact ⟨used, by omega, reading⟩
      case h_2 => cases passed
  obtain ⟨used, below, reading⟩ := measured
  unfold BackedSlot.backingFSUsage at reading
  split at reading
  case isFalse => cases reading
  case isTrue =>
    obtain ⟨volume, held, rfl⟩ := Option.map_eq_some_iff.mp reading
    calc slot.userData = volume.data := by simp [BackedSlot.userData, held]
      _ ≤ BackedSlot.usedAbove slot.tierBaselineBytes volume := data_le_usedAbove (fits volume held)
      _ ≤ emptyThresholdBytes := below

theorem SoundBaseline.userData_le {slot : BackedSlot} (sound : SoundBaseline slot)
    (imported : Imported slot) (passed : slotHoldsData pool failure slot = none) :
    slot.userData ≤ emptyThresholdBytes := by
  by_cases zfs : slot.kind = .zfs
  · exact userData_le_of_dataset_passed zfs imported passed
  · exact userData_le_of_mount_passed zfs (sound.resolve_left zfs) passed

theorem passes_guard_iff {slots : List BackedSlot} :
    destroyGuard pool failure false (.ok slots) = .ok () ↔
      ∀ slot ∈ slots, slotHoldsData pool failure slot = none := by
  rw [← List.findSome?_eq_none_iff]
  simp only [destroyGuard, tierBackingHoldsData, Bool.false_eq_true, ↓reduceIte]
  cases slots.findSome? (slotHoldsData pool failure) with
  | none => simp
  | some detail => simp

end Passed

theorem SoundBaselines.step (slots : List BackedSlot) (event : BackingEvent) (sound : SoundBaselines slots)
    (safe : SafeBaselines slots event) : SoundBaselines (backingStep slots event) :=
  forall_changeRow sound fun slot listed own => (sound slot listed).change (safe slot listed own)

theorem newPoolSlots_sound (names : List String) : SoundBaselines (newPoolSlots names) := by
  intro slot listed
  obtain ⟨name, _, rfl⟩ := List.mem_map.mp listed
  exact .inr fun volume stored => by cases stored

/-- Along every history in which baselines are captured from filesystems without user
data and fit the volumes they are used for, an automatic teardown that passes its guard
finds no slot with user data above the threshold. -/
theorem automatic_teardown_spares_data (pool : String) (names : List String) (events : List BackingEvent)
    (failure : String → Option String)
    (safe : Guarded backingStep SafeBaselines (newPoolSlots names) events)
    (imported : ∀ slot ∈ run backingStep (newPoolSlots names) events, Imported slot)
    (passed : destroyGuard pool failure false (.ok (run backingStep (newPoolSlots names) events)) = .ok ()) :
    ∀ slot ∈ run backingStep (newPoolSlots names) events, slot.userData ≤ emptyThresholdBytes := by
  have sound : SoundBaselines (run backingStep (newPoolSlots names) events) :=
    guarded_run_invariant SoundBaselines.step safe (newPoolSlots_sound names)
  intro slot listed
  exact (sound slot listed).userData_le (imported slot listed) (passes_guard_iff.mp passed slot listed)

/-- A tier of 100 GiB whose filesystem takes 100 MiB when it is empty, assigned, formatted
and then written to a little. -/
def freshTierHistory : List BackingEvent :=
  [.assign "NVME" .mdadm "/dev/md0" none, .provision "NVME" (100 * 2 ^ 30) (100 * 2 ^ 20),
    .captureBaseline "NVME" none, .write "NVME" (2 ^ 20)]

theorem fresh_tier_is_torn_down_safely :
    destroyGuard "media" (fun _ => none) false
        (.ok (run backingStep (newPoolSlots ["NVME"]) freshTierHistory)) = .ok () ∧
      ∀ slot ∈ run backingStep (newPoolSlots ["NVME"]) freshTierHistory, slot.userData ≤ emptyThresholdBytes :=
  ⟨by decide, automatic_teardown_spares_data "media" ["NVME"] freshTierHistory (fun _ => none) (by decide)
    (by decide) (by decide)⟩

/-- The logical volume of the slot exists already, with 4 GiB of files: provisioning only
mounts it, and the usage captured then is taken for metadata. -/
def reusedVolumeHistory : List BackingEvent :=
  [.assign "NVME" .mdadm "/dev/md0" (some ⟨100 * 2 ^ 30, 100 * 2 ^ 20, 4 * 2 ^ 30⟩),
    .provision "NVME" (100 * 2 ^ 30) (100 * 2 ^ 20), .captureBaseline "NVME" none]

/-- The guard passes a slot that holds 4 GiB. -/
theorem reused_volume_passes_guard :
    destroyGuard "media" (fun _ => none) false
        (.ok (run backingStep (newPoolSlots ["NVME"]) reusedVolumeHistory)) = .ok () ∧
      (run backingStep (newPoolSlots ["NVME"]) reusedVolumeHistory).map BackedSlot.userData = [4 * 2 ^ 30] ∧
      emptyThresholdBytes < 4 * 2 ^ 30 := by
  decide

end Tierd.Tiers
