import Tierd.Disks.Holders

namespace Tierd.Disks

open Tierd.Data List

/-- `former` are the paths that the status still shows of vdevs that are gone, as in
`UNAVAIL was /dev/sdb1`; another disk may have such a path by now. -/
structure ZPool where
  name : Text
  vdevs : List Text
  former : List Text
deriving DecidableEq

def ZPool.shown (pool : ZPool) : List Text := pool.vdevs ++ pool.former

/-- An array with the kernel names of its members. -/
structure MdArray where
  name : Text
  members : List Text
deriving DecidableEq

structure VolumeGroup where
  name : Text
  pvs : List Text
deriving DecidableEq

def IsDevicePath (path : Text) : Prop := devDir <+: path ∧ ∀ c ∈ path, Text.isSpace c = false
deriving Decidable

theorem IsDevicePath.contains_iff {dev : Text} (devicePath : IsDevicePath dev) {status : Text} :
    Text.contains status dev = true ↔ ∃ field ∈ Text.fields status, dev <:+: field := by
  refine Text.contains_iff_fields ?_ devicePath.2
  rintro rfl
  exact absurd devicePath.1 (by decide)

theorem isDevicePath_of_validateArrayPath {path : Text} (valid : validateArrayPath path = true) :
    IsDevicePath path := by
  unfold validateArrayPath at valid
  split at valid
  case h_2 => cases valid
  case h_1 digit digits starts rest =>
    obtain ⟨tail, rfl⟩ := isPrefixOf_iff_prefix.mp starts
    have spelled : tail = digit :: digits := rest
    subst spelled
    have named : ∀ c ∈ "/dev/md".toList, Text.isSpace c = false := by simp [Text.isSpace]
    refine ⟨⟨"md".toList ++ digit :: digits, rfl⟩, fun c member => ?_⟩
    rcases mem_append.mp member with inName | numbered
    · exact named c inName
    · exact Text.isSpace_of_isDigit (all_eq_true.mp valid c numbered)

theorem devDir_append_trimPrefix {dev : Text} (devicePath : IsDevicePath dev) :
    devDir ++ Text.trimPrefix dev devDir = dev := by
  obtain ⟨⟨rest, rfl⟩, _⟩ := devicePath
  simp [Text.trimPrefix, Text.startsWith]

theorem mentionsAny_iff {status : Text} {devices : List Text} (devicePaths : ∀ dev ∈ devices, IsDevicePath dev) :
    zpoolStatusMentionsAny status devices = true ↔
      ∃ field ∈ Text.fields status, ∃ dev ∈ devices, dev <:+: field := by
  simp only [zpoolStatusMentionsAny, any_eq_true, Bool.and_eq_true, decide_eq_true_eq]
  constructor
  · rintro ⟨dev, member, _, mentioned⟩
    obtain ⟨field, inStatus, inside⟩ := (devicePaths dev member).contains_iff.mp mentioned
    exact ⟨field, inStatus, dev, member, inside⟩
  · rintro ⟨field, inStatus, dev, member, inside⟩
    refine ⟨dev, member, ?_, (devicePaths dev member).contains_iff.mpr ⟨field, inStatus, inside⟩⟩
    rintro rfl
    exact absurd (devicePaths [] member).1 (by decide)

/-- The holders of a machine and the device tree below every device. -/
structure Machine where
  tree : Text → List Text
  pools : List ZPool
  arrays : List MdArray
  groups : List VolumeGroup
  devicePaths : ∀ path, ∀ dev ∈ tree path, IsDevicePath dev
  poolNames : (pools.map ZPool.name).Nodup

namespace Machine

variable (machine : Machine)

theorem pool_eq {pool other : ZPool} (member : pool ∈ machine.pools) (otherMember : other ∈ machine.pools)
    (same : pool.name = other.name) : pool = other :=
  inj_on_of_nodup_map machine.poolNames member otherMember same

/-- The pool has a member that meets `own`. -/
def HasPool (own : Text → Prop) (name : Text) : Prop :=
  ∃ pool ∈ machine.pools, pool.name = name ∧ ∃ vdev ∈ pool.vdevs, own vdev

/-- The holder that a command takes down has a member in the tree of the device. -/
def Justified (path : Text) : HolderCommand → Prop
  | .zpoolDestroy name | .zpoolExport name => machine.HasPool (· ∈ machine.tree path) name
  | .mdadmStop device =>
    ∃ array ∈ machine.arrays, devDir ++ array.name = device ∧
      ∃ member ∈ array.members, devDir ++ member ∈ machine.tree path
  | .vgDeactivate name => ∃ group ∈ machine.groups, group.name = name ∧ ∃ pv ∈ group.pvs, pv ∈ machine.tree path
  | .pvRemove device => device ∈ machine.tree path

/-- The pools that `zpool` shows exist, and a path in a status is that of a vdev, or was. -/
def ShowsOnly (readings : PoolReadings) : Prop :=
  ∀ out ∈ readings.zpoolList, ∀ name ∈ Text.fields out, ∀ status ∈ readings.zpoolStatus name,
    ∃ pool ∈ machine.pools, pool.name = name ∧
      ∀ field ∈ Text.fields status, devDir <:+: field → field ∈ pool.shown

/-- Every pool is shown, with all its vdevs. -/
def ShowsAll (readings : PoolReadings) : Prop :=
  ∃ out ∈ readings.zpoolList, ∀ pool ∈ machine.pools, pool.name ∈ Text.fields out ∧
    ∃ status ∈ readings.zpoolStatus pool.name, ∀ vdev ∈ pool.shown, vdev ∈ Text.fields status

/-- `lsblk` lists devices of the tree only. -/
def ListsOnly (path : Text) (lsblk : Option Text) : Prop :=
  ∀ out ∈ lsblk, ∀ dev ∈ listedDevices out, dev ∈ machine.tree path

def ListsAll (path : Text) (lsblk : Option Text) : Prop :=
  ∃ out ∈ lsblk, ∀ dev ∈ machine.tree path, dev ∈ listedDevices out

/-- What a pass reads is true of the machine.  It may be less than there is: what was
taken down before is gone, and commands fail. -/
structure Truthful (path : Text) (readings : WipeReadings) : Prop where
  pools : machine.ShowsOnly readings.toPoolReadings
  poolTree : ∀ name, machine.ListsOnly path (readings.poolTree name)
  mdTree : machine.ListsOnly path readings.mdTree
  lvmTree : machine.ListsOnly path readings.lvmTree
  arrays : ∀ out ∈ readings.mdstat, ∀ line ∈ Text.lines out, ∀ named ∈ mdLine line,
    ∀ token ∈ named.2, ∀ member ∈ mdMember token, ∃ array ∈ machine.arrays, array.name = named.1 ∧
      member ∈ array.members
  groups : ∀ dev, ∀ out ∈ readings.pvs dev, ∀ name ∈ Text.fields out,
    ∃ group ∈ machine.groups, group.name = name ∧ dev ∈ group.pvs

/-- The first pass sees all pools and the whole tree. -/
def SeesPools (path : Text) (readings : WipeReadings) : Prop :=
  machine.ShowsAll readings.toPoolReadings ∧
    ∀ pool ∈ machine.pools, machine.ListsAll path (readings.poolTree pool.name)

variable {machine}

theorem mem_destroyPools {readings : PoolReadings} {uses : Text → Text → Bool} {command : HolderCommand}
    (run : command ∈ destroyPools readings uses) :
    ∃ out ∈ readings.zpoolList, ∃ name ∈ Text.fields out, ∃ status ∈ readings.zpoolStatus name,
      uses name status = true ∧ (command = .zpoolDestroy name ∨ command = .zpoolExport name) := by
  unfold destroyPools at run
  split at run
  case h_1 => cases run
  case h_2 out listed =>
    obtain ⟨name, member, run⟩ := mem_flatMap.mp run
    refine ⟨out, listed, name, member, ?_⟩
    split at run
    case h_1 => cases run
    case h_2 status read =>
      refine ⟨status, read, ?_⟩
      split_ifs at run with used destroyed
      · exact ⟨used, .inl (mem_singleton.mp run)⟩
      · exact ⟨used, by simpa using run⟩
      · cases run

theorem zpoolDestroy_mem {readings : PoolReadings} {uses : Text → Text → Bool} {out name status : Text}
    (listed : readings.zpoolList = some out) (member : name ∈ Text.fields out)
    (read : readings.zpoolStatus name = some status) (used : uses name status = true) :
    .zpoolDestroy name ∈ destroyPools readings uses := by
  simp only [destroyPools, listed]
  refine mem_flatMap.mpr ⟨name, member, ?_⟩
  simp [read, used]

/-- A pool whose status shows a path near the searched one has a vdev of its own there. -/
def Distinct (machine : Machine) (near own : Text → Prop) : Prop :=
  ∀ pool ∈ machine.pools, ∀ vdev ∈ pool.shown, near vdev → ∃ member ∈ pool.vdevs, own member

theorem HasPool.member {own : Text → Prop} {pool : ZPool} (listed : pool ∈ machine.pools)
    (has : machine.HasPool own pool.name) : ∃ member ∈ pool.vdevs, own member := by
  obtain ⟨other, otherListed, same, found⟩ := has
  rwa [machine.pool_eq otherListed listed same] at found

section Loop

variable {readings : PoolReadings} {uses : Text → Text → Bool} {near own : Text → Prop}

theorem taken_pool_has_member (only : machine.ShowsOnly readings)
    (sound : ∀ name status, uses name status = true →
      ∃ field ∈ Text.fields status, devDir <:+: field ∧ near field)
    (distinct : machine.Distinct near own) {command : HolderCommand}
    (run : command ∈ destroyPools readings uses) :
    ∃ name, (command = .zpoolDestroy name ∨ command = .zpoolExport name) ∧ machine.HasPool own name := by
  obtain ⟨out, listed, name, member, status, read, used, shape⟩ := mem_destroyPools run
  obtain ⟨pool, exists_, named, vdevs⟩ := only out listed name member status read
  obtain ⟨field, inStatus, inDev, close⟩ := sound name status used
  exact ⟨name, shape, pool, exists_, named, distinct pool exists_ field (vdevs field inStatus inDev) close⟩

theorem near_pool_is_taken (all : machine.ShowsAll readings)
    (complete : ∀ pool ∈ machine.pools, ∀ status, (∃ field ∈ Text.fields status, near field) →
      uses pool.name status = true)
    {pool : ZPool} (exists_ : pool ∈ machine.pools) {vdev : Text} (member : vdev ∈ pool.shown)
    (close : near vdev) :
    .zpoolDestroy pool.name ∈ destroyPools readings uses := by
  obtain ⟨out, listed, shown⟩ := all
  obtain ⟨inList, status, read, vdevs⟩ := shown pool exists_
  exact zpoolDestroy_mem listed inList read (complete pool exists_ status ⟨vdev, vdevs vdev member, close⟩)

end Loop

def InPathOfTree (machine : Machine) (path vdev : Text) : Prop := ∃ dev ∈ machine.tree path, dev <:+: vdev

theorem deviceTree_subset {path : Text} {lsblk : Option Text} (known : path ∈ machine.tree path)
    (only : machine.ListsOnly path lsblk) : ∀ dev ∈ deviceTree path lsblk, dev ∈ machine.tree path := by
  intro dev member
  rcases mem_deviceTree.mp member with rfl | ⟨out, printed, listed⟩
  · exact known
  · exact only out printed dev listed

section Wipe

variable {path : Text} {readings : WipeReadings}

theorem wiped_pool_justified (known : path ∈ machine.tree path) (truthful : machine.Truthful path readings)
    (distinct : machine.Distinct (machine.InPathOfTree path) (· ∈ machine.tree path)) {command : HolderCommand}
    (run : command ∈ destroyZPoolsUsing path readings) : machine.Justified path command := by
  have sound : ∀ name status, zpoolStatusMentionsAny status (deviceTree path (readings.poolTree name)) = true →
      ∃ field ∈ Text.fields status, devDir <:+: field ∧ machine.InPathOfTree path field := by
    intro name status mentioned
    have subset := deviceTree_subset known (truthful.poolTree name)
    obtain ⟨field, inStatus, dev, member, inside⟩ :=
      (mentionsAny_iff fun dev member => machine.devicePaths path dev (subset dev member)).mp mentioned
    have inTree := subset dev member
    exact ⟨field, inStatus, (machine.devicePaths path dev inTree).1.isInfix.trans inside, dev, inTree, inside⟩
  obtain ⟨name, rfl | rfl, has⟩ := taken_pool_has_member truthful.pools sound distinct run
  · exact has
  · exact has

theorem stopped_array_justified (known : path ∈ machine.tree path) (truthful : machine.Truthful path readings)
    {command : HolderCommand} (run : command ∈ stopMDArraysUsing path readings.mdstat readings.mdTree) :
    machine.Justified path command := by
  unfold stopMDArraysUsing at run
  split at run
  case h_1 => cases run
  case h_2 out printed =>
    obtain ⟨line, inOut, run⟩ := mem_flatMap.mp run
    split at run
    case h_1 => cases run
    case h_2 mdName tokens named =>
      split_ifs at run with matched
      · obtain rfl := mem_singleton.mp run
        obtain ⟨token, inLine, found⟩ := any_eq_true.mp matched
        obtain ⟨member, isMember, ours⟩ := (Option.any_eq_true _ _).mp found
        obtain ⟨array, exists_, arrayNamed, inArray⟩ :=
          truthful.arrays out printed line inOut (mdName, tokens) named token inLine member isMember
        obtain ⟨dev, inTree, rfl⟩ := mem_map.mp (of_decide_eq_true ours)
        have inTree := deviceTree_subset known truthful.mdTree dev inTree
        have path := devDir_append_trimPrefix (machine.devicePaths _ dev inTree)
        exact ⟨array, exists_, by rw [arrayNamed], _, inArray, path.symm ▸ inTree⟩
      · cases run

theorem deactivated_group_justified (known : path ∈ machine.tree path)
    (truthful : machine.Truthful path readings) {command : HolderCommand}
    (run : command ∈ deactivateLVMUsing path readings.lvmTree readings.pvs) :
    machine.Justified path command := by
  obtain ⟨dev, inTree, run⟩ := mem_flatMap.mp run
  have inTree := deviceTree_subset known truthful.lvmTree dev inTree
  split at run
  case h_1 => cases run
  case h_2 out printed =>
    obtain ⟨name, member, run⟩ := mem_flatMap.mp run
    obtain ⟨group, exists_, named, isPV⟩ := truthful.groups dev out printed name member
    rcases mem_pair.mp run with rfl | rfl
    · exact ⟨group, exists_, named, dev, isPV, inTree⟩
    · exact inTree

theorem released_justified (known : path ∈ machine.tree path) (truthful : machine.Truthful path readings)
    (distinct : machine.Distinct (machine.InPathOfTree path) (· ∈ machine.tree path)) :
    ∀ command ∈ releaseHoldersForWipe path readings, machine.Justified path command := by
  intro command run
  rcases mem_append.mp run with run | group
  · rcases mem_append.mp run with pool | array
    · exact wiped_pool_justified known truthful distinct pool
    · exact stopped_array_justified known truthful array
  · exact deactivated_group_justified known truthful group

theorem wiped_near_pool (known : path ∈ machine.tree path) (truthful : machine.Truthful path readings)
    (sees : machine.SeesPools path readings) {pool : ZPool} (exists_ : pool ∈ machine.pools) {vdev : Text}
    (member : vdev ∈ pool.shown) (close : machine.InPathOfTree path vdev) :
    .zpoolDestroy pool.name ∈ destroyZPoolsUsing path readings := by
  have complete : ∀ pool ∈ machine.pools, ∀ status,
      (∃ field ∈ Text.fields status, machine.InPathOfTree path field) →
        zpoolStatusMentionsAny status (deviceTree path (readings.poolTree pool.name)) = true := by
    rintro pool exists_ status ⟨field, inStatus, dev, inTree, inside⟩
    have subset := deviceTree_subset known (truthful.poolTree pool.name)
    obtain ⟨out, printed, listed⟩ := sees.2 pool exists_
    have inDevices : dev ∈ deviceTree path (readings.poolTree pool.name) :=
      mem_deviceTree.mpr (.inr ⟨out, printed, listed dev inTree⟩)
    exact (mentionsAny_iff fun dev member => machine.devicePaths path dev (subset dev member)).mpr
      ⟨field, inStatus, dev, inDevices, inside⟩
  exact near_pool_is_taken sees.1 complete exists_ member close

/-- A wipe takes down only what has a member on the device exactly when the status of no
other pool shows a path in which the path of one of the device's nodes occurs. -/
theorem wipe_justified_iff {first second : WipeReadings} (known : path ∈ machine.tree path)
    (truthful : machine.Truthful path first) (later : machine.Truthful path second)
    (sees : machine.SeesPools path first) :
    (∀ command ∈ wipeDevice path first second, machine.Justified path command) ↔
      machine.Distinct (machine.InPathOfTree path) (· ∈ machine.tree path) := by
  constructor
  · intro justified pool exists_ vdev member close
    have taken := wiped_near_pool known truthful sees exists_ member close
    have has := justified (.zpoolDestroy pool.name)
      (mem_append_left _ (mem_append_left _ (mem_append_left _ taken)))
    exact HasPool.member exists_ has
  · intro distinct command run
    rcases mem_append.mp run with run | run
    · exact released_justified known truthful distinct command run
    · split_ifs at run
      · cases run
      · exact released_justified known later distinct command run

end Wipe

def IsPartition (device part : Text) : Prop :=
  device ++ ['p'] <+: part ∧ part.drop (device.length + 1) ≠ [] ∧
    (part.drop (device.length + 1)).all Char.isDigit = true

def OnArray (array vdev : Text) : Prop := vdev = array ∨ IsPartition array vdev

instance (array vdev : Text) : Decidable (OnArray array vdev) := by
  unfold OnArray IsPartition; infer_instance

def StopJustified (machine : Machine) (array : Text) : HolderCommand → Prop
  | .zpoolDestroy name | .zpoolExport name => machine.HasPool (OnArray array) name
  | .mdadmStop _ | .vgDeactivate _ | .pvRemove _ => True

section Stop

variable {array : Text}

theorem released_pool_justified (devicePath : IsDevicePath array) {readings : StopReadings}
    (only : machine.ShowsOnly readings.toPoolReadings)
    (distinct : machine.Distinct (array <:+: ·) (OnArray array)) :
    ∀ command ∈ releaseArrayHolders array readings, machine.StopJustified array command := by
  intro command run
  rcases mem_append.mp run with run | run
  · have sound : ∀ (_ : Text) (status : Text), Text.contains status array = true →
        ∃ field ∈ Text.fields status, devDir <:+: field ∧ array <:+: field := by
      intro _ status mentioned
      obtain ⟨field, inStatus, inside⟩ := devicePath.contains_iff.mp mentioned
      exact ⟨field, inStatus, devicePath.1.isInfix.trans inside, inside⟩
    obtain ⟨name, rfl | rfl, has⟩ := taken_pool_has_member only sound distinct run
    · exact has
    · exact has
  · obtain ⟨dev, _, run⟩ := mem_flatMap.mp run
    split at run
    case h_1 => cases run
    case h_2 =>
      simp only at run
      split_ifs at run
      · rcases mem_pair.mp run with rfl | rfl <;> trivial
      · cases run

theorem stopAttempts_justified (devicePath : IsDevicePath array)
    (distinct : machine.Distinct (array <:+: ·) (OnArray array))
    {attempts : List StopReadings} (only : ∀ attempt ∈ attempts, machine.ShowsOnly attempt.toPoolReadings) :
    ∀ command ∈ stopAttempts array attempts, machine.StopJustified array command := by
  induction attempts with
  | nil => intro command run; cases run
  | cons attempt rest ih =>
    intro command run
    rcases mem_append.mp run with run | run
    · exact released_pool_justified devicePath (only attempt mem_cons_self) distinct command run
    rcases mem_cons.mp run with rfl | run
    · trivial
    split_ifs at run
    · cases run
    · exact ih (fun later member => only later (mem_cons_of_mem _ member)) command run

theorem stop_justified_iff {first second third : StopReadings} (valid : validateArrayPath array = true)
    (only : ∀ attempt ∈ [first, second, third], machine.ShowsOnly attempt.toPoolReadings)
    (all : machine.ShowsAll first.toPoolReadings) :
    (∀ command ∈ stop array first second third, machine.StopJustified array command) ↔
      machine.Distinct (array <:+: ·) (OnArray array) := by
  have devicePath := isDevicePath_of_validateArrayPath valid
  simp only [stop, valid, ↓reduceIte]
  constructor
  · intro justified pool exists_ vdev member close
    have complete : ∀ pool ∈ machine.pools, ∀ status, (∃ field ∈ Text.fields status, array <:+: field) →
        Text.contains status array = true := fun _ _ _ found => devicePath.contains_iff.mpr found
    have taken : .zpoolDestroy pool.name ∈
        destroyPools first.toPoolReadings fun _ status => Text.contains status array :=
      near_pool_is_taken all complete exists_ member close
    have has := justified (.zpoolDestroy pool.name) (mem_append_left _ (mem_append_left _ taken))
    exact HasPool.member exists_ has
  · intro distinct
    exact stopAttempts_justified devicePath distinct only

end Stop

/-- A wipe takes down holders of the device only, and a stop only pools on the array,
exactly when the status of no other pool shows a path in which the searched path occurs.
The first pass shows all pools; later passes may show less. -/
theorem release_spares_other_holders_iff (machine : Machine) {path array : Text}
    (known : path ∈ machine.tree path) (valid : validateArrayPath array = true)
    {first second : WipeReadings} (truthful : machine.Truthful path first)
    (later : machine.Truthful path second) (sees : machine.SeesPools path first)
    {stopFirst stopSecond stopThird : StopReadings}
    (only : ∀ attempt ∈ [stopFirst, stopSecond, stopThird], machine.ShowsOnly attempt.toPoolReadings)
    (all : machine.ShowsAll stopFirst.toPoolReadings) :
    ((∀ command ∈ wipeDevice path first second, machine.Justified path command) ↔
        machine.Distinct (machine.InPathOfTree path) (· ∈ machine.tree path)) ∧
      ((∀ command ∈ stop array stopFirst stopSecond stopThird, machine.StopJustified array command) ↔
        machine.Distinct (array <:+: ·) (OnArray array)) :=
  ⟨wipe_justified_iff known truthful later sees, stop_justified_iff valid only all⟩

def twoPools (tankVdev coldVdev : Text) : Machine where
  tree path := if path = "/dev/sda" then ["/dev/sda", "/dev/sda1"] else []
  pools := [⟨"tank", [tankVdev], []⟩, ⟨"cold", [coldVdev], ["/dev/sdz1"]⟩]
  arrays := [⟨"md0", ["sdb1"]⟩]
  groups := []
  devicePaths path dev member := by
    split_ifs at member
    · rcases mem_pair.mp member with rfl | rfl
      · exact ⟨by decide, by simp [Text.isSpace]⟩
      · exact ⟨by decide, by simp [Text.isSpace]⟩
    · cases member
  poolNames := by simp

def statusText (pool : String) (vdev : Text) (gone : String) : Text :=
  "  pool: " ++ pool.toList ++ "\nconfig:\n\n\tNAME STATE\n\t" ++ pool.toList ++
    " ONLINE\n\t  " ++ vdev ++ " ONLINE\n" ++ gone.toList

def twoPoolReadings (tankVdev coldVdev : Text) : PoolReadings where
  zpoolList := some "tank\ncold\n"
  zpoolStatus name :=
    if name = "tank" then some (statusText "tank" tankVdev "")
    else if name = "cold" then some (statusText "cold" coldVdev "\t  3 UNAVAIL was /dev/sdz1\n")
    else none
  zpoolDestroyed _ := true

def wipeOfSda (pools : PoolReadings) : WipeReadings where
  toPoolReadings := pools
  poolTree _ := some "/dev/sda\n/dev/sda1\n"
  mdstat := some "Personalities : [raid1]\nmd0 : active raid1 sdb1[1]\n"
  mdTree := some "/dev/sda\n/dev/sda1\n"
  pvs _ := none
  lvmTree := none
  errors := []

def stopAtOnce (pools : PoolReadings) : StopReadings where
  toPoolReadings := pools
  lsblk := none
  pvs _ := none
  stopped := true

section Fixture

variable {tankVdev coldVdev : Text} {pools : PoolReadings}

theorem lists_sda :
    (twoPools tankVdev coldVdev).ListsOnly "/dev/sda" (some "/dev/sda\n/dev/sda1\n") := by
  have listed : ∀ dev ∈ listedDevices "/dev/sda\n/dev/sda1\n",
      dev ∈ ["/dev/sda".toList, "/dev/sda1".toList] := by decide
  rintro out ⟨⟩
  exact listed

theorem wipeOfSda_truthful (only : (twoPools tankVdev coldVdev).ShowsOnly pools) :
    (twoPools tankVdev coldVdev).Truthful "/dev/sda" (wipeOfSda pools) where
  pools := only
  poolTree _ := lists_sda
  mdTree := lists_sda
  lvmTree := by rintro out ⟨⟩
  arrays := by
    have members : ∀ line ∈ Text.lines "Personalities : [raid1]\nmd0 : active raid1 sdb1[1]\n",
        ∀ named ∈ mdLine line, ∀ token ∈ named.2, ∀ member ∈ mdMember token,
          ∃ array ∈ [MdArray.mk "md0" ["sdb1"]], array.name = named.1 ∧ member ∈ array.members := by
      decide
    rintro out ⟨⟩
    exact members
  groups := by rintro dev out ⟨⟩

theorem wipeOfSda_sees (all : (twoPools tankVdev coldVdev).ShowsAll pools) :
    (twoPools tankVdev coldVdev).SeesPools "/dev/sda".toList (wipeOfSda pools) := by
  have listed : ∀ dev ∈ ["/dev/sda".toList, "/dev/sda1".toList],
      dev ∈ listedDevices "/dev/sda\n/dev/sda1\n".toList := by decide
  exact ⟨all, fun _ _ => ⟨_, rfl, listed⟩⟩

end Fixture

def tidy : Machine := twoPools "/dev/sda1" "/dev/md1"

def tidyReadings : PoolReadings := twoPoolReadings "/dev/sda1" "/dev/md1"

theorem own_pools_are_released :
    (∀ command ∈ wipeDevice "/dev/sda" (wipeOfSda tidyReadings) (wipeOfSda tidyReadings),
        tidy.Justified "/dev/sda" command) ∧
      ∀ command ∈ stop "/dev/md1" (stopAtOnce tidyReadings) (stopAtOnce tidyReadings)
        (stopAtOnce tidyReadings), tidy.StopJustified "/dev/md1" command := by
  have only : tidy.ShowsOnly tidyReadings := by
    unfold ShowsOnly
    decide
  have all : tidy.ShowsAll tidyReadings := ⟨"tank\ncold\n", rfl, by decide⟩
  have wipes : tidy.Distinct (tidy.InPathOfTree "/dev/sda") (· ∈ tidy.tree "/dev/sda") := by
    unfold Distinct InPathOfTree
    decide
  have stops : tidy.Distinct ("/dev/md1" <:+: ·) (OnArray "/dev/md1") := by
    unfold Distinct
    decide
  have valid : validateArrayPath "/dev/md1" = true := by decide
  have attempts : ∀ attempt ∈ [stopAtOnce tidyReadings, stopAtOnce tidyReadings, stopAtOnce tidyReadings],
      tidy.ShowsOnly attempt.toPoolReadings := by
    simpa [stopAtOnce] using only
  have released := release_spares_other_holders_iff tidy (by decide) valid (wipeOfSda_truthful only)
    (wipeOfSda_truthful only) (wipeOfSda_sees all) attempts all
  exact ⟨released.1.mpr wipes, released.2.mpr stops⟩

/-- Neither pool is on the device that is wiped or the array that is stopped: `sdaa` and
`md10` are other devices. -/
def unrelated : Machine := twoPools "/dev/sdaa1" "/dev/md10"

def unrelatedReadings : PoolReadings := twoPoolReadings "/dev/sdaa1" "/dev/md10"

/-- `/dev/sda` is found in `/dev/sdaa1`, and `/dev/md1` in `/dev/md10`. -/
theorem unrelated_pools_are_destroyed :
    unrelated.Truthful "/dev/sda" (wipeOfSda unrelatedReadings) ∧
      unrelated.ShowsOnly unrelatedReadings ∧
      .zpoolDestroy "tank" ∈
        wipeDevice "/dev/sda" (wipeOfSda unrelatedReadings) (wipeOfSda unrelatedReadings) ∧
      ¬ unrelated.Justified "/dev/sda" (.zpoolDestroy "tank") ∧
      .zpoolDestroy "cold" ∈ stop "/dev/md1" (stopAtOnce unrelatedReadings)
        (stopAtOnce unrelatedReadings) (stopAtOnce unrelatedReadings) ∧
      ¬ unrelated.StopJustified "/dev/md1" (.zpoolDestroy "cold") := by
  have only : unrelated.ShowsOnly unrelatedReadings := by
    unfold ShowsOnly
    decide
  have inList : "cold".toList ∈ Text.fields "tank\ncold\n".toList := by decide
  have mentioned : Text.contains (statusText "cold" "/dev/md10".toList "\t  3 UNAVAIL was /dev/sdz1\n")
      "/dev/md1".toList = true := by decide
  refine ⟨wipeOfSda_truthful only, only, by decide, ?_, ?_, ?_⟩
  · unfold Justified HasPool
    decide
  · exact mem_append_left _ (mem_append_left _ (zpoolDestroy_mem rfl inList rfl mentioned))
  · unfold StopJustified HasPool
    decide

end Machine

end Tierd.Disks
