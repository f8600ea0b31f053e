import Tierd.Disks.Listing

namespace Tierd.Disks

open Tierd.Data List

section Truth

variable (resolve : Text → Option Text) (texts : MemberTexts) (dev : LsblkDevice)

def Mounted : Prop := ∃ node ∈ dev.nodes, node.mountpoint ≠ ""

def MountedForOS : Prop := ∃ node ∈ dev.nodes, node.mountpoint ∈ osMounts

/-- The disk and its partitions. -/
def ownPaths : List Text :=
  dev.node.path :: (dev.children.filter fun child => child.node.type = "part").map fun child => child.node.path

/-- The members of the arrays in `/proc/mdstat`. -/
def mdMembers (mdstat : Text) : List Text :=
  ((Text.lines mdstat).filterMap mdLine).flatMap fun named => named.2.filterMap mdMember

def memberPaths : List Text :=
  (texts.zpoolStatus.map zpoolPaths).getD [] ++ ((texts.mdstat.map mdMembers).getD []).map (devDir ++ ·) ++
    (texts.pvs.map pvPaths).getD []

def IsMember : Prop :=
  ∃ member ∈ memberPaths texts, ∃ own ∈ ownPaths dev, canonical resolve member = canonical resolve own

/-- What the listing should say about the disk. -/
def ShownInUse (disk : Disk) : Prop :=
  (Mounted dev ∨ IsMember resolve texts dev → disk.inUse = true ∧ disk.assignment ≠ .unassigned) ∧
    (MountedForOS dev → disk.assignment = .os)

end Truth

section Noticed

variable (resolve : Text → Option Text) (texts : MemberTexts) (dev : LsblkDevice)

/-- The paths the parsers record: arrays with members of a known kind only, and physical
volumes that are not skipped. -/
def recordedPaths : List Text :=
  (texts.zpoolStatus.map zpoolPaths).getD [] ++ ((texts.mdstat.map mdadmNames).getD []).map (devDir ++ ·) ++
    ((texts.pvs.map pvPaths).getD []).filter fun pv => !skippedPV (normalizeDiskPath resolve pv)

/-- A recorded path has the base of the disk's path. -/
def IsRecorded : Prop :=
  ∃ path ∈ recordedPaths resolve texts, normalizeDiskPath resolve path = normalizeDiskPath resolve dev.node.path

def MountedOnTop : Prop := ∃ node ∈ dev.top, node.mountpoint ≠ ""

def MountedForOSOnTop : Prop := ∃ node ∈ dev.top, node.mountpoint ∈ osMounts

def Signed : Prop := ∃ node ∈ dev.nodes, (signature node.fstype).isSome = true

/-- A disk in use is recorded, or mounted in a place that is looked at and labelled by
that place or by a signature; and a mount of the system is in such a place. -/
def Noticed : Prop :=
  (Mounted dev ∨ IsMember resolve texts dev →
      (IsRecorded resolve texts dev ∨ MountedOnTop dev) ∧
        (MountedForOSOnTop dev ∨ IsRecorded resolve texts dev ∨ Signed dev)) ∧
    (MountedForOS dev → MountedForOSOnTop dev)

end Noticed

def Assignment.IsStorage (label : Assignment) : Prop := label ≠ .unassigned ∧ label ≠ .os

theorem signature_isStorage {fstype : String} {label : Assignment} (signed : signature fstype = some label) :
    label.IsStorage := by
  unfold signature at signed
  split_ifs at signed <;> cases signed <;> exact ⟨by decide, by decide⟩

mutual

theorem assignmentFromFSType_isStorage :
    ∀ (dev : LsblkDevice) (label : Assignment), assignmentFromFSType dev = some label → label.IsStorage
  | .mk node children, label, found => by
      rw [assignmentFromFSType, Option.or_eq_some_iff] at found
      rcases found with here | ⟨_, below⟩
      · exact signature_isStorage here
      · exact assignmentBelow_isStorage children label below

theorem assignmentBelow_isStorage :
    ∀ (children : List LsblkDevice) (label : Assignment), assignmentBelow children = some label → label.IsStorage
  | [], label, found => by cases found
  | child :: rest, label, found => by
      rw [assignmentBelow, Option.or_eq_some_iff] at found
      rcases found with first | ⟨_, later⟩
      · exact assignmentFromFSType_isStorage child label first
      · exact assignmentBelow_isStorage rest label later

end

mutual

theorem assignmentFromFSType_isSome :
    ∀ dev : LsblkDevice, (assignmentFromFSType dev).isSome = true ↔
      ∃ node ∈ dev.nodes, (signature node.fstype).isSome = true
  | .mk node children => by
      rw [assignmentFromFSType, LsblkDevice.nodes, Option.isSome_or, Bool.or_eq_true,
        assignmentBelow_isSome children, exists_mem_cons_iff]

theorem assignmentBelow_isSome :
    ∀ children : List LsblkDevice, (assignmentBelow children).isSome = true ↔
      ∃ node ∈ LsblkDevice.nodesBelow children, (signature node.fstype).isSome = true
  | [] => by simp [assignmentBelow, LsblkDevice.nodesBelow]
  | child :: rest => by
      rw [assignmentBelow, LsblkDevice.nodesBelow, Option.isSome_or, Bool.or_eq_true,
        assignmentFromFSType_isSome child, assignmentBelow_isSome rest]
      simp only [mem_append, or_and_right, exists_or]

end

/-- Every label in the map is one of storage. -/
def Labelled (assigned : Assigned) : Prop := ∀ path, ∀ label ∈ assigned path, label.IsStorage

theorem Labelled.update {assigned : Assigned} (before : Labelled assigned) {label : Assignment}
    (storage : label.IsStorage) (key : Text) : Labelled (Function.update assigned key (some label)) := by
  intro path found member
  by_cases same : path = key
  · subst same
    rw [Function.update_self] at member
    cases member
    exact storage
  · rw [Function.update_of_ne same] at member
    exact before path found member

theorem update_isSome_iff {assigned : Assigned} {key path : Text} {label : Assignment} :
    (Function.update assigned key (some label) path).isSome = true ↔
      (assigned path).isSome = true ∨ key = path := by
  by_cases same : path = key
  · subst same
    simp
  · simp [Function.update_of_ne same, Ne.symm same]

theorem foldl_isSome_iff {α : Type} {step : Assigned → α → Assigned} (adds : α → Text → Prop)
    (grows : ∀ result item path,
      (step result item path).isSome = true ↔ (result path).isSome = true ∨ adds item path)
    (items : List α) (result : Assigned) (path : Text) :
    (items.foldl step result path).isSome = true ↔
      (result path).isSome = true ∨ ∃ item ∈ items, adds item path := by
  induction items generalizing result with
  | nil => simp
  | cons first rest ih => rw [foldl_cons, ih, grows, exists_mem_cons_iff, or_assoc]

section Members

variable (resolve : Text → Option Text) {result : Assigned}

theorem mergeAssignedZPoolMembers_isSome (status path : Text) :
    (mergeAssignedZPoolMembers resolve result status path).isSome = true ↔
      (result path).isSome = true ∨ ∃ member ∈ zpoolPaths status, normalizeDiskPath resolve member = path := by
  refine foldl_isSome_iff (fun member path => normalizeDiskPath resolve member = path) ?_ _ result path
  exact fun _ _ _ => update_isSome_iff

theorem mergeAssignedMDADMMembers_isSome (mdstat path : Text) :
    (mergeAssignedMDADMMembers resolve result mdstat path).isSome = true ↔
      (result path).isSome = true ∨
        ∃ name ∈ mdadmNames mdstat, normalizeDiskPath resolve (devDir ++ name) = path := by
  refine foldl_isSome_iff (fun name path => normalizeDiskPath resolve (devDir ++ name) = path) ?_ _ result path
  exact fun _ _ _ => update_isSome_iff

theorem mergeAssignedLVMMembers_isSome (pvs path : Text) :
    (mergeAssignedLVMMembers resolve result pvs path).isSome = true ↔
      (result path).isSome = true ∨
        ∃ pv ∈ pvPaths pvs, skippedPV (normalizeDiskPath resolve pv) = false ∧
          normalizeDiskPath resolve pv = path := by
  refine foldl_isSome_iff (fun pv path => skippedPV (normalizeDiskPath resolve pv) = false ∧
    normalizeDiskPath resolve pv = path) ?_ _ result path
  intro result pv path
  split_ifs with skipped known
  · simp [skipped]
  · constructor
    · exact .inl
    · rintro (before | ⟨_, rfl⟩)
      · exact before
      · exact known
  · rw [update_isSome_iff]
    simp [skipped]

theorem Labelled.zpool (before : Labelled result) (status : Text) :
    Labelled (mergeAssignedZPoolMembers resolve result status) :=
  List.foldlRecOn _ _ before fun _ labelled _ _ => labelled.update ⟨by decide, by decide⟩ _

theorem Labelled.mdadm (before : Labelled result) (mdstat : Text) :
    Labelled (mergeAssignedMDADMMembers resolve result mdstat) :=
  List.foldlRecOn _ _ before fun _ labelled _ _ => labelled.update ⟨by decide, by decide⟩ _

theorem Labelled.lvm (before : Labelled result) (pvs : Text) :
    Labelled (mergeAssignedLVMMembers resolve result pvs) := by
  refine List.foldlRecOn _ _ before fun earlier labelled pv _ => ?_
  simp only
  split_ifs
  · exact labelled
  · exact labelled
  · exact labelled.update ⟨by decide, by decide⟩ _

theorem Labelled.merged {merge : Assigned → Text → Assigned} (before : Labelled result)
    (keeps : ∀ result text, Labelled result → Labelled (merge result text)) (text : Option Text) :
    Labelled (Disks.merged merge result text) := by
  cases text with
  | none => exact before
  | some text => exact keeps result text before

theorem assignedDisks_labelled (texts : MemberTexts) : Labelled (assignedDisks resolve texts) := by
  have empty : Labelled fun _ => none := fun _ label member => by cases member
  have pools := empty.merged (fun _ text labelled => labelled.zpool resolve text) texts.zpoolStatus
  have arrays := pools.merged (fun _ text labelled => labelled.mdadm resolve text) texts.mdstat
  exact arrays.merged (fun _ text labelled => labelled.lvm resolve text) texts.pvs

end Members

section Verdict

variable {resolve : Text → Option Text} {texts : MemberTexts} {dev : LsblkDevice}

theorem isOSDisk_iff : isOSDisk dev = true ↔ MountedForOSOnTop dev := by
  simp [isOSDisk, MountedForOSOnTop]

theorem findMountpoint_ne_iff : findMountpoint dev ≠ "" ↔ MountedOnTop dev := by
  unfold findMountpoint MountedOnTop
  cases found : (dev.top.map BlockNode.mountpoint).find? (· ≠ "") with
  | none => simpa using found
  | some mountpoint =>
    have nonempty : mountpoint ≠ "" := by simpa using List.find?_some found
    obtain ⟨node, onTop, rfl⟩ := mem_map.mp (mem_of_find?_eq_some found)
    exact iff_of_true nonempty ⟨node, onTop, nonempty⟩

theorem merged_isSome_iff {merge : Assigned → Text → Assigned} {result : Assigned} {path : Text}
    {items : Text → List Text} {adds : Text → Prop}
    (grows : ∀ text, (merge result text path).isSome = true ↔
      (result path).isSome = true ∨ ∃ item ∈ items text, adds item)
    (text : Option Text) :
    (merged merge result text path).isSome = true ↔
      (result path).isSome = true ∨ ∃ item ∈ (text.map items).getD [], adds item := by
  cases text with
  | none => simp [merged]
  | some text => exact grows text

theorem assignedDisks_isSome_iff :
    (assignedDisks resolve texts (normalizeDiskPath resolve dev.node.path)).isSome = true ↔
      IsRecorded resolve texts dev := by
  unfold assignedDisks IsRecorded recordedPaths
  rw [merged_isSome_iff (mergeAssignedLVMMembers_isSome resolve · _),
    merged_isSome_iff (mergeAssignedMDADMMembers_isSome resolve · _),
    merged_isSome_iff (mergeAssignedZPoolMembers_isSome resolve · _)]
  simp only [mem_append, or_and_right, exists_or, Option.isSome_none, Bool.false_eq_true, false_or,
    mem_map, exists_exists_and_eq_and, mem_filter, Bool.not_eq_true', and_assoc]

theorem label_isStorage {path : Text} {label : Assignment}
    (found : (assignedDisks resolve texts path).or (assignmentFromFSType dev) = some label) :
    label.IsStorage := by
  rcases Option.or_eq_some_iff.mp found with member | ⟨_, signed⟩
  · exact assignedDisks_labelled resolve texts path label member
  · exact assignmentFromFSType_isStorage dev label signed

theorem assignment_eq_os_iff :
    (describe resolve (assignedDisks resolve texts) dev).assignment = .os ↔ MountedForOSOnTop dev := by
  rw [← isOSDisk_iff]
  simp only [describe, assignmentForDevice]
  split_ifs with os
  · exact iff_of_true rfl os
  · refine iff_of_false ?_ os
    cases found : (assignedDisks resolve texts (normalizeDiskPath resolve dev.node.path)).or
        (assignmentFromFSType dev) with
    | none => simp
    | some label => exact (label_isStorage found).2

theorem assignment_ne_unassigned_iff :
    (describe resolve (assignedDisks resolve texts) dev).assignment ≠ .unassigned ↔
      MountedForOSOnTop dev ∨ IsRecorded resolve texts dev ∨ Signed dev := by
  rw [← isOSDisk_iff, ← assignedDisks_isSome_iff, Signed, ← assignmentFromFSType_isSome, ← Bool.or_eq_true,
    ← Option.isSome_or]
  simp only [describe, assignmentForDevice]
  split_ifs with os
  · simp [os]
  · cases found : (assignedDisks resolve texts (normalizeDiskPath resolve dev.node.path)).or
        (assignmentFromFSType dev) with
    | none => simp [os]
    | some label => simpa [os] using (label_isStorage found).1

theorem mountedOnTop_of_os (os : MountedForOSOnTop dev) : MountedOnTop dev := by
  obtain ⟨node, onTop, mount⟩ := os
  refine ⟨node, onTop, ?_⟩
  rintro empty
  rw [empty] at mount
  exact absurd mount (by decide)

theorem inUse_iff :
    (describe resolve (assignedDisks resolve texts) dev).inUse = true ↔
      IsRecorded resolve texts dev ∨ MountedOnTop dev := by
  have os : (describe resolve (assignedDisks resolve texts) dev).assignment = .os → MountedOnTop dev :=
    fun shown => mountedOnTop_of_os (assignment_eq_os_iff.mp shown)
  have flag : (describe resolve (assignedDisks resolve texts) dev).inUse = true ↔
      (IsRecorded resolve texts dev ∨ MountedOnTop dev) ∨
        (describe resolve (assignedDisks resolve texts) dev).assignment = .os := by
    rw [← assignedDisks_isSome_iff, ← findMountpoint_ne_iff]
    simp [describe]
  rw [flag, or_iff_left_of_imp]
  exact fun shown => .inr (os shown)

end Verdict

/-- The partitions of a disk, as the base of a path is made for. -/
inductive PartitionOf (disk : Text) : Text → Prop where
  | numbered {digits : Text} (other : Text.startsWith (disk ++ digits) "/dev/nvme" = false)
      (letter : disk.rdropWhile Char.isDigit = disk) (numeric : digits.all Char.isDigit = true) :
      PartitionOf disk (disk ++ digits)
  | nvme {digits : Text} (nvme : Text.startsWith disk "/dev/nvme" = true) (long : 9 < disk.length)
      (numeric : isDigits digits = true) : PartitionOf disk (disk ++ 'p' :: digits)

theorem baseDiskPath_partition {disk part : Text} (named : PartitionOf disk part) : baseDiskPath part = disk := by
  cases named with
  | @numbered digits other letter numeric =>
    have cut : (disk ++ digits).rdropWhile Char.isDigit = disk.rdropWhile Char.isDigit := by
      unfold List.rdropWhile
      rw [reverse_append, dropWhile_append_of_pos]
      simpa using numeric
    simp only [baseDiskPath, other, Bool.false_eq_true, ↓reduceIte, cut, letter]
  | @nvme digits nvme long numeric =>
    obtain ⟨_, digitsOnly⟩ : digits ≠ [] ∧ ∀ c ∈ digits, c.isDigit = true := by simpa [isDigits] using numeric
    have noP : ∀ c ∈ digits.reverse, decide (c ≠ 'p') = true := by
      intro c member
      rw [decide_eq_true_iff]
      rintro rfl
      exact absurd (digitsOnly 'p' (mem_reverse.mp member)) (by decide)
    have after : (disk ++ 'p' :: digits).rtakeWhile (· ≠ 'p') = digits := by
      unfold List.rtakeWhile
      rw [reverse_append, reverse_cons, append_assoc, takeWhile_append_of_pos noP]
      simp
    have starts : Text.startsWith (disk ++ 'p' :: digits) "/dev/nvme" = true := by
      rw [Text.startsWith, isPrefixOf_iff_prefix] at nvme ⊢
      exact nvme.trans (prefix_append disk _)
    have enough : (disk ++ 'p' :: digits).length > digits.length + 10 := by
      simp only [length_append, length_cons]
      omega
    simp only [baseDiskPath, starts, after, enough, numeric, decide_true, Bool.and_self, ↓reduceIte]
    simp [List.rdrop]

theorem mdadmName_of_mdMember {token name : Text} (member : mdMember token = some name)
    (known : isKnownKind name = true) : mdadmName token = some name := by
  unfold mdMember at member
  split at member
  case h_2 => cases member
  case h_1 rest bracket =>
    simp only at member
    split_ifs at member with shaped
    obtain rfl := Option.some.inj member
    have spelled : token = token.takeWhile isMemberChar ++ '[' :: rest := by
      rw [← bracket, takeWhile_append_dropWhile]
    have before : token.takeWhile (· ≠ '[') = token.takeWhile isMemberChar := by
      have noBracket : ∀ c ∈ token.takeWhile isMemberChar, decide (c ≠ '[') = true := by
        intro c inName
        rw [decide_eq_true_iff]
        rintro rfl
        exact absurd (mem_takeWhile_imp inName) (by decide)
      nth_rewrite 1 [spelled]
      rw [takeWhile_append_of_pos noBracket]
      simp
    have shorter : token.takeWhile isMemberChar ≠ token := by
      intro whole
      have lengths := congrArg List.length spelled
      rw [whole] at lengths
      simp at lengths
    simp only [mdadmName, before]
    rw [if_pos ⟨shorter, shaped.1, known⟩]

theorem mdMembers_subset {mdstat : Text} {member : Text} (inArray : member ∈ mdMembers mdstat)
    (known : isKnownKind member = true) : member ∈ mdadmNames mdstat := by
  obtain ⟨named, inText, inLine⟩ := mem_flatMap.mp inArray
  obtain ⟨line, lineOf, read⟩ := mem_filterMap.mp inText
  obtain ⟨token, tokenOf, shaped⟩ := mem_filterMap.mp inLine
  unfold mdLine at read
  split_ifs at read with colon
  split at read
  case h_1 => cases read
  case h_2 name tokens fields =>
    obtain rfl := Option.some.inj read
    refine mem_flatMap.mpr ⟨line, mem_filter.mpr ⟨lineOf, colon⟩, ?_⟩
    exact mem_filterMap.mpr ⟨token, fields ▸ mem_cons_of_mem name tokenOf,
      mdadmName_of_mdMember shaped known⟩

/-- The partitions bear the names of the kernel, and where the disk is a member of an
array, it is so under a name of a known kind. -/
structure KernelNamed (resolve : Text → Option Text) (texts : MemberTexts) (dev : LsblkDevice) : Prop where
  partitions : ∀ child ∈ dev.children, child.node.type = "part" →
    PartitionOf (normalizeDiskPath resolve dev.node.path) (canonical resolve child.node.path)
  arrays : ∀ mdstat ∈ texts.mdstat, ∀ member ∈ mdMembers mdstat, ∀ own ∈ ownPaths dev,
    canonical resolve (devDir ++ member) = canonical resolve own → isKnownKind member = true
  kept : skippedPV (normalizeDiskPath resolve dev.node.path) = false

theorem KernelNamed.base_own {resolve : Text → Option Text} {texts : MemberTexts} {dev : LsblkDevice}
    (named : KernelNamed resolve texts dev) {own : Text} (mine : own ∈ ownPaths dev) :
    normalizeDiskPath resolve own = normalizeDiskPath resolve dev.node.path := by
  rcases mem_cons.mp mine with rfl | part
  · rfl
  · obtain ⟨child, filtered, rfl⟩ := mem_map.mp part
    obtain ⟨isChild, isPart⟩ := mem_filter.mp filtered
    exact baseDiskPath_partition (named.partitions child isChild (by simpa using isPart))

theorem member_isRecorded {resolve : Text → Option Text} {texts : MemberTexts} {dev : LsblkDevice}
    (named : KernelNamed resolve texts dev) (member : IsMember resolve texts dev) :
    IsRecorded resolve texts dev := by
  obtain ⟨path, shown, own, mine, same⟩ := member
  have base : normalizeDiskPath resolve path = normalizeDiskPath resolve dev.node.path := by
    rw [← named.base_own mine, normalizeDiskPath, same, normalizeDiskPath]
  refine ⟨path, ?_, base⟩
  rcases mem_append.mp shown with shown | pv
  · refine mem_append_left _ ?_
    rcases mem_append.mp shown with pool | array
    · exact mem_append_left _ pool
    · refine mem_append_right _ ?_
      obtain ⟨name, inArray, rfl⟩ := mem_map.mp array
      refine mem_map_of_mem ?_
      cases printed : texts.mdstat with
      | none => simp [printed] at inArray
      | some mdstat =>
        simp only [printed, Option.map_some, Option.getD_some] at inArray ⊢
        exact mdMembers_subset inArray (named.arrays mdstat printed name inArray own mine same)
  · refine mem_append_right _ (mem_filter.mpr ⟨pv, ?_⟩)
    rw [base, named.kept]
    rfl

/-- Every disk is listed, and the listing is right about its use exactly when the use is
noticed. -/
theorem disks_in_use_are_shown_iff (resolve : Text → Option Text) (devices : List LsblkDevice)
    (texts : MemberTexts) {dev : LsblkDevice} (listed : dev ∈ devices) (isDisk : dev.node.type = "disk") :
    ∃ disks, list resolve (.ok devices) texts = .ok disks ∧
      describe resolve (assignedDisks resolve texts) dev ∈ disks ∧
      (ShownInUse resolve texts dev (describe resolve (assignedDisks resolve texts) dev) ↔
        Noticed resolve texts dev) := by
  refine ⟨_, rfl, mem_map_of_mem (mem_filter.mpr ⟨listed, by simpa using isDisk⟩), ?_⟩
  unfold ShownInUse Noticed
  rw [inUse_iff, assignment_ne_unassigned_iff, assignment_eq_os_iff]

def blockNode (path type mountpoint fstype : String) : BlockNode :=
  ⟨path, path.toList, type, "0", "", "", "sata", false, mountpoint, fstype⟩

/-- A disk with one partition, and what is on the partition. -/
def partitioned (disk partition mountpoint fstype : String) (above : List BlockNode) : LsblkDevice :=
  .mk (blockNode disk "disk" "" "")
    [.mk (blockNode partition "part" mountpoint fstype) (above.map fun node => .mk node [])]

def shownDisk (texts : MemberTexts) (dev : LsblkDevice) : Disk :=
  describe (fun _ => none) (assignedDisks (fun _ => none) texts) dev

def poolDisk : LsblkDevice := partitioned "/dev/sda" "/dev/sda1" "" "zfs_member" []

def poolTexts : MemberTexts := ⟨some "\t  /dev/sda1 ONLINE 0 0 0\n", none, none⟩

theorem pool_member_is_shown : ShownInUse (fun _ => none) poolTexts poolDisk (shownDisk poolTexts poolDisk) := by
  obtain ⟨_, _, _, right⟩ :=
    disks_in_use_are_shown_iff (fun _ => none) [poolDisk] poolTexts (mem_singleton_self poolDisk) rfl
  have recorded : IsRecorded (fun _ => none) poolTexts poolDisk := ⟨"/dev/sda1", by decide, by decide⟩
  have notForOS : ¬ MountedForOS poolDisk := by
    unfold MountedForOS
    decide
  exact right.mpr ⟨fun _ => ⟨.inl recorded, .inr (.inl recorded)⟩, fun os => absurd os notForOS⟩

/-- A disk with names of the kernel that is a member of something is shown as such. -/
theorem named_member_shown {resolve : Text → Option Text} {texts : MemberTexts} {dev : LsblkDevice}
    (named : KernelNamed resolve texts dev) (member : IsMember resolve texts dev) :
    (describe resolve (assignedDisks resolve texts) dev).inUse = true ∧
      (describe resolve (assignedDisks resolve texts) dev).assignment ≠ .unassigned := by
  have recorded := member_isRecorded named member
  exact ⟨inUse_iff.mpr (.inl recorded), assignment_ne_unassigned_iff.mpr (.inr (.inl recorded))⟩

/-- An array of virtual disks runs beside the pool. -/
def besideArrayTexts : MemberTexts := { poolTexts with mdstat := some "md1 : active raid1 vdc1[0]\n" }

theorem poolDisk_shown :
    KernelNamed (fun _ => none) besideArrayTexts poolDisk ∧ (shownDisk besideArrayTexts poolDisk).inUse = true := by
  have others : ∀ member ∈ mdMembers "md1 : active raid1 vdc1[0]\n", ∀ own ∈ ownPaths poolDisk,
      canonical (fun _ => none) (devDir ++ member) = canonical (fun _ => none) own → isKnownKind member = true := by
    decide
  have named : KernelNamed (fun _ => none) besideArrayTexts poolDisk := by
    refine ⟨fun child isChild _ => ?_, fun mdstat printed => ?_, by decide⟩
    · cases mem_singleton.mp isChild
      exact @PartitionOf.numbered "/dev/sda" "1" (by decide) (by decide) (by decide)
    · cases printed
      exact others
  exact ⟨named, (named_member_shown named ⟨"/dev/sda1", by decide, "/dev/sda1", by decide, rfl⟩).1⟩

/-- An encrypted partition with a mounted filesystem. -/
def cryptDisk : LsblkDevice :=
  partitioned "/dev/sdb" "/dev/sdb1" "" "crypto_LUKS" [blockNode "/dev/mapper/safe" "crypt" "/srv" "ext4"]

/-- A volume group with the root filesystem. -/
def rootDisk : LsblkDevice :=
  partitioned "/dev/sda" "/dev/sda2" "" "LVM2_member" [blockNode "/dev/mapper/vg-root" "lvm" "/" "ext4"]

def rootTexts : MemberTexts := ⟨none, none, some "  /dev/sda2 vg\n"⟩

/-- A member of a running array that the parser takes for no disk. -/
def virtualDisk : LsblkDevice := partitioned "/dev/vdb" "/dev/vdb1" "" "linux_raid_member" []

def virtualTexts : MemberTexts := ⟨none, some "md0 : active raid1 vdb1[0]\n", none⟩

def dataDisk : LsblkDevice := partitioned "/dev/sdc" "/dev/sdc1" "/srv" "ext4" []

/-- A mount two levels down, a root file system on LVM, a member on a virtual disk and a data mount.
-/
theorem uses_are_missed :
    (Mounted cryptDisk ∧ (shownDisk ⟨none, none, none⟩ cryptDisk).inUse = false ∧
        (shownDisk ⟨none, none, none⟩ cryptDisk).assignment = .unassigned) ∧
      (MountedForOS rootDisk ∧ (shownDisk rootTexts rootDisk).assignment = .lvm) ∧
      (IsMember (fun _ => none) virtualTexts virtualDisk ∧ (shownDisk virtualTexts virtualDisk).inUse = false) ∧
      Mounted dataDisk ∧ (shownDisk ⟨none, none, none⟩ dataDisk).assignment = .unassigned := by
  unfold Mounted MountedForOS IsMember
  refine ⟨⟨by decide, by decide, by decide⟩, ⟨by decide, by decide⟩, ⟨?_, by decide⟩, by decide, by decide⟩
  exact ⟨"/dev/vdb1", by decide, "/dev/vdb1", by decide, rfl⟩

end Tierd.Disks
