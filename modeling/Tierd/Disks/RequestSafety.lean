import Tierd.Disks.Requests

namespace Tierd.Disks

open Tierd.Data List

namespace DiskState

variable (state : DiskState)

def shown : List Disk := state.listing.toOption.getD []

def SameDevice (first second : Text) : Prop := canonical state.resolve first = canonical state.resolve second

def Listed (path : Text) (d : Disk) : Prop := d ∈ state.shown ∧ state.SameDevice d.path path

def Reserved (path : Text) : Prop :=
  ∃ row ∈ state.filesystemRows ++ state.nonRaidRows, state.SameDevice row path

end DiskState

/-- The owners a request may take a disk from.  The wipe of ZFS members is for disks of
pools that are gone. -/
def DiskRequest.Owns : DiskRequest → Assignment → Prop
  | .wipeZFSMemberDisks _, assignment => assignment = .unassigned ∨ assignment = .zfsPool
  | _, assignment => assignment = .unassigned

/-- Not in use, without another owner, and no row of an array stands for it. -/
def Free (state : DiskState) (request : DiskRequest) (path : Text) : Prop :=
  (∀ d, state.Listed path d → d.inUse = false ∧ request.Owns d.assignment) ∧ ¬ state.Reserved path

/-- However its steps turn out, the request wipes free devices only. -/
def Harmless (state : DiskState) (request : DiskRequest) : Prop :=
  ∀ outcome, ∀ path ∈ wiped state request outcome, Free state request path

namespace DiskState

variable (state : DiskState)

def Idle (path : Text) : Prop := ∀ d ∈ state.shown, state.SameDevice d.path path → d.inUse = false

def Unassigned (path : Text) : Prop :=
  ∀ d ∈ state.shown, state.SameDevice d.path path → d.assignment = .unassigned

/-- Every path has the form of a disk's, and some listed disk with its normal form is
unassigned. -/
def AllUnassigned (paths : List Text) : Prop :=
  ∀ path ∈ paths, diskPathRegex path = true ∧ ∃ d ∈ state.shown,
    normalizeDiskPath state.resolve d.path = normalizeDiskPath state.resolve path ∧ d.assignment = .unassigned

/-- The path is that of an idle disk of a pool that is not imported. -/
def StaleMember (path : Text) : Prop :=
  diskPathRegex path = true ∧ state.isActiveMember path = false ∧
    ∃ d ∈ state.shown, d.path = path ∧ d.assignment = .zfsPool ∧ d.inUse = false

/-- The listed disk that a path stands for when a filesystem array is created. -/
def filesystemDisk (path : Text) : Option Disk :=
  (byPath state.shown path).or (byPath state.shown (baseDiskPath path))

/-- The path is that of an unassigned disk, and no row has that path, up to the number of
a partition, nor the stable path of the disk. -/
def FilesystemOffered (path : Text) : Prop :=
  diskPathRegex path = true ∧ baseDiskPath path ∉ state.readRows.map baseDiskPath ∧
    ∃ d ∈ state.filesystemDisk path, d.assignment = .unassigned ∧
      state.stableDevicePath d.path ∉ state.filesystemRows

/-- The unassigned disk that a path stands for when a nonRaid array is created. -/
def nonRaidDisk (path : Text) : Option Disk := candidateAt (state.nonRaidOffer state.shown) path

def NonRaidOffered (path : Text) : Prop := ∃ d ∈ state.nonRaidDisk path, d.path ∉ state.nonRaidRows

end DiskState

/-- What a request leaves to its caller.  Additions to a pool look at the form of the
paths only; arrays and pools are created from unassigned disks that may be mounted; no
request compares the devices behind its paths with those behind all rows. -/
def Covered (state : DiskState) : DiskRequest → Prop
  | .createArray accepted disks =>
    accepted = true ∧ state.AllUnassigned disks → ∀ path ∈ disks, state.Idle path ∧ ¬ state.Reserved path
  | .createPool accepted _ dataDisks slogDisks l2arcDisks =>
    accepted = true ∧ state.AllUnassigned (dataDisks ++ slogDisks ++ l2arcDisks) →
      ∀ path ∈ dataDisks ++ slogDisks ++ l2arcDisks, state.Idle path ∧ ¬ state.Reserved path
  | .addVdev accepted _ disks | .addSLOG accepted disks | .addL2ARC accepted disks =>
    accepted = true ∧ (∀ path ∈ disks, diskPathRegex path = true) →
      ∀ path ∈ disks, state.Idle path ∧ state.Unassigned path ∧ ¬ state.Reserved path
  | .replaceDisk accepted oldDisk newDisk =>
    accepted = true ∧ diskPathRegex oldDisk = true ∧ diskPathRegex newDisk = true →
      state.Idle newDisk ∧ state.Unassigned newDisk ∧ ¬ state.Reserved newDisk
  | .wipeDisk path =>
    ∀ d ∈ state.shown, d.path = path → d.inUse = false → d.assignment ≠ .os → isValidDiskPath path = true →
      d.assignment = .unassigned ∧ ¬ state.Reserved path
  | .wipeZFSMemberDisks paths => (∀ path ∈ paths, state.StaleMember path) → ∀ path ∈ paths, ¬ state.Reserved path
  | .createFilesystemArray accepted paths =>
    accepted = true ∧ (∀ path ∈ paths, state.FilesystemOffered path) →
      ∀ path ∈ paths, ∀ d ∈ state.filesystemDisk path, d.inUse = false ∧ ¬ state.Reserved d.path
  | .createNonRaidArray accepted dataDisks parityDisks =>
    accepted = true ∧ state.nonRaidReadable = true ∧ (∀ path ∈ dataDisks ++ parityDisks, state.NonRaidOffered path) →
      ∀ path ∈ dataDisks ++ parityDisks, ∀ d ∈ state.nonRaidDisk path, d.inUse = false ∧ ¬ state.Reserved d.path

theorem zapDisks_subset (fails : Text → Bool) (devices : List Text) :
    ∀ path ∈ zapDisks fails devices, path ∈ devices := by
  induction devices with
  | nil => intro path member; cases member
  | cons device rest ih =>
    intro path member
    rcases mem_cons.mp member with rfl | later
    · exact mem_cons_self
    · split_ifs at later
      · cases later
      · exact mem_cons_of_mem device (ih path later)

theorem zapDisks_all (devices : List Text) : zapDisks (fun _ => false) devices = devices := by
  induction devices with
  | nil => rfl
  | cons device rest ih => simpa [zapDisks] using ih

theorem harmless_iff_plan {state : DiskState} {request : DiskRequest} :
    Harmless state request ↔
      ∀ devices, request.plan state = .ok devices → ∀ path ∈ devices, Free state request path := by
  constructor
  · intro harmless devices planned path member
    refine harmless ⟨true, fun _ => false⟩ path ?_
    simpa [wiped, serve, planned, zapDisks_all] using member
  · intro free outcome path member
    unfold wiped serve at member
    split at member
    case h_1 => cases member
    case h_2 devices planned =>
      split_ifs at member
      · exact free devices planned path (zapDisks_subset _ devices path member)
      · cases member

/-- A request that wipes the disks it names, once they pass its checks. -/
theorem harmless_iff_named {state : DiskState} {request : DiskRequest} {passes : Prop} {named : List Text}
    (sound : ∀ devices, request.plan state = .ok devices → passes ∧ devices = named)
    (complete : passes → named ≠ [] → request.plan state = .ok named) :
    Harmless state request ↔ (passes → ∀ path ∈ named, Free state request path) := by
  rw [harmless_iff_plan]
  constructor
  · intro free passed path member
    exact free named (complete passed (ne_nil_of_mem member)) path member
  · intro free devices planned
    obtain ⟨passed, rfl⟩ := sound devices planned
    exact free passed

section Checks

variable {state : DiskState}

theorem shown_eq {disks : List Disk} (listing : state.listing = .ok disks) : state.shown = disks := by
  simp [DiskState.shown, listing, Except.toOption]

variable {d : Disk}

theorem exists_listing (member : d ∈ state.shown) : state.listing = .ok state.shown := by
  cases listing : state.listing with
  | error problem => simp [DiskState.shown, listing, Except.toOption] at member
  | ok disks => rw [shown_eq listing]

theorem lastWhere_eq_some {condition : Disk → Bool} {disks : List Disk}
    (found : lastWhere condition disks = some d) : d ∈ disks ∧ condition d = true :=
  mem_filter.mp (mem_of_getLast? found)

theorem exists_lastWhere (condition : Disk → Bool) {disks : List Disk} (member : d ∈ disks)
    (met : condition d = true) : ∃ last, lastWhere condition disks = some last :=
  ⟨_, List.getLast?_eq_some_getLast (ne_nil_of_mem (mem_filter.mpr ⟨member, met⟩))⟩

/-- The listing has a whole disk once. -/
theorem eq_of_normalizeDiskPath {path : Text} (valid : diskPathRegex path = true) {first second : Disk}
    (inFirst : first ∈ state.shown) (inSecond : second ∈ state.shown)
    (same : normalizeDiskPath state.resolve first.path = normalizeDiskPath state.resolve path)
    (again : normalizeDiskPath state.resolve second.path = normalizeDiskPath state.resolve path) :
    first = second :=
  state.wholeOnce _ (exists_listing inFirst) first inFirst second inSecond path valid same again

theorem eq_of_sameDevice {first second : Disk} (inFirst : first ∈ state.shown) (inSecond : second ∈ state.shown)
    (same : state.SameDevice first.path second.path) : first = second :=
  state.listedOnce _ (exists_listing inFirst) first inFirst second inSecond same

theorem lastWhere_path (member : d ∈ state.shown) :
    lastWhere (fun other => other.path = d.path) state.shown = some d := by
  obtain ⟨last, found⟩ := exists_lastWhere (fun other => other.path = d.path) member (decide_eq_true rfl)
  obtain ⟨inLast, own⟩ := lastWhere_eq_some found
  have same : state.SameDevice last.path d.path := congrArg _ (of_decide_eq_true own)
  rw [found, eq_of_sameDevice inLast member same]

theorem normalizeDiskPath_of_sameDevice {first second : Text} (same : state.SameDevice first second) :
    normalizeDiskPath state.resolve first = normalizeDiskPath state.resolve second :=
  congrArg baseDiskPath same

variable {paths : List Text}

theorem AllUnassigned_unassigned (all : state.AllUnassigned paths) :
    ∀ path ∈ paths, state.Unassigned path := by
  intro path member d inListing same
  obtain ⟨valid, known, inShown, normal, unassigned⟩ := all path member
  rw [eq_of_normalizeDiskPath valid inListing inShown (normalizeDiskPath_of_sameDevice same) normal]
  exact unassigned

theorem requireUnassigned_sound (valid : ∀ path ∈ paths, diskPathRegex path = true)
    (passed : state.requireUnassigned paths = .ok ()) : state.AllUnassigned paths := by
  simp only [DiskState.requireUnassigned, bind_eq_ok, checkAll_eq_ok] at passed
  obtain ⟨disks, listing, passed⟩ := passed
  rw [← shown_eq (mapError_eq_ok.mp listing)] at passed
  intro path member
  have entry := passed path member
  split at entry
  case h_1 => cases entry
  case h_2 known found =>
    obtain ⟨inListing, same⟩ := lastWhere_eq_some found
    exact ⟨valid path member, known, inListing, of_decide_eq_true same, ensure_eq_ok.mp entry⟩

theorem requireUnassigned_complete (all : state.AllUnassigned paths) (asked : paths ≠ []) :
    state.requireUnassigned paths = .ok () := by
  obtain ⟨first, member⟩ := exists_mem_of_ne_nil paths asked
  obtain ⟨_, some_, inShown, _⟩ := all first member
  simp only [DiskState.requireUnassigned, bind_eq_ok, checkAll_eq_ok]
  refine ⟨state.shown, mapError_eq_ok.mpr (exists_listing inShown), fun path asked => ?_⟩
  obtain ⟨valid, d, inListing, same, unassigned⟩ := all path asked
  obtain ⟨last, found⟩ := exists_lastWhere
    (fun d => normalizeDiskPath state.resolve d.path = normalizeDiskPath state.resolve path) inListing
    (decide_eq_true same)
  obtain ⟨inLast, sameLast⟩ := lastWhere_eq_some found
  rw [found]
  dsimp only
  rw [eq_of_normalizeDiskPath valid inLast inListing (of_decide_eq_true sameLast) same]
  exact ensure_eq_ok.mpr unassigned

theorem canonical_stableDevicePath (path : Text) : state.SameDevice (state.stableDevicePath path) path := by
  unfold DiskState.SameDevice DiskState.stableDevicePath
  split
  case h_1 => rfl
  case h_2 target resolved =>
    cases found : state.aliases.find? fun link => state.resolve link = some target with
    | none => rfl
    | some link =>
      have leads : state.resolve link = some target := by simpa using List.find?_some found
      simp [canonical, leads, resolved]

variable {request : DiskRequest} {path : Text}

/-- Where the request takes unassigned disks, a free path is idle, unassigned and not
reserved. -/
theorem free_iff (own : ∀ assignment, request.Owns assignment ↔ assignment = .unassigned) :
    Free state request path ↔ state.Idle path ∧ state.Unassigned path ∧ ¬ state.Reserved path := by
  simp only [Free, own, DiskState.Listed, DiskState.Idle, DiskState.Unassigned, and_imp]
  constructor
  · rintro ⟨listed, unreserved⟩
    exact ⟨fun d member same => (listed d member same).1, fun d member same => (listed d member same).2, unreserved⟩
  · rintro ⟨idle, unassigned, unreserved⟩
    exact ⟨fun d member same => ⟨idle d member same, unassigned d member same⟩, unreserved⟩

/-- The same for the device of a listed disk that is unassigned. -/
theorem free_iff_of_disk (own : ∀ assignment, request.Owns assignment ↔ assignment = .unassigned)
    (inListing : d ∈ state.shown) (unassigned : d.assignment = .unassigned) (same : state.SameDevice path d.path) :
    Free state request path ↔ d.inUse = false ∧ ¬ state.Reserved d.path := by
  have alone : ∀ other ∈ state.shown, state.SameDevice other.path path → other = d :=
    fun other member device => eq_of_sameDevice member inListing (device.trans same)
  have reserved : state.Reserved path ↔ state.Reserved d.path := by
    simp only [DiskState.Reserved, DiskState.SameDevice] at same ⊢
    rw [same]
  rw [free_iff own, reserved]
  constructor
  · rintro ⟨idle, _, unreserved⟩
    exact ⟨idle d inListing same.symm, unreserved⟩
  · rintro ⟨idle, unreserved⟩
    refine ⟨fun other member device => ?_, fun other member device => ?_, unreserved⟩
    · rw [alone other member device]
      exact idle
    · rw [alone other member device]
      exact unassigned

theorem harmless_of_allUnassigned {accepted : Bool} {disks : List Text}
    (own : ∀ assignment, request.Owns assignment ↔ assignment = .unassigned)
    (sound : ∀ devices, request.plan state = .ok devices →
      (accepted = true ∧ state.AllUnassigned disks) ∧ devices = disks)
    (complete : accepted = true ∧ state.AllUnassigned disks → disks ≠ [] → request.plan state = .ok disks) :
    Harmless state request ↔
      (accepted = true ∧ state.AllUnassigned disks → ∀ path ∈ disks, state.Idle path ∧ ¬ state.Reserved path) := by
  rw [harmless_iff_named sound complete]
  refine forall_congr' fun passed => forall₂_congr fun path member => ?_
  rw [free_iff own]
  have unassigned := AllUnassigned_unassigned passed.2 path member
  tauto

theorem createArray_harmless_iff (accepted : Bool) (disks : List Text) :
    Harmless state (.createArray accepted disks) ↔ Covered state (.createArray accepted disks) := by
  refine harmless_of_allUnassigned (fun _ => Iff.rfl) ?_ ?_
  · intro devices planned
    simp only [DiskRequest.plan, DiskState.createArray, DiskState.prepareDisks, bind_eq_ok, pure_eq_ok,
      checkAll_eq_ok, validateDiskPath, ensure_eq_ok] at planned
    obtain ⟨_, accepts, _, valid, _, _, _, passed, rfl⟩ := planned
    exact ⟨⟨accepts, requireUnassigned_sound valid passed⟩, rfl⟩
  · rintro ⟨accepts, all⟩ asked
    have valid : ∀ path ∈ disks, diskPathRegex path = true := fun path member => (all path member).1
    simp only [DiskRequest.plan, DiskState.createArray, DiskState.prepareDisks, bind_eq_ok, pure_eq_ok,
      checkAll_eq_ok, validateDiskPath, ensure_eq_ok]
    exact ⟨(), accepts, (), valid, (), valid, (), requireUnassigned_complete all asked, trivial⟩

theorem createPool_harmless_iff (accepted : Bool) (vdevType : String) (dataDisks slogDisks l2arcDisks : List Text) :
    Harmless state (.createPool accepted vdevType dataDisks slogDisks l2arcDisks) ↔
      Covered state (.createPool accepted vdevType dataDisks slogDisks l2arcDisks) := by
  refine harmless_of_allUnassigned (fun _ => Iff.rfl) ?_ ?_
  · intro devices planned
    simp only [DiskRequest.plan, DiskState.createPool, bind_eq_ok, pure_eq_ok, checkAll_eq_ok, validateDiskPath,
      ensure_eq_ok] at planned
    obtain ⟨_, accepts, _, valid, _, passed, rfl⟩ := planned
    exact ⟨⟨accepts, requireUnassigned_sound valid passed⟩, rfl⟩
  · rintro ⟨accepts, all⟩ asked
    simp only [DiskRequest.plan, DiskState.createPool, bind_eq_ok, pure_eq_ok, checkAll_eq_ok, validateDiskPath,
      ensure_eq_ok]
    exact ⟨(), accepts, (), fun path member => (all path member).1, (), requireUnassigned_complete all asked, trivial⟩

theorem addDisks_harmless_iff {accepted : Bool} {disks : List Text}
    (own : ∀ assignment, request.Owns assignment ↔ assignment = .unassigned)
    (planned : request.plan state = addDisks accepted disks) :
    Harmless state request ↔
      (accepted = true ∧ (∀ path ∈ disks, diskPathRegex path = true) →
        ∀ path ∈ disks, state.Idle path ∧ state.Unassigned path ∧ ¬ state.Reserved path) := by
  simp only [← free_iff own]
  refine harmless_iff_named ?_ ?_
  · intro devices passed
    simp only [planned, addDisks, bind_eq_ok, pure_eq_ok, checkAll_eq_ok, validateDiskPath, ensure_eq_ok] at passed
    obtain ⟨_, _, _, accepts, _, valid, rfl⟩ := passed
    exact ⟨⟨accepts, valid⟩, rfl⟩
  · rintro ⟨accepts, valid⟩ asked
    simp only [planned, addDisks, bind_eq_ok, pure_eq_ok, checkAll_eq_ok, validateDiskPath, ensure_eq_ok]
    exact ⟨(), asked, (), accepts, (), valid, trivial⟩

theorem replaceDisk_harmless_iff (accepted : Bool) (oldDisk newDisk : Text) :
    Harmless state (.replaceDisk accepted oldDisk newDisk) ↔
      Covered state (.replaceDisk accepted oldDisk newDisk) := by
  have named : Harmless state (.replaceDisk accepted oldDisk newDisk) ↔ (accepted = true ∧
      diskPathRegex oldDisk = true ∧ diskPathRegex newDisk = true →
        ∀ path ∈ [newDisk], Free state (.replaceDisk accepted oldDisk newDisk) path) := by
    refine harmless_iff_named ?_ ?_
    · intro devices planned
      simp only [DiskRequest.plan, replaceDisk, bind_eq_ok, pure_eq_ok, validateDiskPath, ensure_eq_ok] at planned
      obtain ⟨_, _, _, accepts, _, validOld, _, validNew, rfl⟩ := planned
      exact ⟨⟨accepts, validOld, validNew⟩, rfl⟩
    · rintro ⟨accepts, validOld, validNew⟩ _
      have given : newDisk ≠ [] := by
        rintro rfl
        exact absurd validNew (by decide)
      simp only [DiskRequest.plan, replaceDisk, bind_eq_ok, pure_eq_ok, validateDiskPath, ensure_eq_ok]
      exact ⟨(), given, (), accepts, (), validOld, (), validNew, trivial⟩
  rw [named]
  simp only [mem_singleton, forall_eq]
  exact forall_congr' fun _ => free_iff fun _ => Iff.rfl

theorem wipeDisk_harmless_iff (path : Text) :
    Harmless state (.wipeDisk path) ↔ Covered state (.wipeDisk path) := by
  rw [harmless_iff_plan]
  constructor
  · intro free d inListing own idle notOS valid
    have found : state.shown.find? (fun entry => entry.path = path) = some d := by
      obtain ⟨entry, known⟩ : ∃ entry, state.shown.find? (fun entry => entry.path = path) = some entry :=
        Option.isSome_iff_exists.mp (List.find?_isSome.mpr ⟨d, inListing, decide_eq_true own⟩)
      have named : entry.path = path := by simpa using List.find?_some known
      have same : state.SameDevice entry.path d.path := by rw [named, own, DiskState.SameDevice]
      rw [known, eq_of_sameDevice (mem_of_find?_eq_some known) inListing same]
    have planned : state.wipeDisk path = .ok [path] := by
      simp only [DiskState.wipeDisk, bind_eq_ok]
      refine ⟨state.shown, mapError_eq_ok.mpr (exists_listing inListing), ?_⟩
      simp only [found, bind_eq_ok, pure_eq_ok, ensure_eq_ok]
      exact ⟨(), notOS, (), idle, (), valid, trivial⟩
    obtain ⟨listed, unreserved⟩ := free [path] planned path (mem_singleton_self path)
    exact ⟨(listed d ⟨inListing, by rw [own, DiskState.SameDevice]⟩).2, unreserved⟩
  · intro covered devices planned
    simp only [DiskRequest.plan, DiskState.wipeDisk, bind_eq_ok] at planned
    obtain ⟨disks, listing, planned⟩ := planned
    rw [← shown_eq (mapError_eq_ok.mp listing)] at planned
    split at planned
    case h_1 => cases planned
    case h_2 entry found =>
      simp only [bind_eq_ok, pure_eq_ok, ensure_eq_ok] at planned
      obtain ⟨_, notOS, _, idle, _, valid, rfl⟩ := planned
      have inListing := mem_of_find?_eq_some found
      have own : entry.path = path := by simpa using List.find?_some found
      obtain ⟨unassigned, unreserved⟩ := covered entry inListing own idle notOS valid
      intro device member
      obtain rfl := mem_singleton.mp member
      exact (free_iff_of_disk (fun _ => Iff.rfl) inListing unassigned (by rw [own, DiskState.SameDevice])).mpr
        ⟨idle, own ▸ unreserved⟩

theorem wipeZFSMemberDisks_harmless_iff (paths : List Text) :
    Harmless state (.wipeZFSMemberDisks paths) ↔ Covered state (.wipeZFSMemberDisks paths) := by
  have named : Harmless state (.wipeZFSMemberDisks paths) ↔ ((∀ path ∈ paths, state.StaleMember path) →
      ∀ path ∈ paths, Free state (.wipeZFSMemberDisks paths) path) := by
    refine harmless_iff_named ?_ ?_
    · intro devices planned
      simp only [DiskRequest.plan, DiskState.wipeZFSMemberDisks, bind_eq_ok, pure_eq_ok, checkAll_eq_ok,
        ensure_eq_ok] at planned
      obtain ⟨_, _, disks, listing, _, passed, rfl⟩ := planned
      rw [← shown_eq (mapError_eq_ok.mp listing)] at passed
      refine ⟨fun path member => ?_, rfl⟩
      obtain ⟨_, valid, passed⟩ := passed path member
      split at passed
      case h_1 => cases passed
      case h_2 entry found =>
        simp only [bind_eq_ok, ensure_eq_ok] at passed
        obtain ⟨_, isMember, idle, notActive⟩ := passed
        obtain ⟨inListing, own⟩ := lastWhere_eq_some found
        exact ⟨ensure_eq_ok.mp valid, notActive, entry, inListing, of_decide_eq_true own, isMember, idle⟩
    · intro stale asked
      obtain ⟨first, member⟩ := exists_mem_of_ne_nil paths asked
      obtain ⟨_, _, _, inShown, _⟩ := stale first member
      simp only [DiskRequest.plan, DiskState.wipeZFSMemberDisks, bind_eq_ok, pure_eq_ok, checkAll_eq_ok,
        ensure_eq_ok]
      refine ⟨(), asked, state.shown, mapError_eq_ok.mpr (exists_listing inShown), (), fun path member => ?_, trivial⟩
      obtain ⟨valid, notActive, d, inListing, rfl, isMember, idle⟩ := stale path member
      refine ⟨(), ensure_eq_ok.mpr valid, ?_⟩
      rw [lastWhere_path inListing]
      simp only [bind_eq_ok, ensure_eq_ok]
      exact ⟨(), isMember, idle, notActive⟩
  rw [named]
  refine forall_congr' fun stale => forall₂_congr fun path member => ?_
  obtain ⟨_, _, d, inListing, rfl, isMember, idle⟩ := stale path member
  refine ⟨And.right, fun unreserved => ⟨fun other listed => ?_, unreserved⟩⟩
  rw [eq_of_sameDevice listed.1 inListing listed.2]
  exact ⟨idle, .inr isMember⟩

theorem filesystemDevice_eq_ok {path device : Text} :
    state.filesystemDevice state.shown path = .ok device ↔
      diskPathRegex path = true ∧ baseDiskPath path ∉ state.readRows.map baseDiskPath ∧
        ∃ d ∈ state.filesystemDisk path, d.assignment = .unassigned ∧ state.stableDevicePath d.path = device := by
  simp only [DiskState.filesystemDevice, bind_eq_ok, validateDiskPath, ensure_eq_ok, require_eq_ok, pure_eq_ok]
  constructor
  · rintro ⟨_, valid, _, unreserved, d, found, _, unassigned, rfl⟩
    exact ⟨valid, unreserved, d, found, unassigned, rfl⟩
  · rintro ⟨valid, unreserved, d, found, unassigned, rfl⟩
    exact ⟨(), valid, (), unreserved, d, found, (), unassigned, rfl⟩

theorem mem_shown_of_filesystemDisk (found : state.filesystemDisk path = some d) : d ∈ state.shown := by
  rcases Option.or_eq_some_iff.mp found with here | ⟨_, base⟩
  · exact (lastWhere_eq_some here).1
  · exact (lastWhere_eq_some base).1

theorem createFilesystemArray_harmless_iff (accepted : Bool) (paths : List Text) :
    Harmless state (.createFilesystemArray accepted paths) ↔
      Covered state (.createFilesystemArray accepted paths) := by
  have own : ∀ assignment, (DiskRequest.createFilesystemArray accepted paths).Owns assignment ↔
      assignment = .unassigned := fun _ => Iff.rfl
  rw [harmless_iff_plan]
  simp only [DiskRequest.plan, DiskState.createFilesystemArray, DiskState.resolveFilesystemArrayDevices, bind_eq_ok,
    pure_eq_ok, checkAll_eq_ok, ensure_eq_ok]
  constructor
  · rintro free ⟨accepts, offered⟩ path member d found
    obtain ⟨valid, unreserved, again, known, unassigned, _⟩ := offered path member
    obtain rfl : d = again := Option.some.inj (found.symm.trans known)
    have inListing := mem_shown_of_filesystemDisk found
    obtain ⟨devices, resolved⟩ := exists_findAll fun asked inAsked => by
      obtain ⟨valid, unreserved, other, known, unassigned, _⟩ := offered asked inAsked
      exact ⟨_, filesystemDevice_eq_ok.mpr ⟨valid, unreserved, other, known, unassigned, rfl⟩⟩
    have untaken : ∀ device ∈ devices, device ∉ state.filesystemRows := by
      intro device inDevices
      obtain ⟨asked, inAsked, here⟩ := exists_item_of_findAll resolved inDevices
      obtain ⟨_, _, other, known, _, rfl⟩ := filesystemDevice_eq_ok.mp here
      obtain ⟨_, _, again, knownAgain, _, untaken⟩ := offered asked inAsked
      obtain rfl : other = again := Option.some.inj (known.symm.trans knownAgain)
      exact untaken
    obtain ⟨device, inDevices, here⟩ := exists_value_of_findAll resolved member
    obtain ⟨_, _, other, knownOther, _, rfl⟩ := filesystemDevice_eq_ok.mp here
    obtain rfl : d = other := Option.some.inj (found.symm.trans knownOther)
    have listing : state.disks = .ok state.shown := mapError_eq_ok.mpr (exists_listing inListing)
    have safe := free devices ⟨(), ne_nil_of_mem member, devices, ⟨state.shown, listing, resolved⟩, (),
      accepts, (), untaken, rfl⟩ _ inDevices
    exact (free_iff_of_disk own inListing unassigned (canonical_stableDevicePath d.path)).mp safe
  · rintro covered devices ⟨_, _, _, ⟨disks, listing, resolved⟩, _, accepts, _, untaken, rfl⟩ device inDevices
    obtain rfl := shown_eq (mapError_eq_ok.mp listing)
    have offered : ∀ path ∈ paths, state.FilesystemOffered path := by
      intro path member
      obtain ⟨value, inValues, here⟩ := exists_value_of_findAll resolved member
      obtain ⟨valid, unreserved, d, found, unassigned, rfl⟩ := filesystemDevice_eq_ok.mp here
      exact ⟨valid, unreserved, d, found, unassigned, untaken _ inValues⟩
    obtain ⟨path, member, here⟩ := exists_item_of_findAll resolved inDevices
    obtain ⟨_, _, d, found, unassigned, rfl⟩ := filesystemDevice_eq_ok.mp here
    exact (free_iff_of_disk own (mem_shown_of_filesystemDisk found) unassigned
      (canonical_stableDevicePath d.path)).mpr (covered ⟨accepts, offered⟩ path member d found)

theorem mem_shown_of_nonRaidDisk (found : state.nonRaidDisk path = some d) :
    d ∈ state.shown ∧ d.assignment = .unassigned := by
  obtain ⟨inListing, allowed⟩ := mem_filter.mp (lastWhere_eq_some found).1
  exact ⟨inListing, of_decide_eq_true (Bool.and_eq_true_iff.mp allowed).2⟩

theorem candidate_of_resolved {candidates found : List Disk}
    (resolved : DiskState.resolveNonRaidDevices candidates paths = .ok found) (member : d ∈ found) :
    ∃ path ∈ paths, DiskState.candidateAt candidates path = some d := by
  obtain ⟨path, asked, known⟩ := exists_item_of_findAll resolved member
  exact ⟨path, asked, require_eq_ok.mp known⟩

theorem resolved_of_candidate {candidates found : List Disk}
    (resolved : DiskState.resolveNonRaidDevices candidates paths = .ok found) (asked : path ∈ paths)
    (known : DiskState.candidateAt candidates path = some d) : d ∈ found := by
  obtain ⟨value, member, here⟩ := exists_value_of_findAll resolved asked
  rw [Option.some.inj (known.symm.trans (require_eq_ok.mp here))]
  exact member

theorem exists_resolved {candidates : List Disk}
    (each : ∀ path ∈ paths, ∃ d, DiskState.candidateAt candidates path = some d) :
    ∃ found, DiskState.resolveNonRaidDevices candidates paths = .ok found := by
  refine exists_findAll fun path asked => ?_
  obtain ⟨d, known⟩ := each path asked
  exact ⟨d, require_eq_ok.mpr known⟩

/-- The data disks and the parity disks are resolved one after the other. -/
theorem createNonRaidArray_eq_ok {accepted : Bool} {dataDisks parityDisks devices : List Text} :
    state.createNonRaidArray accepted dataDisks parityDisks = .ok devices ↔
      state.listing = .ok state.shown ∧ state.nonRaidReadable = true ∧ accepted = true ∧ ∃ found,
        DiskState.resolveNonRaidDevices (state.nonRaidOffer state.shown) (dataDisks ++ parityDisks) = .ok found ∧
        (∀ d ∈ found, d.path ∉ state.nonRaidRows) ∧ found.map Disk.path = devices := by
  simp only [DiskState.createNonRaidArray, DiskState.candidateNonRaidDevices, bind_eq_ok, pure_eq_ok, checkAll_eq_ok,
    ensure_eq_ok, forall_mem_map]
  constructor
  · rintro ⟨_, ⟨disks, listing, _, readable, rfl⟩, data, foundData, parity, foundParity, _, accepts, _, untaken, rfl⟩
    have listing := mapError_eq_ok.mp listing
    obtain rfl := shown_eq listing
    exact ⟨listing, readable, accepts, data ++ parity,
      findAll_append_eq_ok.mpr ⟨data, foundData, parity, foundParity, rfl⟩, untaken, rfl⟩
  · rintro ⟨listing, readable, accepts, found, resolved, untaken, rfl⟩
    obtain ⟨data, foundData, parity, foundParity, rfl⟩ := findAll_append_eq_ok.mp resolved
    exact ⟨_, ⟨state.shown, mapError_eq_ok.mpr listing, (), readable, rfl⟩, data, foundData, parity, foundParity, (),
      accepts, (), untaken, rfl⟩

theorem createNonRaidArray_harmless_iff (accepted : Bool) (dataDisks parityDisks : List Text) :
    Harmless state (.createNonRaidArray accepted dataDisks parityDisks) ↔
      Covered state (.createNonRaidArray accepted dataDisks parityDisks) := by
  have own : ∀ assignment, (DiskRequest.createNonRaidArray accepted dataDisks parityDisks).Owns assignment ↔
      assignment = .unassigned := fun _ => Iff.rfl
  rw [harmless_iff_plan]
  constructor
  · rintro free ⟨accepts, readable, offered⟩ path member d found
    obtain ⟨inListing, unassigned⟩ := mem_shown_of_nonRaidDisk found
    obtain ⟨disks, resolved⟩ := exists_resolved fun path asked => by
      obtain ⟨known, here, _⟩ := offered path asked
      exact ⟨known, here⟩
    have untaken : ∀ chosen ∈ disks, chosen.path ∉ state.nonRaidRows := by
      intro chosen inDisks
      obtain ⟨asked, inAsked, here⟩ := candidate_of_resolved resolved inDisks
      obtain ⟨again, knownAgain, untaken⟩ := offered asked inAsked
      rwa [Option.some.inj (here.symm.trans knownAgain)]
    have planned := createNonRaidArray_eq_ok.mpr
      ⟨exists_listing inListing, readable, accepts, disks, resolved, untaken, rfl⟩
    have chosen : d ∈ disks := resolved_of_candidate resolved member found
    exact (free_iff_of_disk own inListing unassigned rfl).mp (free _ planned d.path (mem_map_of_mem chosen))
  · intro covered devices planned device inDevices
    obtain ⟨_, readable, accepts, disks, resolved, untaken, rfl⟩ := createNonRaidArray_eq_ok.mp planned
    have offered : ∀ path ∈ dataDisks ++ parityDisks, state.NonRaidOffered path := by
      intro path asked
      obtain ⟨value, inDisks, here⟩ := exists_value_of_findAll resolved asked
      exact ⟨value, require_eq_ok.mp here, untaken value inDisks⟩
    obtain ⟨d, inDisks, rfl⟩ := mem_map.mp inDevices
    obtain ⟨path, member, found⟩ := candidate_of_resolved resolved inDisks
    obtain ⟨inListing, unassigned⟩ := mem_shown_of_nonRaidDisk found
    exact (free_iff_of_disk own inListing unassigned rfl).mpr
      (covered ⟨accepts, readable, offered⟩ path member d found)

end Checks

/-- A request wipes free disks only exactly when what it leaves open is in order. -/
theorem requests_spare_disks_iff (state : DiskState) (request : DiskRequest) :
    Harmless state request ↔ Covered state request := by
  cases request with
  | createArray accepted disks => exact createArray_harmless_iff accepted disks
  | createPool accepted vdevType dataDisks slogDisks l2arcDisks =>
    exact createPool_harmless_iff accepted vdevType dataDisks slogDisks l2arcDisks
  | addVdev accepted vdevType disks => exact addDisks_harmless_iff (fun _ => Iff.rfl) rfl
  | addSLOG accepted disks => exact addDisks_harmless_iff (fun _ => Iff.rfl) rfl
  | addL2ARC accepted disks => exact addDisks_harmless_iff (fun _ => Iff.rfl) rfl
  | replaceDisk accepted oldDisk newDisk => exact replaceDisk_harmless_iff accepted oldDisk newDisk
  | wipeDisk path => exact wipeDisk_harmless_iff path
  | wipeZFSMemberDisks paths => exact wipeZFSMemberDisks_harmless_iff paths
  | createFilesystemArray accepted paths => exact createFilesystemArray_harmless_iff accepted paths
  | createNonRaidArray accepted dataDisks parityDisks =>
    exact createNonRaidArray_harmless_iff accepted dataDisks parityDisks

def listedDisk (name : String) (assignment : Assignment) (inUse : Bool) : Disk :=
  ⟨name, devDir ++ name.toList, "disk", 0, "", "", "sata", false, "SSD", "", assignment, inUse⟩

def takenDisks : List Disk :=
  [listedDisk "sda" .zfsPool true, listedDisk "sdb" .unassigned true, listedDisk "sdc" .unassigned false,
    listedDisk "sdd" .unassigned false, listedDisk "sde" .unassigned false, listedDisk "sdf" .mdadm false]

def sddAlias : Text := "/dev/disk/by-id/ata-x1"

def takenState : DiskState where
  resolve path := some (if path = sddAlias then "/dev/sdd" else path)
  aliases := [sddAlias]
  listing := .ok takenDisks
  filesystemRows := ["/dev/sde"]
  filesystemReadable := true
  nonRaidRows := ["/dev/sdc", sddAlias]
  nonRaidReadable := true
  zpoolStatus := none
  listedOnce := by
    rintro disks ⟨⟩
    decide
  wholeOnce := by
    have distinct : ∀ first ∈ takenDisks, ∀ second ∈ takenDisks,
        normalizeDiskPath (fun path => some (if path = sddAlias then "/dev/sdd" else path)) first.path =
          normalizeDiskPath (fun path => some (if path = sddAlias then "/dev/sdd" else path)) second.path →
        first = second := by decide
    rintro disks ⟨⟩ first inFirst second inSecond path _ same other
    exact distinct first inFirst second inSecond (same.trans other.symm)

def allGoesWell : WipeOutcome := ⟨true, fun _ => false⟩

/-- Members, mounted disks, reserved disks and stale entries are wiped. -/
theorem taken_disks_are_wiped :
    (serve takenState (.addVdev true "raid9" ["/dev/sda"]) allGoesWell =
          (["/dev/sda".toList], .error (.invalidVdevType "raid9")) ∧
        takenState.Listed "/dev/sda".toList (listedDisk "sda" .zfsPool true)) ∧
      (wiped takenState (.createPool true "" ["/dev/sdb".toList] [] []) allGoesWell = ["/dev/sdb".toList] ∧
        takenState.Listed "/dev/sdb".toList (listedDisk "sdb" .unassigned true)) ∧
      (wiped takenState (.wipeDisk "/dev/sdc".toList) allGoesWell = ["/dev/sdc".toList] ∧
        takenState.Reserved "/dev/sdc".toList) ∧
      (wiped takenState (.wipeDisk "/dev/sdf".toList) allGoesWell = ["/dev/sdf".toList] ∧
        takenState.Listed "/dev/sdf".toList (listedDisk "sdf" .mdadm false)) ∧
      (wiped takenState (.createFilesystemArray true ["/dev/sdd".toList]) allGoesWell = [sddAlias] ∧
        takenState.Reserved sddAlias) ∧
      wiped takenState (.createNonRaidArray true ["/dev/sde".toList] []) allGoesWell = ["/dev/sde".toList] ∧
        takenState.Reserved "/dev/sde".toList := by
  refine ⟨⟨by decide, by decide, rfl⟩, ⟨by decide, by decide, rfl⟩, ⟨by decide, "/dev/sdc".toList, by decide, rfl⟩,
    ⟨by decide, by decide, rfl⟩, ⟨by decide, sddAlias, by decide, rfl⟩, by decide, "/dev/sde".toList, by decide, rfl⟩

end Tierd.Disks
