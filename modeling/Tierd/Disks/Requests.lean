import Tierd.Data.Guards
import Tierd.Disks.Listing

namespace Tierd.Disks

open Tierd.Data

/-- `^/dev/(sd[a-z]+|nvme\d+n\d+)$`. -/
def diskPathRegex (path : Text) : Bool :=
  if Text.startsWith path "/dev/sd" then
    path.drop 7 ≠ [] && (path.drop 7).all Char.isLower
  else if Text.startsWith path "/dev/nvme" then
    match (path.drop 9).dropWhile Char.isDigit with
    | 'n' :: rest => isDigits ((path.drop 9).takeWhile Char.isDigit) && isDigits rest
    | _ => false
  else false

/-- `isValidDiskPath` splits the rest of an NVMe name at its first `n`. -/
def isValidDiskPath (path : Text) : Bool :=
  if Text.startsWith path "/dev/sd" then
    path.drop 7 ≠ [] && (path.drop 7).all Char.isLower
  else if Text.startsWith path "/dev/nvme" then
    match (path.drop 9).dropWhile (· ≠ 'n') with
    | [] => false
    | _ :: rest => isDigits ((path.drop 9).takeWhile (· ≠ 'n')) && isDigits rest
  else false

/-- The texts `strconv.Atoi` accepts. -/
def atoiAccepts (text : Text) : Bool :=
  let digits := match text with
    | '+' :: rest => rest
    | '-' :: rest => rest
    | _ => text
  let value := digits.foldl (fun n c => n * 10 + (c.toNat - '0'.toNat)) 0
  isDigits digits && (value < 2 ^ 63 || (text.head? = some '-' && value = 2 ^ 63))

/-- `wholeDiskPath`, which keeps the first seven characters of other paths. -/
def wholeDiskPath (path : Text) : Text :=
  if Text.startsWith path "/dev/nvme" then
    let after := path.rtakeWhile (· ≠ 'p')
    if path.length > after.length + 10 && atoiAccepts after then path.rdrop (after.length + 1) else path
  else path.take (max 7 (path.rdropWhile Char.isDigit).length)

inductive DiskError where
  | invalidPath (path : Text)
  | listing (error : ListError)
  | notFound (path : Text)
  | alreadyAssigned (path : Text) (assignment : Assignment)
  | reserved (path : Text)
  | notUnassigned (path : Text) (assignment : Assignment)
  | cannotWipeOS
  | inUse (path : Text) (assignment : Assignment)
  | disksRequired
  | notZFSMember (path : Text)
  | liveMember (path : Text)
  | notAvailable (path : Text)
  | rowsUnreadable
  | deviceTaken (path : Text)
  | wipe (path : Text)
  | invalidVdevType (vdevType : String)
  | otherCheck
deriving DecidableEq

/-- The text of an error; those of the database and of checks that are not about disks
are shortened. -/
def DiskError.message : DiskError → String
  | .invalidPath path => "invalid disk path: " ++ String.ofList path
  | .listing error => "list disks: " ++ error.message
  | .notFound path => "disk " ++ String.ofList path ++ " not found"
  | .alreadyAssigned path assignment =>
    "disk " ++ String.ofList path ++ " is already assigned as " ++ assignment.text
  | .reserved path => "disk " ++ String.ofList path ++ " is already assigned"
  | .notUnassigned path assignment => "disk " ++ String.ofList path ++ " is not unassigned: " ++ assignment.text
  | .cannotWipeOS => "cannot wipe OS disk"
  | .inUse path assignment =>
    "disk " ++ String.ofList path ++ " is in use (" ++ assignment.text ++
      "); remove it from its pool or array first"
  | .disksRequired => "disks required"
  | .notZFSMember path => "disk " ++ String.ofList path ++ " is not a ZFS pool member"
  | .liveMember path =>
    "disk " ++ String.ofList path ++ " belongs to an imported ZFS pool or other live storage; " ++
      "destroy or export the pool before wiping it"
  | .notAvailable path => "disk " ++ String.ofList path ++ " is not available for nonRaid"
  | .rowsUnreadable => "list nonraid devices"
  | .deviceTaken path => "insert device " ++ String.ofList path
  | .wipe path => "wipe " ++ String.ofList path
  | .invalidVdevType vdevType => "invalid vdev type: " ++ vdevType
  | .otherCheck => "request refused"

/-- What the requests read: the listing, the links in `/dev/disk`, the device paths in the
tables of arrays, and the imported pools.  A whole disk is listed once. -/
structure DiskState where
  resolve : Text → Option Text
  aliases : List Text
  listing : Except ListError (List Disk)
  filesystemRows : List Text
  filesystemReadable : Bool
  nonRaidRows : List Text
  nonRaidReadable : Bool
  zpoolStatus : Option Text
  listedOnce : ∀ disks, listing = .ok disks → ∀ first ∈ disks, ∀ second ∈ disks,
    canonical resolve first.path = canonical resolve second.path → first = second
  wholeOnce : ∀ disks, listing = .ok disks → ∀ first ∈ disks, ∀ second ∈ disks, ∀ path,
    diskPathRegex path = true → normalizeDiskPath resolve first.path = normalizeDiskPath resolve path →
    normalizeDiskPath resolve second.path = normalizeDiskPath resolve path → first = second

/-- The entry a map built from the listing holds: the last one with the key. -/
def lastWhere (condition : Disk → Bool) (disks : List Disk) : Option Disk := (disks.filter condition).getLast?

def validateDiskPath (path : Text) : Except DiskError Unit :=
  ensure (diskPathRegex path = true) (.invalidPath path)

namespace DiskState

variable (state : DiskState)

def disks : Except DiskError (List Disk) := state.listing.mapError .listing

def requireUnassigned (paths : List Text) : Except DiskError Unit := do
  let disks ← state.disks
  checkAll
    (fun path =>
      match lastWhere
          (fun d => normalizeDiskPath state.resolve d.path = normalizeDiskPath state.resolve path) disks with
      | none => .error (.notFound path)
      | some d => ensure (d.assignment = .unassigned) (.alreadyAssigned path d.assignment))
    paths

/-- `PrepareDisks`, what it goes on to wipe. -/
def prepareDisks (disks : List Text) : Except DiskError (List Text) := do
  checkAll validateDiskPath disks
  state.requireUnassigned disks
  return disks

def createArray (accepted : Bool) (disks : List Text) : Except DiskError (List Text) := do
  ensure (accepted = true) .otherCheck
  checkAll validateDiskPath disks
  state.prepareDisks disks

def createPool (accepted : Bool) (dataDisks slogDisks l2arcDisks : List Text) : Except DiskError (List Text) := do
  ensure (accepted = true) .otherCheck
  checkAll validateDiskPath (dataDisks ++ slogDisks ++ l2arcDisks)
  state.requireUnassigned (dataDisks ++ slogDisks ++ l2arcDisks)
  return dataDisks ++ slogDisks ++ l2arcDisks

end DiskState

/-- Disks that join a pool: only the form of their paths is checked. -/
def addDisks (accepted : Bool) (disks : List Text) : Except DiskError (List Text) := do
  ensure (disks ≠ []) .disksRequired
  ensure (accepted = true) .otherCheck
  checkAll validateDiskPath disks
  return disks

def addVdev (accepted : Bool) (disks : List Text) : Except DiskError (List Text) := addDisks accepted disks

def addSLOG (accepted : Bool) (disks : List Text) : Except DiskError (List Text) := addDisks accepted disks

def addL2ARC (accepted : Bool) (disks : List Text) : Except DiskError (List Text) := addDisks accepted disks

def replaceDisk (accepted : Bool) (oldDisk newDisk : Text) : Except DiskError (List Text) := do
  ensure (newDisk ≠ []) .disksRequired
  ensure (accepted = true) .otherCheck
  validateDiskPath oldDisk
  validateDiskPath newDisk
  return [newDisk]

namespace DiskState

variable (state : DiskState)

def wipeDisk (path : Text) : Except DiskError (List Text) := do
  let disks ← state.disks
  match disks.find? fun d => d.path = path with
  | none => .error (.notFound path)
  | some d =>
    ensure (d.assignment ≠ .os) .cannotWipeOS
    ensure (d.inUse = false) (.inUse path d.assignment)
    ensure (isValidDiskPath path = true) (.invalidPath path)
    return [path]

/-- `activeZPoolMemberDisks`. -/
def isActiveMember (path : Text) : Bool :=
  (state.zpoolStatus.map zpoolPaths).getD [] |>.any fun member =>
    wholeDiskPath (canonical state.resolve member) = path

def wipeZFSMemberDisks (paths : List Text) : Except DiskError (List Text) := do
  ensure (paths ≠ []) .disksRequired
  let disks ← state.disks
  checkAll
    (fun path => do
      validateDiskPath path
      match lastWhere (fun d => d.path = path) disks with
      | none => .error (.notZFSMember path)
      | some d =>
        ensure (d.assignment = .zfsPool) (.notZFSMember path)
        ensure (d.inUse = false ∧ state.isActiveMember path = false) (.liveMember path))
    paths
  return paths

/-- `StableDevicePath`: the first alias of the device. -/
def stableDevicePath (path : Text) : Text :=
  match state.resolve path with
  | none => path
  | some target => (state.aliases.find? fun link => state.resolve link = some target).getD path

/-- The map of the listed disks under their own paths and those of their whole disks. -/
def byPath (disks : List Disk) (path : Text) : Option Disk :=
  lastWhere (fun d => d.path = path || baseDiskPath d.path = path) disks

/-- The rows that `resolveFilesystemArrayDevices` compares with; a table that cannot be
read counts as empty. -/
def readRows : List Text :=
  (if state.filesystemReadable then state.filesystemRows else []) ++
    if state.nonRaidReadable then state.nonRaidRows else []

/-- One round of the loop in `resolveFilesystemArrayDevices`. -/
def filesystemDevice (disks : List Disk) (path : Text) : Except DiskError Text := do
  validateDiskPath path
  ensure (baseDiskPath path ∉ state.readRows.map baseDiskPath) (.reserved path)
  let d ← require ((byPath disks path).or (byPath disks (baseDiskPath path))) (.notFound path)
  ensure (d.assignment = .unassigned) (.notUnassigned path d.assignment)
  return state.stableDevicePath d.path

def resolveFilesystemArrayDevices (paths : List Text) : Except DiskError (List Text) := do
  let disks ← state.disks
  findAll (state.filesystemDevice disks) paths

/-- `createFilesystemArray`; the rows are inserted, under a unique index on the path,
before anything is wiped. -/
def createFilesystemArray (accepted : Bool) (paths : List Text) : Except DiskError (List Text) := do
  ensure (paths ≠ []) .disksRequired
  let devices ← state.resolveFilesystemArrayDevices paths
  ensure (accepted = true) .otherCheck
  checkAll (fun device => ensure (device ∉ state.filesystemRows) (.deviceTaken device)) devices
  return devices

def nonRaidOffer (disks : List Disk) : List Disk :=
  disks.filter fun d => baseDiskPath d.path ∉ state.nonRaidRows.map baseDiskPath && d.assignment = .unassigned

/-- `candidateNonRaidDevices`, as the list of disks that are offered. -/
def candidateNonRaidDevices : Except DiskError (List Disk) := do
  let disks ← state.disks
  ensure (state.nonRaidReadable = true) .rowsUnreadable
  return state.nonRaidOffer disks

def candidateAt (candidates : List Disk) (path : Text) : Option Disk :=
  lastWhere (fun d => d.path = path || baseDiskPath d.path = path || devDir ++ d.name.toList = path) candidates

def resolveNonRaidDevices (candidates : List Disk) (paths : List Text) : Except DiskError (List Disk) :=
  findAll (fun path => require (candidateAt candidates path) (.notAvailable path)) paths

def createNonRaidArray (accepted : Bool) (dataDisks parityDisks : List Text) : Except DiskError (List Text) := do
  let candidates ← state.candidateNonRaidDevices
  let dataDevices ← resolveNonRaidDevices candidates dataDisks
  let parityDevices ← resolveNonRaidDevices candidates parityDisks
  ensure (accepted = true) .otherCheck
  let devices := (dataDevices ++ parityDevices).map Disk.path
  checkAll (fun device => ensure (device ∉ state.nonRaidRows) (.deviceTaken device)) devices
  return devices

end DiskState

/-- `accepted` says that the checks before the wipe which are not about disks pass: names,
levels, layouts. -/
inductive DiskRequest where
  | createArray (accepted : Bool) (disks : List Text)
  | createPool (accepted : Bool) (vdevType : String) (dataDisks slogDisks l2arcDisks : List Text)
  | addVdev (accepted : Bool) (vdevType : String) (disks : List Text)
  | addSLOG (accepted : Bool) (disks : List Text)
  | addL2ARC (accepted : Bool) (disks : List Text)
  | replaceDisk (accepted : Bool) (oldDisk newDisk : Text)
  | wipeDisk (path : Text)
  | wipeZFSMemberDisks (paths : List Text)
  | createFilesystemArray (accepted : Bool) (paths : List Text)
  | createNonRaidArray (accepted : Bool) (dataDisks parityDisks : List Text)
deriving DecidableEq

/-- The checks of a request before it wipes anything, and the devices it then wipes. -/
def DiskRequest.plan (state : DiskState) : DiskRequest → Except DiskError (List Text)
  | .createArray accepted disks => state.createArray accepted disks
  | .createPool accepted _ dataDisks slogDisks l2arcDisks =>
    state.createPool accepted dataDisks slogDisks l2arcDisks
  | .addVdev accepted _ disks => Disks.addVdev accepted disks
  | .addSLOG accepted disks => Disks.addSLOG accepted disks
  | .addL2ARC accepted disks => Disks.addL2ARC accepted disks
  | .replaceDisk accepted oldDisk newDisk => Disks.replaceDisk accepted oldDisk newDisk
  | .wipeDisk path => state.wipeDisk path
  | .wipeZFSMemberDisks paths => state.wipeZFSMemberDisks paths
  | .createFilesystemArray accepted paths => state.createFilesystemArray accepted paths
  | .createNonRaidArray accepted dataDisks parityDisks =>
    state.createNonRaidArray accepted dataDisks parityDisks

def validVdevTypes : List String :=
  ["mirror", "raidz", "raidz1", "raidz2", "raidz3", "draid1", "draid2", "draid3"]

def isValidVdevType (vdevType : String) : Bool :=
  validVdevTypes.any fun valid => valid.toList = vdevType.toList.map Char.toLower

def validateVdevType (vdevType : String) : Except DiskError Unit :=
  checkWhen (vdevType ≠ "") (ensure (isValidVdevType vdevType = true) (.invalidVdevType vdevType))

/-- The check of the vdev type, which comes after the disks are wiped. -/
def DiskRequest.lateCheck : DiskRequest → Except DiskError Unit
  | .createPool _ vdevType .. => validateVdevType (if vdevType = "stripe" then "" else vdevType)
  | .addVdev _ vdevType _ => validateVdevType vdevType
  | _ => .ok ()

/-- How the steps after the checks turn out. -/
structure WipeOutcome where
  proceeds : Bool
  wipeFails : Text → Bool

/-- `zapDisks` and its kin stop at the first device that cannot be wiped. -/
def zapDisks (fails : Text → Bool) : List Text → List Text
  | [] => []
  | device :: rest => device :: if fails device then [] else zapDisks fails rest

/-- The devices that a request wipes and what it answers, as far as disks decide it. -/
def serve (state : DiskState) (request : DiskRequest) (outcome : WipeOutcome) :
    List Text × Except DiskError Unit :=
  match request.plan state with
  | .error problem => ([], .error problem)
  | .ok devices =>
    if outcome.proceeds then
      (zapDisks outcome.wipeFails devices,
        match devices.find? outcome.wipeFails with
        | some device => .error (.wipe device)
        | none => request.lateCheck)
    else ([], .error .otherCheck)

/-- The devices a request starts to wipe. -/
def wiped (state : DiskState) (request : DiskRequest) (outcome : WipeOutcome) : List Text :=
  (serve state request outcome).1

end Tierd.Disks
