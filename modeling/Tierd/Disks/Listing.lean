import Tierd.Disks.Holders

namespace Tierd.Disks

open Tierd.Data

/-- One node of the output of `lsblk`. -/
structure BlockNode where
  name : String
  path : Text
  type : String
  size : String
  model : String
  serial : String
  tran : String
  rota : Bool
  mountpoint : String
  fstype : String
deriving DecidableEq, Repr

inductive LsblkDevice where
  | mk (node : BlockNode) (children : List LsblkDevice)

namespace LsblkDevice

def node : LsblkDevice → BlockNode
  | .mk node _ => node

def children : LsblkDevice → List LsblkDevice
  | .mk _ children => children

/-- The device and what is directly on it. -/
def top (dev : LsblkDevice) : List BlockNode := dev.node :: dev.children.map node

mutual

/-- All nodes of the tree. -/
def nodes : LsblkDevice → List BlockNode
  | .mk node children => node :: nodesBelow children

def nodesBelow : List LsblkDevice → List BlockNode
  | [] => []
  | child :: rest => child.nodes ++ nodesBelow rest

end

end LsblkDevice

inductive Assignment where
  | unassigned
  | os
  | mdadm
  | zfsPool
  | lvm
  | btrfsArray
  | bcachefsArray
deriving DecidableEq, Repr

def Assignment.text : Assignment → String
  | .unassigned => "unassigned"
  | .os => "os"
  | .mdadm => "mdadm"
  | .zfsPool => "zfs-pool"
  | .lvm => "lvm"
  | .btrfsArray => "btrfs-array"
  | .bcachefsArray => "bcachefs-array"

structure Disk where
  name : String
  path : Text
  type : String
  size : UInt64
  model : String
  serial : String
  transport : String
  rotational : Bool
  driveType : String
  mountpoint : String
  assignment : Assignment
  inUse : Bool
deriving DecidableEq

def isDigits (text : Text) : Bool := text ≠ [] && text.all Char.isDigit

/-- `BaseDiskPath`.  `after` is what follows the last `p`. -/
def baseDiskPath (path : Text) : Text :=
  if Text.startsWith path "/dev/nvme" then
    let after := path.rtakeWhile (· ≠ 'p')
    if path.length > after.length + 10 && isDigits after then path.rdrop (after.length + 1) else path
  else path.rdropWhile Char.isDigit

section Resolve

variable (resolve : Text → Option Text)

/-- What a path stands for. -/
def canonical (path : Text) : Text := (resolve path).getD path

/-- Links are resolved and the number of the partition is cut off. -/
def normalizeDiskPath (path : Text) : Text := baseDiskPath (canonical resolve path)

/-- The map from base paths to labels. -/
abbrev Assigned := Text → Option Assignment

/-- The paths at the start of the lines of `zpool status -P`. -/
def zpoolPaths (status : Text) : List Text :=
  (Text.lines status).filterMap fun line =>
    (Text.fields line).head?.filter fun first => Text.startsWith first devDir

def mergeAssignedZPoolMembers (result : Assigned) (status : Text) : Assigned :=
  (zpoolPaths status).foldl
    (fun result path => Function.update result (normalizeDiskPath resolve path) (some .zfsPool)) result

/-- The kinds of disks the parser of `/proc/mdstat` knows. -/
def isKnownKind (name : Text) : Bool :=
  Text.startsWith name "sd" || Text.startsWith name "nvme" || Text.startsWith name "hd"

/-- The name before a bracket. -/
def mdadmName (token : Text) : Option Text :=
  let name := token.takeWhile (· ≠ '[')
  if name ≠ token ∧ name ≠ [] ∧ isKnownKind name then some name else none

def mdadmNames (mdstat : Text) : List Text :=
  ((Text.lines mdstat).filter fun line => Text.contains line " : ").flatMap fun line =>
    (Text.fields line).filterMap mdadmName

def mergeAssignedMDADMMembers (result : Assigned) (mdstat : Text) : Assigned :=
  (mdadmNames mdstat).foldl
    (fun result name => Function.update result (normalizeDiskPath resolve (devDir ++ name)) (some .mdadm)) result

def pvPaths (pvs : Text) : List Text :=
  (Text.lines pvs).filterMap fun line =>
    match Text.fields line with
    | pv :: _ :: _ => if Text.startsWith pv devDir then some pv else none
    | _ => none

def skippedPV (path : Text) : Bool :=
  Text.startsWith path "/dev/md" || Text.startsWith path "/dev/dm-"

def mergeAssignedLVMMembers (result : Assigned) (pvs : Text) : Assigned :=
  (pvPaths pvs).foldl
    (fun result pv =>
      let path := normalizeDiskPath resolve pv
      if skippedPV path then result
      else if (result path).isSome then result
      else Function.update result path (some .lvm))
    result

/-- What the three commands print, `none` for one that fails. -/
structure MemberTexts where
  zpoolStatus : Option Text
  mdstat : Option Text
  pvs : Option Text

def merged (merge : Assigned → Text → Assigned) (result : Assigned) : Option Text → Assigned
  | none => result
  | some text => merge result text

def assignedDisks (texts : MemberTexts) : Assigned :=
  merged (mergeAssignedLVMMembers resolve)
    (merged (mergeAssignedMDADMMembers resolve)
      (merged (mergeAssignedZPoolMembers resolve) (fun _ => none) texts.zpoolStatus) texts.mdstat) texts.pvs

end Resolve

def osMounts : List String := ["/", "/boot", "/boot/efi", "/home"]

def isOSDisk (dev : LsblkDevice) : Bool := dev.top.any fun node => osMounts.contains node.mountpoint

def findMountpoint (dev : LsblkDevice) : String :=
  ((dev.top.map BlockNode.mountpoint).find? (· ≠ "")).getD ""

/-- The label of a signature. -/
def signature (fstype : String) : Option Assignment :=
  if fstype = "linux_raid_member" then some .mdadm
  else if fstype = "zfs_member" then some .zfsPool
  else if fstype = "LVM2_member" then some .lvm
  else if fstype = "btrfs" then some .btrfsArray
  else if fstype = "bcachefs" then some .bcachefsArray
  else none

mutual

def assignmentFromFSType : LsblkDevice → Option Assignment
  | .mk node children => (signature node.fstype).or (assignmentBelow children)

/-- The first label of the children. -/
def assignmentBelow : List LsblkDevice → Option Assignment
  | [] => none
  | child :: rest => (assignmentFromFSType child).or (assignmentBelow rest)

end

def assignmentForDevice (dev : LsblkDevice) (diskPath : Text) (assigned : Assigned) : Assignment :=
  if isOSDisk dev then .os
  else ((assigned diskPath).or (assignmentFromFSType dev)).getD .unassigned

def parseSize (text : String) : UInt64 :=
  text.toList.foldl
    (fun n c => if c.isDigit then n * 10 + UInt64.ofNat (c.toNat - '0'.toNat) else n) 0

def classifyDrive (node : BlockNode) : String :=
  if node.tran = "nvme" then "NVMe" else if node.rota then "HDD" else "SSD"

def describe (resolve : Text → Option Text) (assigned : Assigned) (dev : LsblkDevice) : Disk :=
  let diskPath := normalizeDiskPath resolve dev.node.path
  let assignment := assignmentForDevice dev diskPath assigned
  let mountpoint := findMountpoint dev
  { name := dev.node.name
    path := dev.node.path
    type := dev.node.type
    size := parseSize dev.node.size
    model := trimSpace dev.node.model
    serial := trimSpace dev.node.serial
    transport := dev.node.tran
    rotational := dev.node.rota
    driveType := classifyDrive dev.node
    mountpoint
    assignment
    inUse := (assigned diskPath).isSome || mountpoint ≠ "" || assignment = .os }

inductive ListError where
  | lsblk (reason : String)
  | parse (reason : String)
deriving DecidableEq, Repr

def ListError.message : ListError → String
  | .lsblk reason => "lsblk: " ++ reason
  | .parse reason => "parse lsblk: " ++ reason

/-- `List`; `lsblk` is the parsed output. -/
def list (resolve : Text → Option Text) (lsblk : Except ListError (List LsblkDevice)) (texts : MemberTexts) :
    Except ListError (List Disk) :=
  lsblk.map fun devices =>
    (devices.filter fun dev => dev.node.type = "disk").map (describe resolve (assignedDisks resolve texts))

end Tierd.Disks
