import Tierd.Data.Text

namespace Tierd.Disks

open Tierd.Data

/-- The commands that take a holder down.  Killing processes, unmounting and flushing are
left out. -/
inductive HolderCommand where
  | zpoolDestroy (pool : Text)
  | zpoolExport (pool : Text)
  | mdadmStop (device : Text)
  | vgDeactivate (group : Text)
  | pvRemove (device : Text)
deriving DecidableEq, Repr

def devDir : Text := "/dev/"

/-- The paths in the output of `lsblk -ln -o PATH`, each once. -/
def listedDevices (out : Text) : List Text :=
  (((Text.trimSpace out).splitOn '\n').map Text.trimSpace |>.filter (· ≠ [])).eraseDups

/-- `deviceTree`; `none` stands for a failing `lsblk`. -/
def deviceTree (path : Text) (lsblk : Option Text) : List Text :=
  match lsblk with
  | none => [path]
  | some out => if path ∈ listedDevices out then listedDevices out else path :: listedDevices out

theorem mem_deviceTree {path dev : Text} {lsblk : Option Text} :
    dev ∈ deviceTree path lsblk ↔ dev = path ∨ ∃ out ∈ lsblk, dev ∈ listedDevices out := by
  unfold deviceTree
  cases lsblk with
  | none => simp
  | some out =>
    simp only [Option.mem_def, Option.some.injEq, exists_eq_left']
    split_ifs with listed
    · constructor
      · exact .inr
      · rintro (rfl | member)
        · exact listed
        · exact member
    · exact List.mem_cons

/-- `arrayDevices` repeats `deviceTree` for arrays. -/
def arrayDevices (arrayPath : Text) (lsblk : Option Text) : List Text := deviceTree arrayPath lsblk

structure PoolReadings where
  zpoolList : Option Text
  zpoolStatus : Text → Option Text
  zpoolDestroyed : Text → Bool

/-- The loop over the pools.  `uses` is the test of a pool's status. -/
def destroyPools (readings : PoolReadings) (uses : Text → Text → Bool) : List HolderCommand :=
  match readings.zpoolList with
  | none => []
  | some pools =>
    (Text.fields pools).flatMap fun pool =>
      match readings.zpoolStatus pool with
      | none => []
      | some status =>
        if uses pool status then
          .zpoolDestroy pool :: if readings.zpoolDestroyed pool then [] else [.zpoolExport pool]
        else []

def zpoolStatusMentionsAny (status : Text) (devices : List Text) : Bool :=
  devices.any fun dev => dev ≠ [] && Text.contains status dev

def isMemberChar (c : Char) : Bool := c.isAlphanum || c = '_' || c = '.' || c = '/' || c = '-'

/-- The group of `mdMemberRE` in a token of `/proc/mdstat`: a name, and then a number in
brackets.  The name has no bracket in it, so it ends where its characters do. -/
def mdMember (token : Text) : Option Text :=
  let name := token.takeWhile isMemberChar
  match token.dropWhile isMemberChar with
  | '[' :: rest =>
    if name ≠ [] ∧ rest.takeWhile Char.isDigit ≠ [] ∧ (rest.dropWhile Char.isDigit).head? = some ']' then
      some name
    else none
  | _ => none

def mdLine (line : Text) : Option (Text × List Text) :=
  if Text.contains line " : " then
    match Text.fields line with
    | [] => none
    | name :: tokens => some (name, tokens)
  else none

def stopMDArraysUsing (path : Text) (mdstat lsblk : Option Text) : List HolderCommand :=
  match mdstat with
  | none => []
  | some out =>
    let devices := (deviceTree path lsblk).map (Text.trimPrefix · devDir)
    (Text.lines out).flatMap fun line =>
      match mdLine line with
      | none => []
      | some (mdName, tokens) =>
        if tokens.any fun token => (mdMember token).any (· ∈ devices) then [.mdadmStop (devDir ++ mdName)]
        else []

def deactivateLVMUsing (path : Text) (lsblk : Option Text) (pvs : Text → Option Text) : List HolderCommand :=
  (deviceTree path lsblk).flatMap fun dev =>
    match pvs dev with
    | none => []
    | some out => (Text.fields out).flatMap fun group => [.vgDeactivate group, .pvRemove dev]

/-- What one pass reads.  `lsblk` runs again for every pool and for every kind of holder;
`errors` are those of `wipefs`, `sgdisk` and `mdadm --zero-superblock`. -/
structure WipeReadings extends PoolReadings where
  poolTree : Text → Option Text
  mdstat : Option Text
  mdTree : Option Text
  pvs : Text → Option Text
  lvmTree : Option Text
  errors : List String

def destroyZPoolsUsing (path : Text) (readings : WipeReadings) : List HolderCommand :=
  destroyPools readings.toPoolReadings fun pool status =>
    zpoolStatusMentionsAny status (deviceTree path (readings.poolTree pool))

/-- Takes down the pools, arrays and volume groups on a device. -/
def releaseHoldersForWipe (path : Text) (readings : WipeReadings) : List HolderCommand :=
  destroyZPoolsUsing path readings ++ stopMDArraysUsing path readings.mdstat readings.mdTree ++
    deactivateLVMUsing path readings.lvmTree readings.pvs

/-- `WipeDevice`: a second pass only after errors. -/
def wipeDevice (path : Text) (first second : WipeReadings) : List HolderCommand :=
  releaseHoldersForWipe path first ++
    if first.errors = [] then [] else releaseHoldersForWipe path second

/-- What one attempt reads; `stopped` says whether `mdadm --stop` succeeds. -/
structure StopReadings extends PoolReadings where
  lsblk : Option Text
  pvs : Text → Option Text
  stopped : Bool

/-- `^/dev/md\d+$`. -/
def validateArrayPath (path : Text) : Bool :=
  match Text.startsWith path "/dev/md", path.drop 7 with
  | true, digit :: digits => (digit :: digits).all Char.isDigit
  | _, _ => false

def releaseArrayHolders (arrayPath : Text) (readings : StopReadings) : List HolderCommand :=
  destroyPools readings.toPoolReadings (fun _ status => Text.contains status arrayPath) ++
    (arrayDevices arrayPath readings.lsblk).flatMap fun dev =>
      match readings.pvs dev with
      | none => []
      | some out =>
        let group := Text.trimSpace out
        if group ≠ [] then [.vgDeactivate group, .pvRemove dev] else []

def stopAttempts (arrayPath : Text) : List StopReadings → List HolderCommand
  | [] => []
  | attempt :: rest =>
    releaseArrayHolders arrayPath attempt ++
      .mdadmStop arrayPath :: if attempt.stopped then [] else stopAttempts arrayPath rest

def stop (arrayPath : Text) (first second third : StopReadings) : List HolderCommand :=
  if validateArrayPath arrayPath then stopAttempts arrayPath [first, second, third] else []

end Tierd.Disks
