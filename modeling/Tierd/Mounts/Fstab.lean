import Tierd.Data.Guards
import Tierd.Data.Lines

namespace Tierd.Mounts

open Tierd.Data

/-- The source is the first field, or the mount point the second. -/
def matchesEntry (source mountPoint line : Text) : Bool :=
  match Text.fields line with
  | first :: second :: _ => first = source || second = mountPoint
  | _ => false

def entryLine (source mountPoint fs : Text) : Text :=
  source ++ ' ' :: (mountPoint ++ ' ' :: (fs ++ ' ' :: "defaults,nofail 0 0"))

/-- `upsertFSTabEntry`; a file that cannot be read counts as one without entries. -/
def upsertFSTabEntry (source mountPoint entry text : Text) : Text :=
  match (Text.lines text).find? (matchesEntry source mountPoint) with
  | some line =>
    if line = entry then text
    else Lines.closed (Lines.join (Lines.replaceFirst (matchesEntry source mountPoint) entry (Text.lines text)))
  | none => text ++ entry ++ ['\n']

/-- The lines that are not dropped, written back. -/
def withoutLines (dropped : Text → Bool) (text : Text) : Text :=
  Lines.closed (Lines.join ((Text.lines text).filter (!dropped ·)))

inductive FstabError where
  | filesystem (fs : Text)
  | mountPoint
  | traversal
deriving DecidableEq

def FstabError.message : FstabError → String
  | .filesystem fs =>
    "unsupported filesystem " ++ (String.ofList fs).quote ++ ": must be xfs, ext4, btrfs, or bcachefs"
  | .mountPoint =>
    "mount point must be under /mnt/ and contain only alphanumeric, hyphen, underscore, or dot characters"
  | .traversal => "mount point must not contain .. path components"

namespace Lvm

def validateFilesystem (fs : Text) : Except FstabError Unit :=
  if fs ∈ ["xfs".toList, "ext4".toList, "btrfs".toList, "bcachefs".toList] then .ok () else .error (.filesystem fs)

/-- `[a-zA-Z0-9_-]`. -/
def isNameChar (c : Char) : Bool :=
  ('a' ≤ c && c ≤ 'z') || ('A' ≤ c && c ≤ 'Z') || ('0' ≤ c && c ≤ '9') || c = '_' || c = '-'

/-- `lvNameRe`. -/
def validateName (name : Text) : Bool := name ≠ [] && name.all isNameChar

/-- `mountPointRe`, part by part between the slashes. -/
def mountPointRe (mountPoint : Text) : Bool :=
  match mountPoint.splitOn '/' with
  | [] :: root :: first :: rest =>
    root = "mnt" && (first :: rest).all fun part => part ≠ [] && part.all fun c => isNameChar c || c = '.'
  | _ => false

def validateMountPoint (mountPoint : Text) : Except FstabError Unit :=
  if mountPointRe mountPoint = false then .error .mountPoint
  else if ['.', '.'] ∈ mountPoint.splitOn '/' then .error .traversal
  else .ok ()

def device (vg name : Text) : Text := "/dev/" ++ vg ++ '/' :: name

def ensureFSTabEntry (vg name mountPoint fs text : Text) : Except FstabError Text := do
  validateFilesystem fs
  validateMountPoint mountPoint
  return upsertFSTabEntry (device vg name) mountPoint (entryLine (device vg name) mountPoint fs) text

/-- Only the mount point is compared. -/
def removeFSTabEntry (vg name mountPoint text : Text) : Except FstabError Text := do
  validateMountPoint mountPoint
  return withoutLines (matchesEntry (device vg name) mountPoint) text

end Lvm

namespace FsArray

def ensureFSTabEntry (source mountPath kind text : Text) : Except FstabError Text :=
  .ok (upsertFSTabEntry source mountPath (entryLine source mountPath kind) text)

/-- Only the mount point is compared. -/
def removeFSTabEntry (mountPath text : Text) : Except FstabError Text :=
  .ok (withoutLines (fun line => (Text.fields line)[1]? = some mountPath) text)

end FsArray

def isComment (line : Text) : Bool := (Text.trimLeft line).head? = some '#'

def Mentions (source mountPoint line : Text) : Prop :=
  (Text.fields line)[0]? = some source ∨ (Text.fields line)[1]? = some mountPoint
deriving Decidable

def live (source mountPoint : Text) (lines : List Text) : List Text :=
  lines.filter fun line => isComment line = false ∧ Mentions source mountPoint line

def others (source mountPoint : Text) (lines : List Text) : List Text :=
  lines.filter fun line => ¬ Mentions source mountPoint line

def Kept (source mountPoint before after : Text) : Prop :=
  (others source mountPoint (Text.lines before)).Sublist (others source mountPoint (Text.lines after)) ∧
    (others source mountPoint (Text.lines after)).filter (· ≠ []) =
      (others source mountPoint (Text.lines before)).filter (· ≠ [])

structure Maintained (source mountPoint entry : Text) (ensure remove : Text → Except FstabError Text)
    (text after removed : Text) : Prop where
  ensured : ensure text = .ok after
  one : live source mountPoint (Text.lines after) = [entry]
  kept : Kept source mountPoint text after
  again : ensure after = .ok after
  removes : remove after = .ok removed
  none : ∀ line ∈ Text.lines removed, (Text.fields line)[1]? ≠ some mountPoint
  keptAgain : Kept source mountPoint after removed

def Maintains (source mountPoint entry : Text) (ensure remove : Text → Except FstabError Text) (text : Text) : Prop :=
  ∃ after removed, Maintained source mountPoint entry ensure remove text after removed

end Tierd.Mounts
