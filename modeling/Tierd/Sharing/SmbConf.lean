import Tierd.Data.Ini
import Tierd.Data.Dictionary
import Tierd.Backup.PoolForPath

namespace Tierd.Sharing

open Tierd.Data Tierd.Data.Paths
open Tierd.Backup (cleanPath)

structure Share where
  name : Text
  path : Text
  readOnly : Bool
  guestOK : Bool
  allowUsers : List Text
  comment : Text
deriving DecidableEq

structure Options where
  smoothFSVFS : Bool
  compatibilityMode : Bool
  interfaces : List Text
deriving DecidableEq

def yesNo (flag : Bool) : Text := if flag then "yes" else "no"

/-- An indented directive. -/
def directive (key : String) (value : Text) : Text := "   " ++ key.toList ++ " = " ++ value

def globalLines (hostname : Text) (opts : Options) : List Text :=
  ["# Auto-generated by tierd. Do not edit.".toList, "[global]".toList,
    directive "workgroup" "WORKGROUP".toList,
    directive "server string" hostname,
    directive "security" "user".toList,
    directive "map to guest" "Bad User".toList,
    directive "log file" "/var/log/samba/log.%m".toList,
    directive "max log size" "1000".toList,
    directive "server role" "standalone server".toList,
    directive "disable spoolss" "yes".toList,
    directive "load printers" "no".toList,
    directive "printing" "bsd".toList,
    directive "printcap name" "/dev/null".toList,
    directive "case sensitive" (if opts.compatibilityMode then "auto".toList else "yes".toList),
    directive "mangled names" (if opts.compatibilityMode then "illegal".toList else "no".toList),
    directive "preserve case" "yes".toList,
    directive "short preserve case" "yes".toList,
    directive "socket options" "TCP_NODELAY IPTOS_THROUGHPUT SO_RCVBUF=8388608 SO_SNDBUF=8388608".toList,
    directive "use sendfile" "yes".toList,
    directive "aio read size" "1".toList,
    directive "aio write size" "1".toList,
    directive "strict sync" "no".toList,
    directive "sync always" "no".toList,
    directive "read raw" "yes".toList,
    directive "write raw" "yes".toList,
    directive "large readwrite" "yes".toList] ++
  (if opts.smoothFSVFS then
    [directive "ea support" "yes".toList, directive "store dos attributes" "yes".toList,
      directive "unix extensions" "no".toList, directive "kernel oplocks" "no".toList]
  else []) ++
  [directive "server multi channel support" "yes".toList] ++
  (if opts.interfaces = [] then []
  else [directive "interfaces" ([' '].intercalate opts.interfaces), directive "bind interfaces only" "yes".toList]) ++
  [[]]

def shareLines (opts : Options) (share : Share) : List Text :=
  ['[' :: (share.name ++ [']'])] ++
  (if share.comment = [] then [] else [directive "comment" share.comment]) ++
  [directive "path" share.path, directive "read only" (yesNo share.readOnly)] ++
  (if share.guestOK then [directive "guest ok" "yes", directive "force user" "root"]
  else [directive "guest ok" "no"]) ++
  (if share.allowUsers = [] then [] else [directive "valid users" ([' '].intercalate share.allowUsers)]) ++
  (if opts.smoothFSVFS then
    [directive "ea support" "yes", directive "vfs objects" "smoothfs",
      directive "smoothfs:lease watcher" "no", directive "smoothfs:stable fileid" "no"]
  else []) ++
  [directive "create mask" "0664", directive "directory mask" "0775", []]

def generateConfigWithOptions (shares : List Share) (hostname : Text) (opts : Options) : Text :=
  Ini.spell (globalLines hostname opts ++ shares.flatMap (shareLines opts))

def shareMountPaths (shares : List Share) : List Text :=
  ((shares.map fun share => cleanPath (Text.trimSpace share.path)).filter fun path =>
    path.head? = some slash ∧ ' ' ∉ path ∧ '\t' ∉ path ∧ '\n' ∉ path).dedup.insertionSort (· ≤ ·)

def smbdMountDropInConfig (shares : List Share) : Text :=
  if shareMountPaths shares = [] then []
  else "# Auto-generated by tierd. Do not edit.\n[Unit]\nRequiresMountsFor=" ++
    [' '].intercalate (shareMountPaths shares) ++ ['\n']

/-- `strings.ToLower`, as far as ASCII words are concerned. -/
def lowerCase (c : Char) : Char := if c = '\u0130' then 'i' else if c = '\u212a' then 'k' else c.toLower

inductive ConfLine where
  | skipped
  /-- A line that opens a bracket; without the closing one the section stays. -/
  | heading (name : Option Text)
  | directive (key value : Text)
  | other
deriving DecidableEq

def readConfLine (raw : Text) : ConfLine :=
  let line := Text.trimSpace raw
  if line = [] ∨ line.head? = some '#' ∨ line.head? = some ';' then .skipped
  else if line.head? = some '[' then .heading ((Ini.cut line.tail ']').map fun parts => Text.trimSpace parts.1)
  else
    match Ini.cut line '=' with
    | some (key, value) => .directive (Text.trimSpace key) value
    | none => .other

def isGlobal (sectionName : Text) : Bool := sectionName.map Text.foldCase = "global"

structure PathScan where
  sectionName : Text
  paths : Dictionary Text

def scanPath (scan : PathScan) (raw : Text) : PathScan :=
  match readConfLine raw with
  | .heading (some name) => { scan with sectionName := name }
  | .directive key value =>
    if scan.sectionName = [] ∨ isGlobal scan.sectionName ∨ key.map Text.foldCase ≠ "path" then scan
    else { scan with paths := scan.paths.insert scan.sectionName (Text.trimSpace value) }
  | _ => scan

def sharePaths (config : Text) : Dictionary Text := ((Text.lines config).foldl scanPath ⟨[], ∅⟩).paths

def cleanConfigPath (path : Text) : Text := if Text.trimSpace path = [] then [] else cleanPath (Text.trimSpace path)

def sharesRequiringDisconnect (oldConfig newConfig : Text) : List Text :=
  ((sharePaths oldConfig).entries.filterMap fun entry =>
    if ((sharePaths newConfig).lookup entry.1).map cleanConfigPath = some (cleanConfigPath entry.2) then none
    else some entry.1).insertionSort (· ≤ ·)

structure BindingScan where
  sectionName : Text
  parts : List Text

def scanBinding (scan : BindingScan) (raw : Text) : BindingScan :=
  match readConfLine raw with
  | .heading (some name) => { scan with sectionName := name }
  | .directive key value =>
    let word := key.map lowerCase
    if isGlobal scan.sectionName ∧ (word = "interfaces" ∨ word = "bind interfaces only") then
      { scan with parts := scan.parts ++ [word ++ '=' :: [' '].intercalate (Text.fields value)] }
    else scan
  | _ => scan

def globalInterfaceBinding (config : Text) : Text :=
  [';'].intercalate (((Text.lines config).foldl scanBinding ⟨[], []⟩).parts.insertionSort (· ≤ ·))

theorem mem_sharesRequiringDisconnect {oldConfig newConfig share path : Text}
    (shared : (sharePaths oldConfig).lookup share = some path)
    (apart : ((sharePaths newConfig).lookup share).map cleanConfigPath ≠ some (cleanConfigPath path)) :
    share ∈ sharesRequiringDisconnect oldConfig newConfig := by
  rw [sharesRequiringDisconnect, List.mem_insertionSort]
  exact List.mem_filterMap.mpr ⟨⟨share, path⟩, AList.mem_lookup_iff.mp shared, if_neg apart⟩

end Tierd.Sharing
