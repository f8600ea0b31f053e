import Tierd.Backup.DeleteGuard

namespace Tierd.Backup.Drive

open Tierd.Data

inductive TargetType where
  | nfs | smb | gdrive | unset | other
deriving DecidableEq

/-- What a request and a row have in common. A direction or method is `none` where the text is none
of the known ones. -/
structure Settings where
  name : Text
  targetType : TargetType
  host : Text
  share : Text
  smbUser : Text
  smbPass : Text
  sshUser : Text
  sshPass : Text
  localPath : Text
  remotePath : Text
  direction : Option Direction
  method : Option Method
  parallelism : Int
  useSSH : Bool
  compress : Bool
  deleteMode : Bool
  scheduleEnabled : Bool
  scheduleTime : Text
  scheduleDays : Int
  googleAccountID : Option Nat
  excludes : Text
  encrypt : Bool
deriving DecidableEq

structure CreateBackupConfigRequest extends Settings where
  recoverySession : Text
  recoveryConfirmed : Bool
deriving DecidableEq

structure BackupConfig extends Settings where
  id : Nat
  cryptPassword : Text
  cryptSalt : Text
deriving DecidableEq

structure Kit where
  account : Nat
  remotePath : Text
  password : Text
  salt : Text
deriving DecidableEq

/-- A kit waits in memory and is used up by the request that saves its job. -/
structure RecoverySession where
  kit : Kit
  expires : Nat
  serial : Nat
deriving DecidableEq

/-- Requests that touch configurations hold one mutex, so each is a step. -/
structure Handler where
  accounts : List Nat
  configs : List BackupConfig
  runs : List RunRow
  nextConfig : Nat
  nextRun : Nat
  recovery : List (Text × RecoverySession)
  /-- History: the kits in the order of the responses that carried them. -/
  handedOut : List Kit
  /-- History: jobs that were saved with the acknowledgement of a kit, and the place of the kit in `handedOut`. -/
  confirmed : List (Nat × Nat)
deriving DecidableEq

def twoDigits (tens units : Char) : Option Nat :=
  if tens.isDigit ∧ units.isDigit then some (10 * (tens.toNat - 48) + (units.toNat - 48)) else none

/-- `schedule.Valid`. -/
def validSchedule (clock : Text) (days : Int) : Bool :=
  match clock with
  | [h, h', ':', m, m'] =>
    (twoDigits h h').any (· < 24) && (twoDigits m m').any (· < 60) && decide (0 < days ∧ days ≤ 127)
  | _ => false

def validDrivePath (path : Text) : Bool :=
  path ≠ [] && path.head? ≠ some '/' && path.all (· ∉ ['\r', '\n', '\x00', '\x5c', ':']) &&
    (path.splitOn '/').all (· ∉ ["".toList, ".".toList, "..".toList])

/-- Size in bytes. -/
def byteLength (text : Text) : Nat := (text.map Char.utf8Size).sum

def validateDriveConfig (req : Settings) : Except String Unit := do
  ensure (req.targetType = .gdrive ∧ req.googleAccountID ≠ none) "Google Drive requires a Google account"
  ensure (validDrivePath req.remotePath = true) "Drive folder must be a nonempty relative path"
  ensure (req.localPath.head? = some '/') "local_path must be absolute"
  ensure (req.direction ≠ none) "direction must be push or pull"
  ensure (¬ (req.direction = some .pull ∧ req.deleteMode = true)) "Drive restores never delete local files"
  ensure ('\x00' ∉ req.excludes ∧ byteLength req.excludes ≤ 65536) "invalid excludes"

/-- Over ssh nothing is mounted. -/
def Settings.needsMount (req : Settings) : Prop :=
  req.method = some .cp ∨ (req.method = some .rsync ∧ req.useSSH = false)
deriving Decidable

def validateMountConfig (req : Settings) : Except String Unit := do
  ensure (req.encrypt = false ∧ req.googleAccountID = none) "Google account and encryption require Google Drive"
  ensure (req.method = some .cp ∨ req.method = some .rsync) "method must be 'cp' or 'rsync'"
  ensure (req.needsMount → req.targetType = .nfs ∨ req.targetType = .smb)
    "target_type must be 'nfs' or 'smb' when using a mount transport"
  ensure (Text.trimSpace req.host ≠ []) "host is required"
  ensure (Text.trimSpace req.share ≠ []) "share is required"
  ensure (Text.trimSpace req.localPath ≠ []) "local_path is required"
  ensure (req.direction ≠ none) "direction must be 'push' or 'pull'"
  ensure (¬ (req.needsMount ∧ req.targetType = .smb ∧ req.smbUser = [])) "smb_user is required for SMB targets"

def validateBackupConfig (req : Settings) : Except String Unit := do
  ensure (Text.trimSpace req.name ≠ []) "name is required"
  ensure (req.scheduleEnabled = true → validSchedule req.scheduleTime req.scheduleDays = true)
    "schedule requires HH:MM and weekdays between 1 and 127"
  if req.method = some .rclone then validateDriveConfig req else validateMountConfig req

def CreateBackupConfigRequest.trimmed (req : CreateBackupConfigRequest) : CreateBackupConfigRequest :=
  { req with
    host := Text.trimSpace req.host
    share := Text.trimSpace req.share
    localPath := Text.trimSpace req.localPath
    remotePath := Text.trimSpace req.remotePath
    name := Text.trimSpace req.name
    scheduleDays := if req.scheduleEnabled = false ∧ req.scheduleDays = 0 then 127 else req.scheduleDays }

def defaultBackupParallelism : Int := 4

def effectiveCompress (req : Settings) : Bool := req.compress && req.method = some .rsync && req.useSSH

def effectiveDeleteMode (req : Settings) : Bool :=
  req.deleteMode && (req.method = some .rsync || req.method = some .rclone)

def effectiveParallelism (requested : Int) : Int :=
  if requested < 1 then defaultBackupParallelism else if 16 < requested then 16 else requested

def effectiveTargetType (req : Settings) : TargetType :=
  if req.method = some .rsync ∧ req.useSSH = true ∧ req.targetType = .unset then .nfs else req.targetType

/-- The columns as a request sets them. -/
def Settings.columns (req : Settings) : Settings :=
  { req with
    targetType := effectiveTargetType req
    parallelism := effectiveParallelism req.parallelism
    compress := effectiveCompress req
    deleteMode := effectiveDeleteMode req }

/-- The `CHECK` constraints of the table. -/
def Settings.Admissible (columns : Settings) : Prop :=
  columns.targetType ∈ [.nfs, .smb, .gdrive] ∧ columns.direction ≠ none ∧ columns.method ≠ none
deriving Decidable

def Handler.HasRun (handler : Handler) (id : Nat) : Prop := ∃ row ∈ handler.runs, row.configID = id
deriving Decidable

/-- A run of the configuration is marked as running. -/
def Handler.Active (handler : Handler) (id : Nat) : Prop :=
  ∃ row ∈ handler.runs, row.configID = id ∧ row.running = true
deriving Decidable

def Handler.getBackupConfig (handler : Handler) (id : Nat) : Option BackupConfig :=
  handler.configs.find? fun cfg => cfg.id = id

def Handler.checkRow (handler : Handler) (id : Option Nat) (columns : Settings) : Except String Unit := do
  ensure columns.Admissible "internal server error: CHECK constraint failed"
  ensure (∀ cfg ∈ handler.configs, cfg.name = columns.name → some cfg.id = id)
    "a backup config with that name already exists"
  ensure (∀ account ∈ columns.googleAccountID, account ∈ handler.accounts)
    "internal server error: FOREIGN KEY constraint failed"

structure Keys where
  password : Text
  salt : Text
  kit : Option Nat
deriving DecidableEq

def Keys.none : Keys := ⟨[], [], Option.none⟩

/-- The part for a job that begins to encrypt. -/
def Handler.confirmedKit (handler : Handler) (now : Nat) (req : CreateBackupConfigRequest) (account : Nat) :
    Except String Keys :=
  match handler.recovery.lookup req.recoverySession with
  | none => .error "download and acknowledge the recovery kit before saving"
  | some session =>
    if session.expires < now ∨ session.kit.account ≠ account ∨ session.kit.remotePath ≠ req.remotePath ∨
        req.recoveryConfirmed = false then
      .error "download and acknowledge the recovery kit before saving"
    else .ok ⟨session.kit.password, session.kit.salt, some session.serial⟩

/-- The part for a job on Google Drive. -/
def Handler.accountFields (handler : Handler) (now : Nat) (req : CreateBackupConfigRequest) (old : Option BackupConfig)
    (account : Nat) : Except String Keys := do
  ensure (account ∈ handler.accounts) "Google account not found"
  ensure (∀ cfg ∈ old, handler.HasRun cfg.id → req.encrypt = cfg.encrypt) "encryption cannot change after the first run"
  if req.encrypt = false then .ok Keys.none
  else
    match old.filter (·.encrypt) with
    | some cfg => do
        ensure (cfg.googleAccountID = some account ∧ cfg.remotePath = req.remotePath)
          "encrypted jobs keep the account and folder recorded in their recovery kit; create a new job for another destination"
        .ok ⟨cfg.cryptPassword, cfg.cryptSalt, none⟩
    | none => handler.confirmedKit now req account

def Handler.driveFields (handler : Handler) (now : Nat) (req : CreateBackupConfigRequest) (old : Option BackupConfig) :
    Except String Keys :=
  if req.method ≠ some .rclone then do
    ensure (∀ cfg ∈ old, cfg.encrypt = false) "encrypted Drive jobs cannot change method"
    .ok Keys.none
  else
    match req.googleAccountID with
    | none => .error "Google account is required"
    | some account => handler.accountFields now req old account

def Handler.consumeRecovery (handler : Handler) (id : Text) : Handler :=
  { handler with recovery := handler.recovery.filter fun entry => entry.1 ≠ id }

/-- History: the job was saved with the kit. -/
def Handler.noteKit (handler : Handler) (id : Nat) (keys : Keys) : Handler :=
  { handler with confirmed := handler.confirmed ++ (keys.kit.map fun serial => (id, serial)).toList }

def Handler.createConfig (handler : Handler) (now : Nat) (body : CreateBackupConfigRequest) :
    Except String Handler := do
  let req := body.trimmed
  validateBackupConfig req.toSettings
  let keys ← handler.driveFields now req none
  handler.checkRow none req.columns
  let row : BackupConfig := ⟨req.columns, handler.nextConfig, keys.password, keys.salt⟩
  let saved := { handler with configs := handler.configs ++ [row], nextConfig := handler.nextConfig + 1 }
  .ok ((saved.noteKit row.id keys).consumeRecovery req.recoverySession)

/-- The columns of an update: an empty password keeps the one that is stored. -/
def CreateBackupConfigRequest.columnsOver (req : CreateBackupConfigRequest) (old : BackupConfig) : Settings :=
  { req.columns with
    smbPass := if req.smbPass = [] then old.smbPass else req.smbPass
    sshPass := if req.sshPass = [] then old.sshPass else req.sshPass }

def Handler.updateConfig (handler : Handler) (id now : Nat) (body : CreateBackupConfigRequest) :
    Except String Handler := do
  let req := body.trimmed
  validateBackupConfig req.toSettings
  let old ← require (handler.getBackupConfig id) "backup config not found"
  ensure (¬ handler.Active id) "Cannot edit a running backup"
  let keys ← handler.driveFields now req (some old)
  handler.checkRow (some id) (req.columnsOver old)
  let row : BackupConfig := ⟨req.columnsOver old, id, keys.password, keys.salt⟩
  let saved := { handler with configs := changeRow BackupConfig.id id (fun _ => row) handler.configs }
  .ok ((saved.noteKit id keys).consumeRecovery req.recoverySession)

/-- The rows of its runs go with the configuration. -/
def Handler.deleteConfig (handler : Handler) (id : Nat) : Except String Handler := do
  ensure (¬ handler.Active id) "Cannot delete a running backup"
  let _ ← require (handler.getBackupConfig id) "backup config not found"
  .ok { handler with
    configs := handler.configs.filter fun cfg => cfg.id ≠ id
    runs := handler.runs.filter fun row => row.configID ≠ id }

def Handler.createBackupRun (handler : Handler) (id : Nat) : Except String Handler := do
  ensure (¬ handler.Active id) "Backup is already running"
  .ok { handler with
    runs := handler.runs ++ [⟨handler.nextRun, id, true⟩]
    nextRun := handler.nextRun + 1 }

/-- A run by request or on schedule; `guard` is what the guard of delete mode says. -/
def Handler.runBackup (handler : Handler) (id : Nat) (draining : Bool) (guard : Except String Unit) :
    Except String Handler := do
  ensure (draining = false) "backup service is shutting down; try again after restart"
  let _ ← require (handler.getBackupConfig id) "backup config not found"
  guard
  handler.createBackupRun id

/-- Half an hour, in seconds. -/
def kitLifetime : Nat := 30 * 60

def Handler.dropExpired (handler : Handler) (now : Nat) : Handler :=
  { handler with recovery := handler.recovery.filter fun entry => ¬ entry.2.expires < now }

def Handler.handOut (handler : Handler) (now : Nat) (session : Text) (kit : Kit) : Handler :=
  { handler with
    recovery := (session, ⟨kit, now + kitLifetime, handler.handedOut.length⟩) ::
      handler.recovery.filter fun entry => entry.1 ≠ session
    handedOut := handler.handedOut ++ [kit] }

def Handler.newKit (handler : Handler) (req : CreateBackupConfigRequest) (keys : Option (Text × Text)) :
    Except String Kit := do
  let remotePath := Text.trimSpace req.remotePath
  let account ← require (req.googleAccountID.filter fun _ => validDrivePath remotePath)
    "Google account and a relative Drive folder are required"
  ensure (account ∈ handler.accounts) "Google account not found"
  let (password, salt) ← require keys "internal server error: no keys"
  .ok ⟨account, remotePath, password, salt⟩

def Handler.prepareRecovery (handler : Handler) (now : Nat) (req : CreateBackupConfigRequest) (session : Text)
    (keys : Option (Text × Text)) : Handler × Except String Kit :=
  match handler.newKit req keys with
  | .error reason => (handler, .error reason)
  | .ok kit =>
    if 64 ≤ (handler.dropExpired now).recovery.length then
      (handler.dropExpired now, .error "Too many recovery preparations; try again later")
    else ((handler.dropExpired now).handOut now session kit, .ok kit)

inductive Event where
  | prepareRecovery (now : Nat) (req : CreateBackupConfigRequest) (session : Text) (keys : Option (Text × Text))
  | createConfig (now : Nat) (req : CreateBackupConfigRequest)
  | updateConfig (id now : Nat) (req : CreateBackupConfigRequest)
  | deleteConfig (id : Nat)
  | runBackup (id : Nat) (draining : Bool) (guard : Except String Unit)
  | finishRun (runID : Nat)
  | restart

/-- A refused request leaves the handler alone. -/
def Handler.after (handler : Handler) (outcome : Except String Handler) : Handler := outcome.toOption.getD handler

def Handler.step (handler : Handler) : Event → Handler
  | .prepareRecovery now req session keys => (handler.prepareRecovery now req session keys).1
  | .createConfig now req => handler.after (handler.createConfig now req)
  | .updateConfig id now req => handler.after (handler.updateConfig id now req)
  | .deleteConfig id => handler.after (handler.deleteConfig id)
  | .runBackup id draining guard => handler.after (handler.runBackup id draining guard)
  | .finishRun runID =>
    { handler with runs := changeRow RunRow.id runID (fun row => { row with running := false }) handler.runs }
  | .restart => { handler with recovery := [] }

def Handler.initial (accounts : List Nat) : Handler := ⟨accounts, [], [], 1, 1, [], [], []⟩

end Tierd.Backup.Drive
