import Tierd.Data.Paths
import Tierd.Data.Rows

namespace Tierd.Smoothfs

open Tierd.Data

/-- `uuid.UUID`; `uuid.Nil` is zero. -/
abbrev UUID := BitVec 128

structure ManagedPool where
  mode : Text
  name : Text
  uuid : UUID
  tiers : List Text
  mountpoint : Text
  unitPath : Text
deriving DecidableEq

structure CreateManagedPoolRequest where
  mode : Text
  name : Text
  uuid : UUID
  tiers : List Text
  mountBase : Text
deriving DecidableEq

/-- The parts of the smoothfs client library and of the UUID package that creation calls.
They are not part of this repository, and nothing is assumed about them. -/
structure Client where
  normalizeStorageMode : Text → Nat → Except Text Text
  validatePoolName : Text → Except Text Unit
  validateTiers : List Text → Except Text Unit
  modeCache : Text
  validateCacheBackings : List Text → Except Text Unit
  defaultMountBase : Text
  mountpointForPool : Text → Text → Text
  systemdUnitDir : Text
  unitFilenameFor : Text → Text
  renderMountUnit : ManagedPool → Except Text Text
  parseUUID : Text → Except Text UUID

/-- `filepath.Base`. -/
def base (path : Text) : Text :=
  if path = [] then ['.'] else ((path.splitOn Paths.slash).filter (· ≠ [])).getLast?.getD [Paths.slash]

inductive StoreError where
  | duplicate
  | mode
  | fault (reason : Text)
deriving DecidableEq

def StoreError.message : StoreError → String
  | .duplicate => "duplicate"
  | .mode => "storage mode must be tier or cache"
  | .fault reason => String.ofList reason

inductive CreateError where
  | invalidBody
  | invalidUUID (reason : Text)
  | refused (reason : Text)
  | mkdir (mountpoint reason : Text)
  | write (unitPath reason : Text)
  | reload (output : Text)
  | enable (unitPath output : Text)
  | store (error : StoreError)
  | tierInstance (reason : Text)
  | sync (reason : Text)
  | syncNew (name reason : Text)
deriving DecidableEq

/-- The error of `runSystemctl`. -/
def systemctlError (arguments : String) (output : Text) : String :=
  "systemctl " ++ arguments ++ ": " ++ String.ofList (Text.trimSpace output)

def CreateError.message : CreateError → String
  | .invalidBody => "invalid request body"
  | .invalidUUID reason => "invalid uuid: " ++ String.ofList reason
  | .refused reason => String.ofList reason
  | .mkdir mountpoint reason => "mkdir mountpoint " ++ String.ofList mountpoint ++ ": " ++ String.ofList reason
  | .write unitPath reason => "write unit " ++ String.ofList unitPath ++ ": " ++ String.ofList reason
  | .reload output => "daemon-reload: " ++ systemctlError "daemon-reload" output
  | .enable unitPath output =>
    "enable --now " ++ String.ofList unitPath ++ ": " ++
      systemctlError ("enable --now " ++ String.ofList (base unitPath)) output
  | .store error => error.message
  | .tierInstance reason => String.ofList reason
  | .sync reason => String.ofList reason
  | .syncNew name reason =>
    "sync smoothfs admission threshold for " ++ String.ofList name ++ ": " ++ String.ofList reason

structure Host where
  unitFile : Text → Option Text
  enabled : Text → Bool

def Host.setFile (host : Host) (path : Text) (content : Option Text) : Host :=
  { host with unitFile := Function.update host.unitFile path content }

def Host.setEnabled (host : Host) (unit : Text) (value : Bool) : Host :=
  { host with enabled := Function.update host.enabled unit value }

/-- `left` is the content that a failed write leaves, if it got as far as opening the file,
which truncates it. -/
structure WriteFailure where
  reason : Text
  left : Option Text

/-- A `systemctl` command may fail after it changed whether the unit is enabled. -/
structure CommandFailure where
  output : Text
  applied : Bool

/-- How the steps of `destroyManagedPool` fail, each `none` when it succeeds. -/
structure DestroyOutcome where
  disable : Option CommandFailure
  remove : Option Text
  reload : Option Text

structure Outcome where
  tierInstance : Option Text
  newUUID : UUID
  mkdir : Option Text
  write : Option WriteFailure
  reload : Option Text
  enable : Option CommandFailure
  rollback : Option Text
  insert : Option Text
  destroy : DestroyOutcome
  lookup : Option Text
  sync : Option Text

namespace CreateManagedPoolRequest

variable (client : Client) (request : CreateManagedPoolRequest)

def mountpoint : Text :=
  client.mountpointForPool (if request.mountBase = [] then client.defaultMountBase else request.mountBase)
    request.name

def unitPath : Text :=
  Paths.clean (client.systemdUnitDir ++ Paths.slash :: client.unitFilenameFor (request.mountpoint client))

/-- The check of a pool in cache mode. -/
def checkBackings (mode : Text) : Except CreateError Unit :=
  if mode = client.modeCache then (client.validateCacheBackings request.tiers).mapError .refused else .ok ()

/-- `createManagedPool` up to its first effect. -/
def plan (newUUID : UUID) : Except CreateError ManagedPool := do
  let mode ← (client.normalizeStorageMode request.mode request.tiers.length).mapError .refused
  (client.validatePoolName request.name).mapError .refused
  (client.validateTiers request.tiers).mapError .refused
  request.checkBackings client mode
  return {
    mode := mode
    name := request.name
    uuid := if request.uuid = 0 then newUUID else request.uuid
    tiers := request.tiers
    mountpoint := request.mountpoint client
    unitPath := request.unitPath client }

end CreateManagedPoolRequest

/-- `os.Remove` of a unit file. -/
def Host.removeFile (host : Host) (path : Text) (failure : Option Text) : Host :=
  if failure.isSome then host else host.setFile path none

/-- `systemctl enable --now` and `systemctl disable --now`. -/
def Host.switch (host : Host) (unit : Text) (value : Bool) (failure : Option CommandFailure) : Host :=
  if failure.all CommandFailure.applied then host.setEnabled unit value else host

def createManagedPool (client : Client) (outcome : Outcome) (request : CreateManagedPoolRequest) (host : Host) :
    Host × Except CreateError ManagedPool :=
  match request.plan client outcome.newUUID with
  | .error error => (host, .error error)
  | .ok pool =>
    match outcome.mkdir with
    | some reason => (host, .error (.mkdir pool.mountpoint reason))
    | none =>
      match client.renderMountUnit pool with
      | .error reason => (host, .error (.refused reason))
      | .ok body =>
        match outcome.write with
        | some ⟨reason, none⟩ => (host, .error (.write pool.unitPath reason))
        | some ⟨reason, some left⟩ =>
          (host.setFile pool.unitPath (some left), .error (.write pool.unitPath reason))
        | none =>
          let written := host.setFile pool.unitPath (some body)
          match outcome.reload with
          | some output => (written.removeFile pool.unitPath outcome.rollback, .error (.reload output))
          | none =>
            let switched := written.switch (base pool.unitPath) true outcome.enable
            match outcome.enable with
            | some failure =>
              (switched.removeFile pool.unitPath outcome.rollback,
                .error (.enable pool.unitPath failure.output))
            | none => (switched, .ok pool)

/-- `destroyManagedPool` takes every step and returns the first error. -/
def destroyManagedPool (outcome : DestroyOutcome) (pool : ManagedPool) (host : Host) : Host × Option String :=
  let unit := base pool.unitPath
  ((host.switch unit false outcome.disable).removeFile pool.unitPath outcome.remove,
    (outcome.disable.map fun failure =>
      "disable --now: " ++ systemctlError ("disable --now " ++ String.ofList unit) failure.output) <|>
    (outcome.remove.map fun reason => "remove unit: " ++ String.ofList reason) <|>
    (outcome.reload.map fun output => "daemon-reload: " ++ systemctlError "daemon-reload" output))

inductive StorageMode where
  | tier
  | cache
deriving DecidableEq, Repr

/-- A row of `smoothfs_pools`.  `tiers` is the list joined by colons. -/
structure SmoothfsPool where
  mode : StorageMode
  uuid : UUID
  name : Text
  tiers : Text
  mountpoint : Text
  unitPath : Text
deriving DecidableEq

structure PoolTable where
  rows : List SmoothfsPool
  uuidOnce : (rows.map SmoothfsPool.uuid).Nodup
  nameOnce : (rows.map SmoothfsPool.name).Nodup

def normalizeStorageMode (mode : Text) : Except StoreError StorageMode :=
  if mode = [] then .ok .tier
  else if mode = "tier" then .ok .tier
  else if mode = "cache" then .ok .cache
  else .error .mode

/-- `isUniqueViolation` looks for the word in the text of the error. -/
def isUniqueViolation (reason : Text) : Bool := Text.contains (reason.map Char.toLower) "unique"

def ManagedPool.row (pool : ManagedPool) (mode : StorageMode) : SmoothfsPool where
  mode := mode
  uuid := pool.uuid
  name := pool.name
  tiers := [':'].intercalate pool.tiers
  mountpoint := pool.mountpoint
  unitPath := pool.unitPath

/-- No row has the UUID or the name. -/
def PoolTable.Fresh (table : PoolTable) (uuid : UUID) (name : Text) : Prop :=
  ∀ row ∈ table.rows, row.uuid ≠ uuid ∧ row.name ≠ name
deriving Decidable

def PoolTable.insert (table : PoolTable) (row : SmoothfsPool) (fresh : table.Fresh row.uuid row.name) :
    PoolTable where
  rows := table.rows ++ [row]
  uuidOnce := nodup_map_concat table.uuidOnce fun other member => (fresh other member).1
  nameOnce := nodup_map_concat table.nameOnce fun other member => (fresh other member).2

/-- `CreateSmoothfsPool`; `failure` is an error of the database other than a violated
constraint. -/
def createSmoothfsPool (table : PoolTable) (failure : Option Text) (pool : ManagedPool) :
    Except StoreError PoolTable := do
  let mode ← normalizeStorageMode pool.mode
  match failure with
  | some reason => .error (if isUniqueViolation reason then .duplicate else .fault reason)
  | none =>
    if fresh : table.Fresh pool.uuid pool.name then .ok (table.insert (pool.row mode) fresh)
    else .error .duplicate

/-- `tierModes` is the storage mode of the tier pools, by name. -/
structure System where
  table : PoolTable
  host : Host
  tierModes : Text → Option Text

/-- `createSmoothfsPoolRequest`, the body of a request. -/
structure CreateSmoothfsPoolRequest where
  mode : Text
  name : Text
  uuid : Text
  tiers : List Text
  mountBase : Text
deriving DecidableEq

/-- A request of an operator, with its body if it could be decoded, or a pool that is made
for a tier pool. -/
inductive CreateRequest where
  | create (body : Option CreateSmoothfsPoolRequest)
  | poolRow (poolName : Text) (poolUUID : UUID) (tiers : List Text)
deriving DecidableEq

section Create

variable (client : Client)

/-- The first part of `create`. -/
def decodeCreate : Option CreateSmoothfsPoolRequest → Except CreateError CreateManagedPoolRequest
  | none => .error .invalidBody
  | some body => do
      let uuid ← if body.uuid = [] then .ok 0 else (client.parseUUID body.uuid).mapError .invalidUUID
      return {
        mode := body.mode
        name := body.name
        uuid := uuid
        tiers := body.tiers
        mountBase := body.mountBase }

/-- The first part of `createManagedSmoothfsPoolRow`: a pool without a tier pool has mode
`tier`. -/
def requestForRow (tierModes : Text → Option Text) (poolName : Text) (poolUUID : UUID) (tiers : List Text) :
    CreateManagedPoolRequest where
  mode := (tierModes poolName).getD "tier"
  name := poolName
  uuid := poolUUID
  tiers := tiers
  mountBase := "/mnt"

variable (outcome : Outcome)

/-- `syncManagedSmoothfsAdmissionThreshold`: nothing to do for a pool without a row. -/
def syncManagedSmoothfsAdmissionThreshold (table : PoolTable) (poolName : Text) : Option Text :=
  match outcome.lookup with
  | some reason => some reason
  | none => if table.rows.any (·.name = poolName) then outcome.sync else none

/-- The handler of `POST /api/smoothfs/pools`. -/
def create (body : Option CreateSmoothfsPoolRequest) (system : System) : System × Except CreateError Unit :=
  match decodeCreate client body with
  | .error error => (system, .error error)
  | .ok request =>
    let (host, created) := createManagedPool client outcome request system.host
    match created with
    | .error error => ({ system with host := host }, .error error)
    | .ok pool =>
      match createSmoothfsPool system.table outcome.insert pool with
      | .error error =>
        ({ system with host := (destroyManagedPool outcome.destroy pool host).1 }, .error (.store error))
      | .ok table => ({ system with table := table, host := host }, .ok ())

def createManagedSmoothfsPoolRow (poolName : Text) (poolUUID : UUID) (tiers : List Text) (system : System) :
    System × Except CreateError Unit :=
  match outcome.tierInstance with
  | some reason => (system, .error (.tierInstance reason))
  | none =>
    let (host, created) :=
      createManagedPool client outcome (requestForRow system.tierModes poolName poolUUID tiers) system.host
    match created with
    | .error error => ({ system with host := host }, .error error)
    | .ok pool =>
      match createSmoothfsPool system.table outcome.insert pool with
      | .error .duplicate =>
        ({ system with host := host },
          match syncManagedSmoothfsAdmissionThreshold outcome system.table poolName with
          | some reason => .error (.sync reason)
          | none => .ok ())
      | .error error =>
        ({ system with host := (destroyManagedPool outcome.destroy pool host).1 }, .error (.store error))
      | .ok table =>
        ({ system with table := table, host := host },
          match syncManagedSmoothfsAdmissionThreshold outcome table poolName with
          | some reason => .error (.syncNew poolName reason)
          | none => .ok ())

/-- The system after a request, and its result. -/
def handle (system : System) : CreateRequest → System × Except CreateError Unit
  | .create body => create client outcome body system
  | .poolRow poolName poolUUID tiers => createManagedSmoothfsPoolRow client outcome poolName poolUUID tiers system

end Create

end Tierd.Smoothfs
