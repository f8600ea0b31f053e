import Tierd.Data.Runs
import Tierd.Smoothfs.Units
import Tierd.Tiers.Database

namespace Tierd.Smoothfs

open Tierd.Data Tiers

structure Slot where
  name : Text
  state : TierSlotState

/-- What a run reads before its first step. -/
structure Reading where
  /-- `GetTierInstance` fails; its error is ignored here. -/
  tierInstanceFails : Bool
  /-- `ListTierSlots` in the check of a cache pool. -/
  cacheSlots : Except Text (List Slot)
  slots : Except Text (List Slot)
  /-- `managedSmoothfsTierUsable`. -/
  usable : Text → Bool
  /-- An error of `GetSmoothfsPool` other than `ErrNotFound`. -/
  lookup : Option Text

inductive EnsureError where
  | store (reason : Text)
  | unmounted (poolName slot path : Text)
  | noBackings (poolName : Text)
  | cacheBackings (poolName : Text)
  | destroyOld (poolName : Text) (error : String)
  | rewrite (poolName : Text) (error : String)
  | start (poolName unit output : Text)
  | sync (poolName reason : Text)
  | create (error : CreateError)
deriving DecidableEq

def EnsureError.message : EnsureError → String
  | .store reason => String.ofList reason
  | .unmounted poolName slot path =>
    "tier backing " ++ String.ofList poolName ++ "/" ++ String.ofList slot ++ " is assigned but " ++
      String.ofList path ++ " is not mounted"
  | .noBackings poolName => "smoothfs pool " ++ String.ofList poolName ++ " has no mounted tier backings"
  | .cacheBackings poolName =>
    "cache pool " ++ String.ofList poolName ++ " backing changes require an explicit offline migration"
  | .destroyOld poolName error => "replace smoothfs pool " ++ String.ofList poolName ++ ": destroy old mount: " ++ error
  | .rewrite poolName error => "rewrite existing smoothfs pool " ++ String.ofList poolName ++ ": " ++ error
  | .start poolName unit output =>
    "start existing smoothfs pool " ++ String.ofList poolName ++ ": " ++
      systemctlError ("enable --now " ++ String.ofList unit) output
  | .sync poolName reason =>
    "sync smoothfs admission threshold for " ++ String.ofList poolName ++ ": " ++ String.ofList reason
  | .create error => error.message

section Decision

variable (poolName : Text)

/-- `PerTierBackingMount`. -/
def perTierBackingMount (tierName : Text) : Text :=
  "/mnt/.tierd-backing/" ++ poolName ++ Paths.slash :: tierName

def activeManagedSmoothfsTiers (usable : Text → Bool) : List Slot → Except EnsureError (List Text)
  | [] => .ok []
  | slot :: rest =>
    if slot.state = .empty then activeManagedSmoothfsTiers usable rest
    else
      let path := perTierBackingMount poolName slot.name
      if usable path then (activeManagedSmoothfsTiers usable rest).map (path :: ·)
      else .error (.unmounted poolName slot.name path)

def cacheIncomplete (slots : List Slot) : Bool :=
  (slots.filter (·.state ≠ .empty)).length < 2 || slots.getLast?.any (·.state = .empty)

def StorageMode.text : StorageMode → Text
  | .tier => "tier"
  | .cache => "cache"

/-- The columns of a row as `GetSmoothfsPool` returns them. -/
def SmoothfsPool.managed (row : SmoothfsPool) : ManagedPool where
  mode := row.mode.text
  name := row.name
  uuid := row.uuid
  tiers := row.tiers.splitOn ':'
  mountpoint := row.mountpoint
  unitPath := row.unitPath

inductive Decision where
  | finish (result : Except EnsureError Unit)
  | replace (existing : SmoothfsPool) (tiers : List Text)
  | rewrite (existing : SmoothfsPool)
  | create (tiers : List Text)

def decideExisting (existing : SmoothfsPool) (tiers : List Text) : Decision :=
  if existing.mode = .cache ∧ existing.managed.tiers ≠ tiers then .finish (.error (.cacheBackings poolName))
  else if existing.unitPath = [] then .finish (.ok ())
  else if existing.managed.tiers ≠ tiers ∨
      Paths.clean existing.mountpoint ≠ Paths.clean ("/mnt/" ++ poolName) then .replace existing tiers
  else .rewrite existing

def decideTiers (table : PoolTable) (reading : Reading) : Decision :=
  match reading.slots with
  | .error reason => .finish (.error (.store reason))
  | .ok slots =>
    match activeManagedSmoothfsTiers poolName reading.usable slots with
    | .error error => .finish (.error error)
    | .ok tiers =>
      if tiers = [] then .finish (.error (.noBackings poolName))
      else
        match reading.lookup with
        | some reason => .finish (.error (.store reason))
        | none =>
          match table.rows.find? (·.name = poolName) with
          | some existing => decideExisting poolName existing tiers
          | none => .create tiers

/-- `ensureManagedSmoothfsPool` up to its first step. -/
def decideEnsure (system : System) (reading : Reading) : Decision :=
  if reading.tierInstanceFails = false ∧ system.tierModes poolName = some "cache".toList then
    match reading.cacheSlots with
    | .error reason => .finish (.error (.store reason))
    | .ok slots => if cacheIncomplete slots then .finish (.ok ()) else decideTiers poolName system.table reading
  else decideTiers poolName system.table reading

end Decision

/-- The step a run takes next. -/
inductive Phase where
  | idle (result : Except EnsureError Unit)
  /-- `destroyManagedPool` of the pool to replace, with the first error so far. -/
  | disable (existing : SmoothfsPool) (tiers : List Text)
  | remove (existing : SmoothfsPool) (tiers : List Text) (failed : Option String)
  | reloadRemoved (existing : SmoothfsPool) (tiers : List Text) (failed : Option String)
  | deleteRow (existing : SmoothfsPool) (tiers : List Text)
  /-- `createManagedSmoothfsPoolRow`; `drawn` says that the UUID is a new one. -/
  | create (poolUUID : UUID) (tiers : List Text)
  | mkdir (pool : ManagedPool) (drawn : Bool)
  | write (pool : ManagedPool) (body : Text) (drawn : Bool)
  | reload (pool : ManagedPool)
  | enable (pool : ManagedPool)
  | rollback (pool : ManagedPool) (error : CreateError)
  | insert (pool : ManagedPool)
  /-- `destroyManagedPool` after the row was refused. -/
  | undoDisable (pool : ManagedPool) (error : StoreError)
  | undoRemove (pool : ManagedPool) (error : StoreError)
  /-- `rewriteManagedPoolUnit` and the start of the unit. -/
  | rewriteMkdir (existing : SmoothfsPool)
  | rewriteWrite (existing : SmoothfsPool) (body : Text)
  | rewriteReload (existing : SmoothfsPool)
  | restart (existing : SmoothfsPool)
  | sync (failed : Text → EnsureError)

/-- How a step fails, if it does, and the UUID it draws, which is never `uuid.Nil`. -/
structure StepOutcome extends Outcome where
  deleteRow : Option Text
  real : newUUID ≠ 0

/-- `DeleteSmoothfsPool`. -/
def PoolTable.delete (table : PoolTable) (name : Text) : PoolTable where
  rows := table.rows.filter (·.name ≠ name)
  uuidOnce := table.uuidOnce.sublist (List.filter_sublist.map _)
  nameOnce := table.nameOnce.sublist (List.filter_sublist.map _)

structure Daemon where
  system : System
  phase : Phase

section Steps

variable (client : Client) (poolName : Text)

def Daemon.to (daemon : Daemon) (phase : Phase) : Daemon := { daemon with phase := phase }

/-- The next phase, with the host after a step. -/
def Daemon.onHost (daemon : Daemon) (host : Host) (phase : Phase) : Daemon :=
  ⟨{ daemon.system with host := host }, phase⟩

def Daemon.fails (daemon : Daemon) (error : EnsureError) : Daemon := daemon.to (.idle (.error error))

def Host.leave (host : Host) (path : Text) (failure : WriteFailure) : Host :=
  match failure.left with
  | none => host
  | some left => host.setFile path (some left)

def Daemon.ensure (daemon : Daemon) (reading : Reading) : Daemon :=
  match decideEnsure poolName daemon.system reading with
  | .finish result => daemon.to (.idle result)
  | .replace existing tiers => daemon.to (.disable existing tiers)
  | .rewrite existing => daemon.to (.rewriteMkdir existing)
  | .create tiers => daemon.to (.create 0 tiers)

def Daemon.insertRow (daemon : Daemon) (failure : Option Text) (pool : ManagedPool) : Daemon :=
  match createSmoothfsPool daemon.system.table failure pool with
  | .error .duplicate => daemon.to (.sync fun reason => .create (.sync reason))
  | .error error => daemon.to (.undoDisable pool error)
  | .ok table =>
    ⟨{ daemon.system with table := table }, .sync fun reason => .create (.syncNew poolName reason)⟩

def Daemon.proceed (daemon : Daemon) (outcome : StepOutcome) : Daemon :=
  let host := daemon.system.host
  match daemon.phase with
  | .idle _ => daemon
  | .disable existing tiers =>
    let unit := base existing.unitPath
    daemon.onHost (host.switch unit false outcome.destroy.disable) (.remove existing tiers
      (outcome.destroy.disable.map fun failure =>
        "disable --now: " ++ systemctlError ("disable --now " ++ String.ofList unit) failure.output))
  | .remove existing tiers failed =>
    daemon.onHost (host.removeFile existing.unitPath outcome.destroy.remove) (.reloadRemoved existing tiers
      (failed <|> outcome.destroy.remove.map fun reason => "remove unit: " ++ String.ofList reason))
  | .reloadRemoved existing tiers failed =>
    match failed <|> outcome.destroy.reload.map fun output => "daemon-reload: " ++
      systemctlError "daemon-reload" output with
    | some error => daemon.fails (.destroyOld existing.name error)
    | none => daemon.to (.deleteRow existing tiers)
  | .deleteRow existing tiers =>
    match outcome.deleteRow with
    | some reason => daemon.fails (.store reason)
    | none =>
      ⟨{ daemon.system with table := daemon.system.table.delete existing.name }, .create existing.uuid tiers⟩
  | .create poolUUID tiers =>
    match outcome.tierInstance with
    | some reason => daemon.fails (.create (.tierInstance reason))
    | none =>
      match (requestForRow daemon.system.tierModes poolName poolUUID tiers).plan client outcome.newUUID with
      | .error error => daemon.fails (.create error)
      | .ok pool => daemon.to (.mkdir pool (poolUUID = 0))
  | .mkdir pool drawn =>
    match outcome.mkdir with
    | some reason => daemon.fails (.create (.mkdir pool.mountpoint reason))
    | none =>
      match client.renderMountUnit pool with
      | .error reason => daemon.fails (.create (.refused reason))
      | .ok body => daemon.to (.write pool body drawn)
  | .write pool body _ =>
    match outcome.write with
    | some failure =>
      daemon.onHost (host.leave pool.unitPath failure) (.idle (.error (.create (.write pool.unitPath failure.reason))))
    | none => daemon.onHost (host.setFile pool.unitPath (some body)) (.reload pool)
  | .reload pool =>
    match outcome.reload with
    | some output => daemon.to (.rollback pool (.reload output))
    | none => daemon.to (.enable pool)
  | .enable pool =>
    daemon.onHost (host.switch (base pool.unitPath) true outcome.enable)
      (match outcome.enable with
      | some failure => .rollback pool (.enable pool.unitPath failure.output)
      | none => .insert pool)
  | .rollback pool error =>
    daemon.onHost (host.removeFile pool.unitPath outcome.rollback) (.idle (.error (.create error)))
  | .insert pool => daemon.insertRow poolName outcome.insert pool
  | .undoDisable pool error =>
    daemon.onHost (host.switch (base pool.unitPath) false outcome.destroy.disable) (.undoRemove pool error)
  | .undoRemove pool error =>
    daemon.onHost (host.removeFile pool.unitPath outcome.destroy.remove) (.idle (.error (.create (.store error))))
  | .rewriteMkdir existing =>
    match outcome.mkdir with
    | some reason => daemon.fails (.rewrite poolName (CreateError.mkdir existing.mountpoint reason).message)
    | none =>
      match client.renderMountUnit existing.managed with
      | .error reason => daemon.fails (.rewrite poolName (String.ofList reason))
      | .ok body => daemon.to (.rewriteWrite existing body)
  | .rewriteWrite existing body =>
    match outcome.write with
    | some failure =>
      daemon.onHost (host.leave existing.unitPath failure)
        (.idle (.error (.rewrite poolName (CreateError.write existing.unitPath failure.reason).message)))
    | none => daemon.onHost (host.setFile existing.unitPath (some body)) (.rewriteReload existing)
  | .rewriteReload existing =>
    match outcome.reload with
    | some output => daemon.fails (.rewrite poolName (systemctlError "daemon-reload" output))
    | none => daemon.to (.restart existing)
  | .restart existing =>
    let unit := base existing.unitPath
    daemon.onHost (host.switch unit true outcome.enable)
      (match outcome.enable with
      | some failure => .idle (.error (.start poolName unit failure.output))
      | none => .sync fun reason => .sync poolName reason)
  | .sync failed =>
    match syncManagedSmoothfsAdmissionThreshold outcome.toOutcome daemon.system.table poolName with
    | some reason => daemon.fails (failed reason)
    | none => daemon.to (.idle (.ok ()))

inductive Event where
  | ensure (reading : Reading)
  | proceed (outcome : StepOutcome)
  | crash

def Daemon.step (daemon : Daemon) : Event → Daemon
  | .ensure reading =>
    match daemon.phase with
    | .idle _ => daemon.ensure poolName reading
    | _ => daemon
  | .proceed outcome => daemon.proceed client poolName outcome
  | .crash => daemon.to (.idle (.ok ()))

end Steps

section Refinement

variable (client : Client) (poolName : Text) (outcome : StepOutcome)

def proceeds (count : Nat) (daemon : Daemon) : Daemon :=
  run (Daemon.step client poolName) daemon (List.replicate count (.proceed outcome))

theorem proceeds_succ (count : Nat) (daemon : Daemon) :
    proceeds client poolName outcome (count + 1) daemon =
      proceeds client poolName outcome count (daemon.proceed client poolName outcome) := rfl

theorem proceeds_idle (count : Nat) (system : System) (result : Except EnsureError Unit) :
    proceeds client poolName outcome count ⟨system, .idle result⟩ = ⟨system, .idle result⟩ := by
  induction count with
  | zero => rfl
  | succ count ih => exact ih

theorem proceeds_sync (count : Nat) (system : System) (failed : Text → EnsureError) :
    proceeds client poolName outcome (count + 1) ⟨system, .sync failed⟩ =
      ⟨system, .idle (match syncManagedSmoothfsAdmissionThreshold outcome.toOutcome system.table poolName with
        | some reason => .error (failed reason)
        | none => .ok ())⟩ := by
  rw [proceeds_succ]
  cases found : syncManagedSmoothfsAdmissionThreshold outcome.toOutcome system.table poolName <;>
    simp [Daemon.proceed, found, Daemon.fails, Daemon.to, proceeds_idle]

theorem proceeds_insert (system : System) (pool : ManagedPool) :
    proceeds client poolName outcome 3 ⟨system, .insert pool⟩ =
      match createSmoothfsPool system.table outcome.insert pool with
      | .error .duplicate =>
        ⟨system, .idle (match syncManagedSmoothfsAdmissionThreshold outcome.toOutcome system.table poolName with
          | some reason => .error (.create (.sync reason))
          | none => .ok ())⟩
      | .error error =>
        ⟨{ system with host := (destroyManagedPool outcome.destroy pool system.host).1 },
          .idle (.error (.create (.store error)))⟩
      | .ok table =>
        ⟨{ system with table := table },
          .idle (match syncManagedSmoothfsAdmissionThreshold outcome.toOutcome table poolName with
            | some reason => .error (.create (.syncNew poolName reason))
            | none => .ok ())⟩ := by
  rw [proceeds_succ]
  simp only [Daemon.proceed, Daemon.insertRow]
  cases createSmoothfsPool system.table outcome.insert pool with
  | ok table => exact proceeds_sync client poolName outcome 1 _ _
  | error error =>
    cases error with
    | duplicate => exact proceeds_sync client poolName outcome 1 _ _
    | mode => rfl
    | fault reason => rfl

/-- The steps of `createManagedPool`. -/
theorem proceeds_createManagedPool (poolUUID : UUID) (tiers : List Text) (system : System)
    (found : outcome.tierInstance = none) :
    proceeds client poolName outcome 8 ⟨system, .create poolUUID tiers⟩ =
      match createManagedPool client outcome.toOutcome (requestForRow system.tierModes poolName poolUUID tiers)
        system.host with
      | (host, .error error) => ⟨{ system with host := host }, .idle (.error (.create error))⟩
      | (host, .ok pool) => proceeds client poolName outcome 3 ⟨{ system with host := host }, .insert pool⟩ := by
  rw [proceeds_succ]
  simp only [Daemon.proceed, found, createManagedPool]
  cases (requestForRow system.tierModes poolName poolUUID tiers).plan client outcome.newUUID with
  | error error => exact proceeds_idle ..
  | ok pool =>
    simp only [Daemon.to]
    rw [proceeds_succ]
    simp only [Daemon.proceed]
    cases outcome.mkdir with
    | some reason => exact proceeds_idle ..
    | none =>
      cases client.renderMountUnit pool with
      | error reason => exact proceeds_idle ..
      | ok body =>
        simp only [Daemon.to]
        rw [proceeds_succ]
        simp only [Daemon.proceed]
        rcases outcome.write with _ | ⟨reason, _ | left⟩
        · simp only [Daemon.onHost]
          rw [proceeds_succ]
          simp only [Daemon.proceed]
          cases outcome.reload with
          | some output => rfl
          | none =>
            simp only [Daemon.to]
            rw [proceeds_succ]
            simp only [Daemon.proceed, Daemon.onHost]
            cases outcome.enable with
            | none => rfl
            | some failure => rfl
        · exact proceeds_idle ..
        · exact proceeds_idle ..

/-- Without a crash, the steps come to what the function comes to. -/
theorem proceeds_create (poolUUID : UUID) (tiers : List Text) (system : System) :
    proceeds client poolName outcome 8 ⟨system, .create poolUUID tiers⟩ =
      ⟨(createManagedSmoothfsPoolRow client outcome.toOutcome poolName poolUUID tiers system).1,
        .idle ((createManagedSmoothfsPoolRow client outcome.toOutcome poolName poolUUID tiers system).2.mapError
          .create)⟩ := by
  cases found : outcome.tierInstance with
  | some reason =>
    rw [proceeds_succ]
    simp only [Daemon.proceed, found, createManagedSmoothfsPoolRow]
    exact proceeds_idle ..
  | none =>
    rw [proceeds_createManagedPool client poolName outcome poolUUID tiers system found]
    simp only [createManagedSmoothfsPoolRow, found]
    rcases createManagedPool client outcome.toOutcome (requestForRow system.tierModes poolName poolUUID tiers)
      system.host with ⟨host, error | pool⟩
    · rfl
    · simp only [proceeds_insert]
      rcases createSmoothfsPool system.table outcome.insert pool with error | table
      · cases error with
        | duplicate =>
          cases syncManagedSmoothfsAdmissionThreshold outcome.toOutcome system.table poolName <;> rfl
        | mode => rfl
        | fault reason => rfl
      · dsimp only
        cases syncManagedSmoothfsAdmissionThreshold outcome.toOutcome table poolName <;> rfl

end Refinement

end Tierd.Smoothfs
