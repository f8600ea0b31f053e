import Tierd.Data.Runs
import Tierd.Smoothfs.Units

namespace Tierd.Smoothfs

open Tierd.Data

structure System.Has (system : System) (row : SmoothfsPool) (content : Text) : Prop where
  member : row ∈ system.table.rows
  file : system.host.unitFile row.unitPath = some content
  enabled : system.host.enabled (base row.unitPath) = true

/-- However its steps turn out, a request that does not succeed leaves every pool as it was. -/
def Harmless (client : Client) (system : System) (request : CreateRequest) : Prop :=
  ∀ outcome error, (handle client outcome system request).2 = .error error →
    ∀ row content, system.Has row content → (handle client outcome system request).1.Has row content

def CreateManagedPoolRequest.Accepted (client : Client) (request : CreateManagedPoolRequest) : Prop :=
  ∃ newUUID pool body, request.plan client newUUID = .ok pool ∧ client.renderMountUnit pool = .ok body

/-- What a request asks of `createManagedPool`, unless it is refused before. -/
def CreateRequest.managed (client : Client) (system : System) : CreateRequest → Option CreateManagedPoolRequest
  | .create body => (decodeCreate client body).toOption
  | .poolRow poolName poolUUID tiers => some (requestForRow system.tierModes poolName poolUUID tiers)

/-- If the request passes its checks, no existing pool has the unit of its mountpoint. -/
def UnitFree (client : Client) (system : System) (request : CreateRequest) : Prop :=
  ∀ managed, request.managed client system = some managed → managed.Accepted client →
    ∀ row content, system.Has row content → base row.unitPath ≠ base (managed.unitPath client)

/-- Nothing changed but the unit with the name. -/
structure Host.SameExcept (unit : Text) (before after : Host) : Prop where
  files : ∀ path, base path ≠ unit → after.unitFile path = before.unitFile path
  units : ∀ name, name ≠ unit → after.enabled name = before.enabled name

namespace Host

variable {unit path : Text} {first second third : Host}

theorem SameExcept.refl (host : Host) : SameExcept unit host host := ⟨fun _ _ => rfl, fun _ _ => rfl⟩

theorem SameExcept.trans (earlier : SameExcept unit first second) (later : SameExcept unit second third) :
    SameExcept unit first third where
  files path other := (later.files path other).trans (earlier.files path other)
  units name other := (later.units name other).trans (earlier.units name other)

theorem SameExcept.setFile (host : Host) (content : Option Text) :
    SameExcept (base path) host (host.setFile path content) where
  files other different := by
    have elsewhere : other ≠ path := fun same => different (congrArg base same)
    simp [Host.setFile, elsewhere]
  units _ _ := rfl

theorem SameExcept.setEnabled (host : Host) (value : Bool) :
    SameExcept unit host (host.setEnabled unit value) where
  files _ _ := rfl
  units name other := by simp [Host.setEnabled, other]

theorem SameExcept.removeFile (host : Host) (failure : Option Text) :
    SameExcept (base path) host (host.removeFile path failure) := by
  unfold Host.removeFile
  split
  · exact .refl host
  · exact .setFile host none

theorem SameExcept.switch (host : Host) (value : Bool) (failure : Option CommandFailure) :
    SameExcept unit host (host.switch unit value failure) := by
  unfold Host.switch
  split
  · exact .setEnabled host value
  · exact .refl host

end Host

theorem destroyManagedPool_same (outcome : DestroyOutcome) (pool : ManagedPool) (host : Host) :
    host.SameExcept (base pool.unitPath) (destroyManagedPool outcome pool host).1 :=
  (Host.SameExcept.switch host false outcome.disable).trans (.removeFile _ outcome.remove)

theorem created_same {pool : ManagedPool} {host : Host} (body : Text) :
    host.SameExcept (base pool.unitPath)
      ((host.setFile pool.unitPath (some body)).setEnabled (base pool.unitPath) true) :=
  (Host.SameExcept.setFile host (some body)).trans (.setEnabled _ true)

section Unit

variable {client : Client} {outcome : Outcome} {request : CreateManagedPoolRequest} {host : Host}

theorem plan_unitPath {newUUID : UUID} {pool : ManagedPool} (planned : request.plan client newUUID = .ok pool) :
    pool.unitPath = request.unitPath client := by
  simp only [CreateManagedPoolRequest.plan, bind_eq_ok, pure_eq_ok] at planned
  obtain ⟨_, _, _, _, _, _, _, _, rfl⟩ := planned
  rfl

theorem createManagedPool_confined (client : Client) (outcome : Outcome) (request : CreateManagedPoolRequest)
    (host : Host) :
    (createManagedPool client outcome request host).1 = host ∨
      request.Accepted client ∧
        host.SameExcept (base (request.unitPath client)) (createManagedPool client outcome request host).1 := by
  unfold createManagedPool
  split
  case h_1 => exact .inl rfl
  case h_2 pool planned =>
    rw [← plan_unitPath planned]
    split
    case h_1 => exact .inl rfl
    case h_2 =>
      split
      case h_1 => exact .inl rfl
      case h_2 body rendered =>
        refine .inr ⟨⟨outcome.newUUID, pool, body, planned, rendered⟩, ?_⟩
        have written : host.SameExcept (base pool.unitPath) (host.setFile pool.unitPath (some body)) :=
          .setFile host (some body)
        split
        · exact .refl host
        · exact .setFile host _
        · split
          · exact written.trans (.removeFile _ _)
          · have switched := written.trans (.switch _ true outcome.enable)
            split
            · exact switched.trans (.removeFile _ _)
            · exact switched

theorem createManagedPool_ok {after : Host} {pool : ManagedPool}
    (created : createManagedPool client outcome request host = (after, .ok pool)) :
    request.plan client outcome.newUUID = .ok pool ∧ ∃ body, client.renderMountUnit pool = .ok body ∧
      after = (host.setFile pool.unitPath (some body)).setEnabled (base pool.unitPath) true := by
  unfold createManagedPool at created
  split at created
  case h_1 => cases created
  case h_2 planned plan =>
    split at created
    case h_1 => cases created
    case h_2 =>
      split at created
      case h_1 => cases created
      case h_2 body rendered =>
        split at created
        · cases created
        · cases created
        · split at created
          · cases created
          · split at created
            case h_1 => cases created
            case h_2 enabled =>
              rw [enabled] at created
              cases created
              exact ⟨plan, body, rendered, rfl⟩

theorem createManagedPool_runs {pool : ManagedPool} {body : Text}
    (planned : request.plan client outcome.newUUID = .ok pool) (rendered : client.renderMountUnit pool = .ok body)
    (smooth : outcome.mkdir = none ∧ outcome.write = none ∧ outcome.reload = none ∧ outcome.enable = none) :
    createManagedPool client outcome request host =
      ((host.setFile pool.unitPath (some body)).setEnabled (base pool.unitPath) true, .ok pool) := by
  obtain ⟨made, written, reloaded, enabled⟩ := smooth
  simp [createManagedPool, planned, rendered, made, written, reloaded, enabled, Host.switch]

end Unit

theorem createSmoothfsPool_ok {table after : PoolTable} {failure : Option Text} {pool : ManagedPool}
    (inserted : createSmoothfsPool table failure pool = .ok after) :
    ∃ mode, after.rows = table.rows ++ [pool.row mode] := by
  simp only [createSmoothfsPool, bind_eq_ok] at inserted
  obtain ⟨mode, _, inserted⟩ := inserted
  refine ⟨mode, ?_⟩
  split at inserted
  · cases inserted
  · split at inserted
    · cases inserted
      rfl
    · cases inserted

/-- The host changed in one unit only, and the table is as before or has one more row, for
that unit, which exists. -/
structure Touches (unitPath : Text) (before after : System) : Prop where
  host : before.host.SameExcept (base unitPath) after.host
  table : after.table = before.table ∨ ∃ row content,
    after.table.rows = before.table.rows ++ [row] ∧ row.unitPath = unitPath ∧ after.Has row content

/-- A request does nothing, or it passes its checks and touches its own unit. -/
def Confined (client : Client) (managed : CreateManagedPoolRequest) (before after : System) : Prop :=
  after = before ∨ managed.Accepted client ∧ Touches (managed.unitPath client) before after

section Steps

variable {client : Client} {outcome : Outcome} {system : System} {managed : CreateManagedPoolRequest}
  {host : Host} {pool : ManagedPool}

theorem confined_unit {result : Except CreateError ManagedPool}
    (ran : createManagedPool client outcome managed system.host = (host, result)) :
    Confined client managed system { system with host := host } := by
  have confined := createManagedPool_confined client outcome managed system.host
  rw [ran] at confined
  rcases confined with rfl | ⟨accepted, same⟩
  · exact .inl rfl
  · exact .inr ⟨accepted, same, .inl rfl⟩

theorem confined_destroyed (ran : createManagedPool client outcome managed system.host = (host, .ok pool)) :
    Confined client managed system
      { system with host := (destroyManagedPool outcome.destroy pool host).1 } := by
  obtain ⟨planned, body, rendered, rfl⟩ := createManagedPool_ok ran
  refine .inr ⟨⟨outcome.newUUID, pool, body, planned, rendered⟩, ?_, .inl rfl⟩
  rw [← plan_unitPath planned]
  exact (created_same body).trans (destroyManagedPool_same outcome.destroy pool _)

theorem confined_inserted {table : PoolTable}
    (ran : createManagedPool client outcome managed system.host = (host, .ok pool))
    (inserted : createSmoothfsPool system.table outcome.insert pool = .ok table) :
    Confined client managed system { system with table := table, host := host } := by
  obtain ⟨planned, body, rendered, rfl⟩ := createManagedPool_ok ran
  obtain ⟨mode, rows⟩ := createSmoothfsPool_ok inserted
  refine .inr ⟨⟨outcome.newUUID, pool, body, planned, rendered⟩, ?_, .inr ⟨pool.row mode, body, rows, ?_, ?_⟩⟩
  · rw [← plan_unitPath planned]
    exact created_same body
  · exact plan_unitPath planned
  · exact {
      member := by simp [rows]
      file := by simp [Host.setEnabled, Host.setFile, ManagedPool.row]
      enabled := by simp [Host.setEnabled, ManagedPool.row] }

end Steps

section Request

variable (client : Client) (outcome : Outcome) (system : System)

theorem create_confined (body : Option CreateSmoothfsPoolRequest) :
    (create client outcome body system).1 = system ∨ ∃ managed, decodeCreate client body = .ok managed ∧
      Confined client managed system (create client outcome body system).1 := by
  unfold create
  split
  case h_1 => exact .inl rfl
  case h_2 managed decoded =>
    refine .inr ⟨managed, decoded, ?_⟩
    rcases ran : createManagedPool client outcome managed system.host with ⟨host, result⟩
    cases result with
    | error error => exact confined_unit ran
    | ok pool =>
      dsimp only
      split
      case h_1 => exact confined_destroyed ran
      case h_2 inserted => exact confined_inserted ran inserted

theorem createManagedSmoothfsPoolRow_confined (poolName : Text) (poolUUID : UUID) (tiers : List Text) :
    Confined client (requestForRow system.tierModes poolName poolUUID tiers) system
      (createManagedSmoothfsPoolRow client outcome poolName poolUUID tiers system).1 := by
  unfold createManagedSmoothfsPoolRow
  split
  case h_1 => exact .inl rfl
  case h_2 =>
    rcases ran : createManagedPool client outcome
      (requestForRow system.tierModes poolName poolUUID tiers) system.host with ⟨host, result⟩
    cases result with
    | error error => exact confined_unit ran
    | ok pool =>
      dsimp only
      split
      case h_1 => exact confined_unit ran
      case h_2 => exact confined_destroyed ran
      case h_3 inserted => exact confined_inserted ran inserted

theorem handle_confined (request : CreateRequest) :
    (handle client outcome system request).1 = system ∨
      ∃ managed, request.managed client system = some managed ∧ managed.Accepted client ∧
        Touches (managed.unitPath client) system (handle client outcome system request).1 := by
  cases request with
  | create body =>
    rcases create_confined client outcome system body with same | ⟨managed, decoded, same | touched⟩
    · exact .inl same
    · exact .inl same
    · exact .inr ⟨managed, by simp [CreateRequest.managed, decoded, Except.toOption], touched⟩
  | poolRow poolName poolUUID tiers =>
    rcases createManagedSmoothfsPoolRow_confined client outcome system poolName poolUUID tiers
      with same | touched
    · exact .inl same
    · exact .inr ⟨_, rfl, touched⟩

end Request

theorem System.Has.of_touches {unitPath : Text} {before after : System} {row : SmoothfsPool} {content : Text}
    (exists_ : before.Has row content) (touched : Touches unitPath before after)
    (apart : base row.unitPath ≠ base unitPath) : after.Has row content where
  member := by
    rcases touched.table with same | ⟨added, _, rows, _⟩
    · rw [same]
      exact exists_.member
    · rw [rows]
      exact List.mem_append_left [added] exists_.member
  file := (touched.host.files row.unitPath apart).trans exists_.file
  enabled := (touched.host.units (base row.unitPath) apart).trans exists_.enabled

/-- Every row has its unit, and no two rows have the same one. -/
structure Consistent (system : System) : Prop where
  has : ∀ row ∈ system.table.rows, ∃ content, system.Has row content
  apart : (system.table.rows.map fun row => base row.unitPath).Nodup

def step (client : Client) (system : System) (event : CreateRequest × Outcome) : System :=
  (handle client event.2 system event.1).1

theorem Consistent.step {client : Client} {system : System} (consistent : Consistent system)
    {event : CreateRequest × Outcome} (free : UnitFree client system event.1) :
    Consistent (step client system event) := by
  rcases handle_confined client event.2 system event.1 with same | ⟨managed, asked, accepted, touched⟩
  · unfold Smoothfs.step
    rw [same]
    exact consistent
  · have apart : ∀ row ∈ system.table.rows, base row.unitPath ≠ base (managed.unitPath client) := by
      intro row member
      obtain ⟨content, exists_⟩ := consistent.has row member
      exact free managed asked accepted row content exists_
    have kept : ∀ row ∈ system.table.rows, ∃ content, (Smoothfs.step client system event).Has row content := by
      intro row member
      obtain ⟨content, exists_⟩ := consistent.has row member
      exact ⟨content, exists_.of_touches touched (apart row member)⟩
    rcases touched.table with same | ⟨added, content, rows, unit, exists_⟩
    · constructor
      · unfold Smoothfs.step at kept ⊢
        rw [same]
        exact kept
      · unfold Smoothfs.step
        rw [same]
        exact consistent.apart
    · constructor
      · intro row member
        unfold Smoothfs.step at member
        rw [rows] at member
        rcases List.mem_append.mp member with existing | new
        · exact kept row existing
        · cases List.mem_singleton.mp new
          exact ⟨content, exists_⟩
      · unfold Smoothfs.step
        rw [rows]
        exact nodup_map_concat consistent.apart fun row member => unit ▸ apart row member

/-- Requests for free units, whatever fails on the way, keep every row with its unit. -/
theorem consistent_run {client : Client} {start : System} {events : List (CreateRequest × Outcome)}
    (free : Guarded (step client) (fun system event => UnitFree client system event.1) start events)
    (initially : Consistent start) : Consistent (run (step client) start events) :=
  guarded_run_invariant (fun _ _ consistent free => consistent.step free) free initially

def insertFails (newUUID : UUID) (reason : Text) : Outcome where
  tierInstance := none
  newUUID := newUUID
  mkdir := none
  write := none
  reload := none
  enable := none
  rollback := none
  insert := some reason
  destroy := ⟨none, none, none⟩
  lookup := none
  sync := none

theorem createSmoothfsPool_fails (table : PoolTable) {reason : Text} (other : isUniqueViolation reason = false)
    (pool : ManagedPool) :
    ∃ error, error ≠ .duplicate ∧ createSmoothfsPool table (some reason) pool = .error error := by
  unfold createSmoothfsPool
  cases normal : normalizeStorageMode pool.mode with
  | ok mode => exact ⟨.fault reason, StoreError.noConfusion, by simp [bind, Except.bind, other]⟩
  | error error =>
    refine ⟨error, ?_, rfl⟩
    rintro rfl
    unfold normalizeStorageMode at normal
    split_ifs at normal
    cases normal

theorem destroyManagedPool_disables (pool : ManagedPool) (host : Host) :
    (destroyManagedPool ⟨none, none, none⟩ pool host).1.enabled (base pool.unitPath) = false := by
  simp [destroyManagedPool, Host.switch, Host.removeFile, Host.setEnabled, Host.setFile]

theorem insertFails_disables {client : Client} {system : System} {request : CreateRequest}
    {managed : CreateManagedPoolRequest} (asked : request.managed client system = some managed)
    {newUUID : UUID} {pool : ManagedPool} {body : Text} (planned : managed.plan client newUUID = .ok pool)
    (rendered : client.renderMountUnit pool = .ok body) {reason : Text}
    (other : isUniqueViolation reason = false) :
    (∃ error, (handle client (insertFails newUUID reason) system request).2 = .error error) ∧
      (handle client (insertFails newUUID reason) system request).1.host.enabled
        (base (managed.unitPath client)) = false := by
  obtain ⟨error, notDuplicate, fails⟩ := createSmoothfsPool_fails system.table other pool
  have created : createManagedPool client (insertFails newUUID reason) managed system.host = _ :=
    createManagedPool_runs planned rendered ⟨rfl, rfl, rfl, rfl⟩
  rw [← plan_unitPath planned]
  have inserted : createSmoothfsPool system.table (insertFails newUUID reason).insert pool = .error error := fails
  cases request with
  | create body =>
    have decoded : decodeCreate client body = .ok managed := by
      cases result : decodeCreate client body <;> simp_all [CreateRequest.managed, Except.toOption]
    simp only [handle, create, decoded, created, inserted]
    exact ⟨⟨_, rfl⟩, destroyManagedPool_disables pool _⟩
  | poolRow poolName poolUUID tiers =>
    cases asked
    have started : (insertFails newUUID reason).tierInstance = none := rfl
    simp only [handle, createManagedSmoothfsPoolRow, started, created, inserted]
    cases error with
    | duplicate => exact absurd rfl notDuplicate
    | mode => exact ⟨⟨_, rfl⟩, destroyManagedPool_disables pool _⟩
    | fault found => exact ⟨⟨_, rfl⟩, destroyManagedPool_disables pool _⟩

/-- A failed request spares every pool exactly when it is refused by its checks or no pool
has the unit of its mountpoint. -/
theorem rejected_create_is_harmless_iff (client : Client) (system : System) (request : CreateRequest) :
    Harmless client system request ↔ UnitFree client system request := by
  constructor
  · intro harmless managed asked ⟨newUUID, pool, body, planned, rendered⟩ row content exists_ same
    have other : isUniqueViolation "disk I/O error" = false := by decide
    obtain ⟨⟨error, failed⟩, disabled⟩ := insertFails_disables asked planned rendered other
    have kept := (harmless _ error failed row content exists_).enabled
    rw [same, disabled] at kept
    cases kept
  · intro free outcome error _ row content exists_
    rcases handle_confined client outcome system request with same | ⟨managed, asked, accepted, touched⟩
    · rw [same]
      exact exists_
    · exact exists_.of_touches touched (free managed asked accepted row content exists_)

def plainClient : Client where
  normalizeStorageMode mode _ := .ok (if mode = [] then "tier" else mode)
  validatePoolName _ := .ok ()
  validateTiers _ := .ok ()
  modeCache := "cache"
  validateCacheBackings _ := .ok ()
  defaultMountBase := "/mnt/smoothfs"
  mountpointForPool mountBase name := mountBase ++ Paths.slash :: name
  systemdUnitDir := "/etc/systemd/system"
  unitFilenameFor mountpoint :=
    (mountpoint.drop 1).map (fun c => if c = Paths.slash then '-' else c) ++ ".mount"
  renderMountUnit pool :=
    .ok ("Options=pool=" ++ pool.name ++ ",tiers=" ++ [':'].intercalate pool.tiers)
  parseUUID _ := .error "invalid UUID length"

def mediaRow : SmoothfsPool where
  mode := .tier
  uuid := 1
  name := "media"
  tiers := "/mnt/fast:/mnt/slow"
  mountpoint := "/mnt/media"
  unitPath := "/etc/systemd/system/mnt-media.mount"

def mediaUnit : Text := "Options=pool=media,tiers=/mnt/fast:/mnt/slow"

def mediaSystem : System where
  table := ⟨[mediaRow], List.nodup_singleton _, List.nodup_singleton _⟩
  host := {
    unitFile := fun path => if path = mediaRow.unitPath then some mediaUnit else none
    enabled := fun unit => unit = "mnt-media.mount" }
  tierModes := fun _ => none

def syncFails : Outcome :=
  { insertFails 2 [] with insert := none, sync := some "read-only file system" }

/-- Creating a pool a second time takes the first one down, and the request for a tier
pool replaces its unit file. -/
theorem repeated_create_takes_pool_down :
    mediaSystem.Has mediaRow mediaUnit ∧
    (∃ after, handle plainClient syncFails mediaSystem
        (.create (some ⟨[], "media", [], ["/mnt/new"], "/mnt"⟩)) =
          (after, .error (.store .duplicate)) ∧
        after.host.unitFile mediaRow.unitPath = none ∧ after.host.enabled (base mediaRow.unitPath) = false) ∧
    (∃ after, handle plainClient syncFails mediaSystem (.poolRow "media" 0 ["/mnt/new"]) =
          (after, .error (.sync "read-only file system")) ∧
        after.host.unitFile mediaRow.unitPath ≠ some mediaUnit) := by
  refine ⟨⟨by decide, by decide, by decide⟩, ⟨_, Prod.ext rfl ?_, ?_, ?_⟩, ⟨_, Prod.ext rfl ?_, ?_⟩⟩
  all_goals decide

def photosAdded : List (CreateRequest × Outcome) :=
  [(.create (some ⟨[], "photos", [], ["/mnt/new"], "/mnt"⟩), { insertFails 2 [] with insert := none })]

theorem mediaSystem_consistent : Consistent mediaSystem :=
  ⟨fun row member => ⟨mediaUnit, List.mem_singleton.mp member ▸ ⟨by decide, by decide, by decide⟩⟩, by decide⟩

theorem second_pool_consistent :
    (run (step plainClient) mediaSystem photosAdded).table.rows.length = 2 ∧
      Consistent (run (step plainClient) mediaSystem photosAdded) := by
  refine ⟨by decide, consistent_run ⟨fun managed asked _ row content has => ?_, trivial⟩ mediaSystem_consistent⟩
  have decoded := Option.some.inj (asked.symm.trans (rfl : _ = some (CreateManagedPoolRequest.mk ..)))
  rw [List.mem_singleton.mp has.member, decoded]
  decide

end Tierd.Smoothfs
