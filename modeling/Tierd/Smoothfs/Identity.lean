import Tierd.Smoothfs.CreateSafety
import Tierd.Smoothfs.Ensure

namespace Tierd.Smoothfs

open Tierd.Data List

def Daemon.unitWritten (daemon : Daemon) : Event → Option UUID
  | .proceed outcome =>
    if outcome.write.any (·.left = none) then none
    else
      match daemon.phase with
      | .write pool _ _ => some pool.uuid
      | .rewriteWrite existing _ => some existing.uuid
      | _ => none
  | _ => none

/-- The row is not there, and the UUID is in use: the row was deleted to be inserted again, or
the unit of a new pool was written. -/
def Phase.exposed : Phase → Bool
  | .create poolUUID _ => poolUUID ≠ 0
  | .mkdir _ drawn | .write _ _ drawn => !drawn
  | .reload _ | .enable _ | .insert _ => true
  | _ => false

/-- The first unit of a new pool is written next. -/
def Phase.writesFirst : Phase → Bool
  | .write _ _ drawn => drawn
  | _ => false

section Guard

variable (client : Client) (poolName : Text)

def Daemon.succeeds (daemon : Daemon) (outcome : StepOutcome) : Bool :=
  match daemon.phase with
  | .create poolUUID tiers =>
    outcome.tierInstance = none &&
      ((requestForRow daemon.system.tierModes poolName poolUUID tiers).plan client outcome.newUUID).isOk
  | .mkdir pool _ => outcome.mkdir = none && (client.renderMountUnit pool).isOk
  | .write _ _ _ => outcome.write.isNone
  | .reload _ => outcome.reload = none
  | .enable _ => outcome.enable.isNone
  | .insert pool =>
    outcome.insert = none && (normalizeStorageMode pool.mode).isOk &&
      decide (daemon.system.table.Fresh pool.uuid pool.name)
  | _ => true

/-- No crash and no failure where it costs the UUID, and no half-written unit of a new pool. -/
def Undisturbed (daemon : Daemon) : Event → Prop
  | .ensure _ => True
  | .crash => daemon.phase.exposed = false
  | .proceed outcome =>
    (daemon.phase.exposed = true → daemon.succeeds client poolName outcome = true) ∧
      (daemon.phase.writesFirst = true → outcome.write.all (·.left = none) = true)

instance (daemon : Daemon) (event : Event) : Decidable (Undisturbed client poolName daemon event) := by
  cases event <;> unfold Undisturbed <;> infer_instance

end Guard

section Invariant

variable (poolName : Text)

def Daemon.HasRow (daemon : Daemon) : Prop := ∃ row ∈ daemon.system.table.rows, row.name = poolName

/-- What a phase knows about a pool with the UUID. -/
def Daemon.Keeps (identity : UUID) (daemon : Daemon) : Prop :=
  match daemon.phase with
  | .idle _ | .sync _ => daemon.HasRow poolName
  | .disable existing _ | .remove existing _ _ | .reloadRemoved existing _ _ | .deleteRow existing _
  | .rewriteMkdir existing | .rewriteWrite existing _ | .rewriteReload existing | .restart existing =>
    daemon.HasRow poolName ∧ existing.uuid = identity
  | .create poolUUID _ => poolUUID = identity
  | .mkdir pool drawn | .write pool _ drawn => drawn = false ∧ pool.uuid = identity ∧ pool.name = poolName
  | .reload pool | .enable pool | .insert pool => pool.uuid = identity ∧ pool.name = poolName
  | .rollback _ _ | .undoDisable _ _ | .undoRemove _ _ => False

structure Daemon.Settled (identity : UUID) (daemon : Daemon) : Prop where
  real : identity ≠ 0
  rows : ∀ row ∈ daemon.system.table.rows, row.name = poolName → row.uuid = identity
  phase : daemon.Keeps poolName identity

/-- There is no row and no unit was written. -/
def Daemon.Unborn (daemon : Daemon) : Prop :=
  ¬ daemon.HasRow poolName ∧
    match daemon.phase with
    | .idle _ => True
    | .create poolUUID _ => poolUUID = 0
    | .mkdir pool drawn | .write pool _ drawn => drawn = true ∧ pool.uuid ≠ 0 ∧ pool.name = poolName
    | _ => False

end Invariant

section Steps

variable {client : Client} {poolName : Text} {identity : UUID} {daemon : Daemon}

theorem isOk_iff {ε α : Type} {result : Except ε α} : result.isOk = true ↔ ∃ value, result = .ok value := by
  cases result <;> simp [Except.isOk, Except.toBool]

theorem plan_identity {request : CreateManagedPoolRequest} {newUUID : UUID} {pool : ManagedPool}
    (planned : request.plan client newUUID = .ok pool) :
    pool.uuid = (if request.uuid = 0 then newUUID else request.uuid) ∧ pool.name = request.name := by
  simp only [CreateManagedPoolRequest.plan, bind_eq_ok, pure_eq_ok] at planned
  obtain ⟨_, _, _, _, _, _, _, _, rfl⟩ := planned
  exact ⟨rfl, rfl⟩

/-- What a run that begins has decided. -/
theorem decideTiers_cases (table : PoolTable) (reading : Reading) :
    (∃ result, decideTiers poolName table reading = .finish result) ∨
      (∃ existing ∈ table.rows, existing.name = poolName ∧
        ((∃ tiers, decideTiers poolName table reading = .replace existing tiers) ∨
          decideTiers poolName table reading = .rewrite existing)) ∨
      (∀ row ∈ table.rows, row.name ≠ poolName) ∧ ∃ tiers, decideTiers poolName table reading = .create tiers := by
  unfold decideTiers
  split
  · exact .inl ⟨_, rfl⟩
  · split
    · exact .inl ⟨_, rfl⟩
    · split_ifs
      · exact .inl ⟨_, rfl⟩
      · split
        · exact .inl ⟨_, rfl⟩
        · split
          case h_1 existing found =>
            have named : existing.name = poolName := by simpa using List.find?_some found
            unfold decideExisting
            split_ifs
            · exact .inl ⟨_, rfl⟩
            · exact .inl ⟨_, rfl⟩
            · exact .inr (.inl ⟨existing, mem_of_find?_eq_some found, named, .inl ⟨_, rfl⟩⟩)
            · exact .inr (.inl ⟨existing, mem_of_find?_eq_some found, named, .inr rfl⟩)
          case h_2 missing =>
            refine .inr (.inr ⟨fun row listed => ?_, _, rfl⟩)
            simpa using List.find?_eq_none.mp missing row listed

theorem ensure_cases (daemon : Daemon) (reading : Reading) :
    (∃ result, daemon.ensure poolName reading = daemon.to (.idle result)) ∨
      (∃ existing ∈ daemon.system.table.rows, existing.name = poolName ∧
        ((∃ tiers, daemon.ensure poolName reading = daemon.to (.disable existing tiers)) ∨
          daemon.ensure poolName reading = daemon.to (.rewriteMkdir existing))) ∨
      ¬ daemon.HasRow poolName ∧ ∃ tiers, daemon.ensure poolName reading = daemon.to (.create 0 tiers) := by
  have decided : (∃ result, decideEnsure poolName daemon.system reading = .finish result) ∨
      decideEnsure poolName daemon.system reading = decideTiers poolName daemon.system.table reading := by
    unfold decideEnsure
    split_ifs
    · split
      · exact .inl ⟨_, rfl⟩
      · split_ifs
        · exact .inl ⟨_, rfl⟩
        · exact .inr rfl
    · exact .inr rfl
  unfold Daemon.ensure
  rcases decided with ⟨result, finished⟩ | same
  · rw [finished]
    exact .inl ⟨result, rfl⟩
  · rw [same]
    rcases decideTiers_cases daemon.system.table reading with
      ⟨result, finished⟩ | ⟨existing, listed, named, ⟨tiers, replaces⟩ | rewrites⟩ | ⟨none, tiers, creates⟩
    · rw [finished]
      exact .inl ⟨result, rfl⟩
    · rw [replaces]
      exact .inr (.inl ⟨existing, listed, named, .inl ⟨tiers, rfl⟩⟩)
    · rw [rewrites]
      exact .inr (.inl ⟨existing, listed, named, .inr rfl⟩)
    · rw [creates]
      exact .inr (.inr ⟨fun ⟨row, listed, named⟩ => none row listed named, tiers, rfl⟩)

theorem Daemon.Settled.next (settled : daemon.Settled poolName identity) {after : Daemon}
    (table : after.system.table = daemon.system.table) (keeps : after.Keeps poolName identity) :
    after.Settled poolName identity :=
  ⟨settled.real, fun row listed => settled.rows row (table ▸ listed), keeps⟩

/-- A row that is inserted is the pool's. -/
theorem insertRow_settled {system : System} {pool : ManagedPool} {mode : StorageMode}
    (real : identity ≠ 0) (rows : ∀ row ∈ system.table.rows, row.name = poolName → row.uuid = identity)
    (known : pool.uuid = identity) (named : pool.name = poolName) (normal : normalizeStorageMode pool.mode = .ok mode)
    (fresh : system.table.Fresh pool.uuid pool.name) :
    (Daemon.insertRow poolName ⟨system, .insert pool⟩ none pool).Settled poolName identity := by
  have inserted : createSmoothfsPool system.table none pool = .ok (system.table.insert (pool.row mode) fresh) := by
    simp only [createSmoothfsPool, normal, fresh, dif_pos, bind, Except.bind]
  simp only [Daemon.insertRow, inserted]
  refine ⟨real, fun row listed same => ?_, pool.row mode, mem_append_right _ mem_cons_self, named⟩
  rcases mem_append.mp listed with old | new
  · exact rows row old same
  · rw [mem_singleton.mp new]
    exact known

theorem Daemon.Settled.proceed (settled : daemon.Settled poolName identity) {outcome : StepOutcome}
    (undisturbed : Undisturbed client poolName daemon (.proceed outcome)) :
    (daemon.proceed client poolName outcome).Settled poolName identity := by
  obtain ⟨system, phase⟩ := daemon
  have allowed := undisturbed.1
  have keeps := settled.phase
  cases phase with
  | idle result => exact settled
  | disable existing tiers => exact settled.next rfl keeps
  | remove existing tiers failed => exact settled.next rfl keeps
  | reloadRemoved existing tiers failed =>
    simp only [Daemon.proceed]
    split
    · exact settled.next rfl keeps.1
    · exact settled.next rfl keeps
  | deleteRow existing tiers =>
    simp only [Daemon.proceed]
    split
    · exact settled.next rfl keeps.1
    · exact ⟨settled.real, fun row listed => settled.rows row (mem_of_mem_filter listed), keeps.2⟩
  | create poolUUID tiers =>
    obtain rfl : poolUUID = identity := keeps
    have succeeds := allowed (by simpa [Phase.exposed] using settled.real)
    simp only [Daemon.succeeds, Bool.and_eq_true, decide_eq_true_iff, isOk_iff] at succeeds
    obtain ⟨found, pool, planned⟩ := succeeds
    obtain ⟨drawn, named⟩ := plan_identity planned
    simp only [Daemon.proceed, found, planned]
    refine settled.next rfl ⟨by simpa using settled.real, ?_, named⟩
    rw [drawn]
    exact if_neg settled.real
  | mkdir pool drawn =>
    have succeeds := allowed (by simp [Phase.exposed, keeps.1])
    simp only [Daemon.succeeds, Bool.and_eq_true, decide_eq_true_iff, isOk_iff] at succeeds
    obtain ⟨made, body, rendered⟩ := succeeds
    simp only [Daemon.proceed, made, rendered]
    exact settled.next rfl keeps
  | write pool body drawn =>
    have written : outcome.write = none := Option.isNone_iff_eq_none.mp (allowed (by simp [Phase.exposed, keeps.1]))
    simp only [Daemon.proceed, written]
    exact settled.next rfl keeps.2
  | reload pool =>
    have reloaded : outcome.reload = none := of_decide_eq_true (allowed rfl)
    simp only [Daemon.proceed, reloaded]
    exact settled.next rfl keeps
  | enable pool =>
    have enabled : outcome.enable = none := Option.isNone_iff_eq_none.mp (allowed rfl)
    simp only [Daemon.proceed, enabled]
    exact settled.next rfl keeps
  | insert pool =>
    have succeeds := allowed rfl
    simp only [Daemon.succeeds, Bool.and_eq_true, decide_eq_true_iff, isOk_iff] at succeeds
    obtain ⟨⟨accepted, mode, normal⟩, fresh⟩ := succeeds
    simp only [Daemon.proceed, accepted]
    exact insertRow_settled settled.real settled.rows keeps.1 keeps.2 normal fresh
  | rollback pool error => exact keeps.elim
  | undoDisable pool error => exact keeps.elim
  | undoRemove pool error => exact keeps.elim
  | rewriteMkdir existing =>
    simp only [Daemon.proceed]
    split
    · exact settled.next rfl keeps.1
    · split
      · exact settled.next rfl keeps.1
      · exact settled.next rfl keeps
  | rewriteWrite existing body =>
    simp only [Daemon.proceed]
    split
    · exact settled.next rfl keeps.1
    · exact settled.next rfl keeps
  | rewriteReload existing =>
    simp only [Daemon.proceed]
    split
    · exact settled.next rfl keeps.1
    · exact settled.next rfl keeps
  | restart existing =>
    simp only [Daemon.proceed]
    split
    · exact settled.next rfl keeps.1
    · exact settled.next rfl keeps.1
  | sync failed =>
    simp only [Daemon.proceed]
    split
    · exact settled.next rfl keeps
    · exact settled.next rfl keeps

theorem Daemon.Settled.crash (settled : daemon.Settled poolName identity) (safe : daemon.phase.exposed = false) :
    (daemon.to (.idle (.ok ()))).Settled poolName identity := by
  obtain ⟨system, phase⟩ := daemon
  have keeps := settled.phase
  refine settled.next rfl ?_
  cases phase with
  | idle result => exact keeps
  | sync failed => exact keeps
  | disable existing tiers => exact keeps.1
  | remove existing tiers failed => exact keeps.1
  | reloadRemoved existing tiers failed => exact keeps.1
  | deleteRow existing tiers => exact keeps.1
  | rewriteMkdir existing => exact keeps.1
  | rewriteWrite existing body => exact keeps.1
  | rewriteReload existing => exact keeps.1
  | restart existing => exact keeps.1
  | create poolUUID tiers =>
    obtain rfl : poolUUID = identity := keeps
    exact absurd (by simpa [Phase.exposed] using safe) settled.real
  | mkdir pool drawn => simp [Phase.exposed, keeps.1] at safe
  | write pool body drawn => simp [Phase.exposed, keeps.1] at safe
  | reload pool => cases safe
  | enable pool => cases safe
  | insert pool => cases safe
  | rollback pool error => exact keeps.elim
  | undoDisable pool error => exact keeps.elim
  | undoRemove pool error => exact keeps.elim

theorem Daemon.Settled.ensure (settled : daemon.Settled poolName identity) (row : daemon.HasRow poolName)
    (reading : Reading) : (daemon.ensure poolName reading).Settled poolName identity := by
  rcases ensure_cases daemon reading with
    ⟨result, same⟩ | ⟨existing, listed, named, ⟨tiers, same⟩ | same⟩ | ⟨none, tiers, same⟩
  · rw [same]
    exact settled.next rfl row
  · rw [same]
    exact settled.next rfl ⟨row, settled.rows existing listed named⟩
  · rw [same]
    exact settled.next rfl ⟨row, settled.rows existing listed named⟩
  · exact absurd row none

theorem Daemon.Settled.step (settled : daemon.Settled poolName identity) {event : Event}
    (undisturbed : Undisturbed client poolName daemon event) :
    (daemon.step client poolName event).Settled poolName identity := by
  cases event with
  | proceed outcome => exact settled.proceed undisturbed
  | crash => exact settled.crash undisturbed
  | ensure reading =>
    obtain ⟨system, phase⟩ := daemon
    cases phase with
    | idle result => exact settled.ensure settled.phase reading
    | _ => exact settled

theorem Daemon.Settled.written (settled : daemon.Settled poolName identity) {event : Event} {uuid : UUID}
    (writes : daemon.unitWritten event = some uuid) : uuid = identity := by
  obtain ⟨system, phase⟩ := daemon
  have keeps := settled.phase
  cases event with
  | ensure reading => cases writes
  | crash => cases writes
  | proceed outcome =>
    simp only [Daemon.unitWritten] at writes
    split_ifs at writes
    cases phase with
    | write pool body drawn =>
      cases writes
      exact keeps.2.1
    | rewriteWrite existing body =>
      cases writes
      exact keeps.2
    | _ => cases writes

/-- What a step makes of a pool that was not created yet: nothing is written, or its first unit
is, and with it the UUID is settled. -/
def Daemon.Begins (client : Client) (poolName : Text) (daemon : Daemon) (event : Event) : Prop :=
  (daemon.unitWritten event = none ∧ (daemon.step client poolName event).Unborn poolName) ∨
    ∃ identity, daemon.unitWritten event = some identity ∧ (daemon.step client poolName event).Settled poolName identity

theorem Daemon.Unborn.proceed (unborn : daemon.Unborn poolName) {outcome : StepOutcome}
    (undisturbed : Undisturbed client poolName daemon (.proceed outcome)) :
    daemon.Begins client poolName (.proceed outcome) := by
  obtain ⟨system, phase⟩ := daemon
  obtain ⟨none, known⟩ := unborn
  cases phase with
  | idle result => exact .inl ⟨by simp [Daemon.unitWritten], none, trivial⟩
  | create poolUUID tiers =>
    obtain rfl : poolUUID = 0 := known
    refine .inl ⟨by simp [Daemon.unitWritten], ?_⟩
    simp only [Daemon.step, Daemon.proceed]
    split
    · exact ⟨none, trivial⟩
    · split
      · exact ⟨none, trivial⟩
      · rename_i pool planned
        obtain ⟨drawn, named⟩ := plan_identity planned
        refine ⟨none, by simp, ?_, named⟩
        rw [drawn]
        exact outcome.real
  | mkdir pool drawn =>
    refine .inl ⟨by simp [Daemon.unitWritten], ?_⟩
    simp only [Daemon.step, Daemon.proceed]
    split
    · exact ⟨none, trivial⟩
    · split
      · exact ⟨none, trivial⟩
      · exact ⟨none, known⟩
  | write pool body drawn =>
    obtain ⟨rfl, real, named⟩ := known
    cases written : outcome.write with
    | some failure =>
      have left : failure.left = Option.none := by simpa [written] using undisturbed.2 rfl
      refine .inl ⟨by simp [Daemon.unitWritten, written, left], ?_⟩
      simp only [Daemon.step, Daemon.proceed, written]
      exact ⟨none, trivial⟩
    | none =>
      refine .inr ⟨pool.uuid, by simp [Daemon.unitWritten, written], ?_⟩
      simp only [Daemon.step, Daemon.proceed, written]
      exact ⟨real, fun row listed same => absurd ⟨row, listed, same⟩ none, rfl, named⟩
  | _ => exact known.elim

theorem Daemon.Unborn.begins (unborn : daemon.Unborn poolName) {event : Event}
    (undisturbed : Undisturbed client poolName daemon event) : daemon.Begins client poolName event := by
  cases event with
  | proceed outcome => exact unborn.proceed undisturbed
  | crash => exact .inl ⟨rfl, unborn.1, trivial⟩
  | ensure reading =>
    refine .inl ⟨rfl, ?_⟩
    obtain ⟨system, phase⟩ := daemon
    cases phase with
    | idle result =>
      simp only [Daemon.step]
      rcases ensure_cases ⟨system, .idle result⟩ reading with
        ⟨result, same⟩ | ⟨existing, listed, named, _⟩ | ⟨_, tiers, same⟩
      · rw [same]
        exact ⟨unborn.1, trivial⟩
      · exact absurd ⟨existing, listed, named⟩ unborn.1
      · rw [same]
        exact ⟨unborn.1, rfl⟩
    | _ => exact unborn

end Steps

section Runs

variable {client : Client} {poolName : Text} {start : Daemon} {events : List Event}

/-- Every unit that is written carries the UUID, and so does the row, at each point of the run. -/
def Identified (client : Client) (poolName : Text) (start : Daemon) (events : List Event) (identity : UUID) : Prop :=
  (∀ before event after, events = before ++ event :: after → ∀ uuid,
    (run (Daemon.step client poolName) start before).unitWritten event = some uuid → uuid = identity) ∧
  ∀ before after, events = before ++ after →
    ∀ row ∈ (run (Daemon.step client poolName) start before).system.table.rows, row.name = poolName →
      row.uuid = identity

theorem Identified.cons {event : Event} {identity : UUID}
    (later : Identified client poolName (start.step client poolName event) events identity)
    (written : ∀ uuid, start.unitWritten event = some uuid → uuid = identity)
    (rows : ∀ row ∈ start.system.table.rows, row.name = poolName → row.uuid = identity) :
    Identified client poolName start (event :: events) identity := by
  constructor
  · intro before first after split uuid writes
    cases before with
    | nil =>
      obtain ⟨rfl, rfl⟩ := List.cons.inj split
      exact written uuid writes
    | cons head rest =>
      obtain ⟨rfl, rfl⟩ := List.cons.inj split
      exact later.1 rest first after rfl uuid writes
  · intro before after split row listed named
    cases before with
    | nil => exact rows row listed named
    | cons head rest =>
      obtain ⟨rfl, rfl⟩ := List.cons.inj split
      exact later.2 rest after rfl row listed named

end Runs

end Tierd.Smoothfs
