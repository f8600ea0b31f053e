import Tierd.Data.Overtaking
import Tierd.Targets.Secondary

namespace Tierd.Targets

open Tierd.Data List

/-- How far the store has come with a call of several statements: the placement
domain is ensured before the `INSERT` of a new target, and the row is read before it
is deleted or given another policy.  `domain` is the row's placement domain. -/
inductive Stage where
  | called
  | ready (domain : String)
deriving DecidableEq, Repr

structure Call where
  writer : Nat
  op : CacheOp
  stage : Stage
deriving DecidableEq, Repr

/-- The statements of `pruneEmptyPlacementDomain` that are still to come. -/
inductive Pruning where
  | count (domain : String)
  | drop (domain : String)
deriving DecidableEq, Repr

/-- `inFlight` lists the calls that have changed the maps and not persisted yet, in
the order of their changes.  `batch` is what the drain goroutine has taken, and
`pruning` the writers that have deleted a target and still look at its domain. -/
structure Writers where
  writeMode : CacheWriteMode
  maps : Maps
  queue : List CacheOp
  batch : List CacheOp
  tables : Tables
  inFlight : List Call
  pruning : List (Nat × Pruning)

def Writers.start (writeMode : CacheWriteMode) (tables : Tables) : Writers :=
  ⟨writeMode, reload tables, [], [], tables, [], []⟩

/-- `update` is the first critical section of a call.  `persist` is its second one in
write-back mode and the next statement of its writer in write-through mode.
`takeBatch` is the swap in `drain` and `applyNext` one round of its loop. -/
inductive WriterEvent where
  | update (writer : Nat) (call : CacheEvent)
  | persist (writer : Nat)
  | takeBatch
  | applyNext
deriving DecidableEq, Repr

inductive Progress where
  | goOn (stage : Stage)
  | prune (domain : String)
  | returned

/-- The next statement of `applyOp`, on its own connection and outside a transaction. -/
def statement (tables : Tables) (op : CacheOp) (stage : Stage) : Tables × Progress :=
  match op, stage with
  | .createTier given, .called =>
    match validateFillPolicy given.withDefaults.targetFillPct given.withDefaults.fullThresholdPct with
    | .error _ => (tables, .returned)
    | .ok () => (tables.ensurePlacementDomain given.placementDomain, .goOn (.ready given.placementDomain))
  | .createTier given, .ready _ => ((tables.insertTierTarget given.withDefaults).1, .returned)
  | .deleteTier id, .called =>
    match tables.tierTargets[id]? with
    | none => (tables, .returned)
    | some row => (tables, .goOn (.ready row.placementDomain))
  | .deleteTier id, .ready domain =>
    match tables.removeTierTarget id with
    | (removed, none) => (removed, .prune domain)
    | (same, some _) => (same, .returned)
  | .updatePolicy id targetFillPct fullThresholdPct, .called =>
    match validateFillPolicy targetFillPct fullThresholdPct, tables.tierTargets[id]? with
    | .ok (), some row => (tables, .goOn (.ready row.placementDomain))
    | _, _ => (tables, .returned)
  | .updatePolicy id targetFillPct fullThresholdPct, .ready _ =>
    (tables.setTierTargetPolicy id targetFillPct fullThresholdPct, .returned)
  | op, _ => (applyOp tables op, .returned)

namespace Writers

def busy (state : Writers) (writer : Nat) : Bool :=
  (state.inFlight.any fun call => call.writer = writer) || state.pruning.any fun entry => entry.1 = writer

/-- A writer makes one call at a time. -/
def update (state : Writers) (writer : Nat) (call : CacheEvent) : Writers :=
  if state.busy writer then state
  else
    match call.op with
    | none => state
    | some op =>
      { state with maps := state.maps.write op, inFlight := state.inFlight ++ [⟨writer, op, .called⟩] }

def returns (state : Writers) (writer : Nat) : Writers :=
  { state with inFlight := state.inFlight.eraseP fun call => call.writer = writer }

def settle (state : Writers) (writer : Nat) : Progress → Writers
  | .goOn stage =>
    { state with
      inFlight := state.inFlight.map fun call =>
        if call.writer = writer then { call with stage } else call }
  | .prune domain => { state.returns writer with pruning := state.pruning ++ [(writer, .count domain)] }
  | .returned => state.returns writer

/-- `persist`: `applyOp` in write-through mode, `enqueue` in write-back mode. -/
def persistCall (state : Writers) (call : Call) : Writers :=
  match state.writeMode with
  | .writeThrough =>
    let done := statement state.tables call.op call.stage
    { state with tables := done.1 }.settle call.writer done.2
  | .writeBack => { state with queue := state.queue ++ [call.op] }.returns call.writer

def pruneNext (state : Writers) (writer : Nat) : Writers :=
  let others := state.pruning.eraseP fun entry => entry.1 = writer
  match state.pruning.find? fun entry => entry.1 = writer with
  | none => state
  | some (_, .count domain) =>
    if state.tables.domainInUse domain then { state with pruning := others }
    else { state with pruning := others ++ [(writer, .drop domain)] }
  | some (_, .drop domain) =>
    { state with tables := state.tables.dropPlacementDomain domain, pruning := others }

def pendingCall (state : Writers) (writer : Nat) : Option Call :=
  state.inFlight.find? fun call => call.writer = writer

def persist (state : Writers) (writer : Nat) : Writers :=
  match state.pendingCall writer with
  | none => state.pruneNext writer
  | some call => state.persistCall call

def takeBatch (state : Writers) : Writers :=
  match state.batch with
  | [] => { state with batch := state.queue, queue := [] }
  | _ :: _ => state

def applyNext (state : Writers) : Writers :=
  match state.batch with
  | [] => state
  | op :: rest => { state with batch := rest, tables := applyOp state.tables op }

def step (state : Writers) : WriterEvent → Writers
  | .update writer call => state.update writer call
  | .persist writer => state.persist writer
  | .takeBatch => state.takeBatch
  | .applyNext => state.applyNext

def drained (state : Writers) : Tables := (state.batch ++ state.queue).foldl applyOp state.tables

end Writers

inductive RowKey where
  | tier (id : String)
  | mdadm (id : String)
  | ns (id : String)
deriving DecidableEq, Repr

inductive Row where
  | tier (row : TierTargetRow)
  | mdadm (row : MdadmManagedTargetRow)
  | ns (row : MdadmManagedNamespaceRow)
deriving DecidableEq, Repr

/-- The rows of three maps by id. -/
def rowsOf (tier : String → Option TierTargetRow) (mdadm : String → Option MdadmManagedTargetRow)
    (ns : String → Option MdadmManagedNamespaceRow) : RowKey → Option Row
  | .tier id => (tier id).map .tier
  | .mdadm id => (mdadm id).map .mdadm
  | .ns id => (ns id).map .ns

def Maps.row (maps : Maps) : RowKey → Option Row := rowsOf maps.tierByID maps.mdadmByID maps.nsByID

def Tables.row (tables : Tables) : RowKey → Option Row :=
  rowsOf (fun id => tables.tierTargets[id]?) (fun id => tables.mdadmTargets[id]?)
    (fun id => tables.mdadmNamespaces[id]?)

def CacheOp.rowKey : CacheOp → RowKey
  | .upsertMdadm row => .mdadm row.tierTargetID
  | .deleteMdadm tierTargetID => .mdadm tierTargetID
  | .createTier row => .tier row.id
  | .deleteTier id | .updatePolicy id .. | .updateActivity id .. => .tier id
  | .upsertMdadmNs row => .ns row.namespaceID
  | .deleteMdadmNs namespaceID => .ns namespaceID

def Row.mapTier (change : TierTargetRow → TierTargetRow) : Row → Row
  | .tier row => .tier (change row)
  | other => other

/-- What a write does to its row in memory. -/
def CacheOp.rowEffect : CacheOp → Option Row → Option Row
  | .upsertMdadm row, _ => some (.mdadm row)
  | .createTier row, _ => some (.tier row)
  | .upsertMdadmNs row, _ => some (.ns row)
  | .deleteMdadm _, _ | .deleteTier _, _ | .deleteMdadmNs _, _ => none
  | .updatePolicy _ targetFillPct fullThresholdPct, found =>
    found.map (Row.mapTier fun row => { row with targetFillPct, fullThresholdPct })
  | .updateActivity _ health band trend, found =>
    found.map (Row.mapTier fun row => { row with
      health
      activityBand := if band ≠ "" then band else row.activityBand
      activityTrend := if trend ≠ "" then trend else row.activityTrend })

/-- The rows after a write to the maps. -/
abbrev writeRow : (RowKey → Option Row) → CacheOp → RowKey → Option Row :=
  updateCell CacheOp.rowKey CacheOp.rowEffect

section Rows

variable (tier : String → Option TierTargetRow) (mdadm : String → Option MdadmManagedTargetRow)
  (ns : String → Option MdadmManagedNamespaceRow)

theorem rowsOf_update_tier (id : String) (row : Option TierTargetRow) :
    rowsOf (Function.update tier id row) mdadm ns =
      Function.update (rowsOf tier mdadm ns) (.tier id) (row.map .tier) := by
  funext key
  cases key with
  | tier other => by_cases same : other = id <;> simp [rowsOf, same]
  | mdadm other => simp [rowsOf]
  | ns other => simp [rowsOf]

theorem rowsOf_update_mdadm (id : String) (row : Option MdadmManagedTargetRow) :
    rowsOf tier (Function.update mdadm id row) ns =
      Function.update (rowsOf tier mdadm ns) (.mdadm id) (row.map .mdadm) := by
  funext key
  cases key with
  | tier other => simp [rowsOf]
  | mdadm other => by_cases same : other = id <;> simp [rowsOf, same]
  | ns other => simp [rowsOf]

theorem rowsOf_update_ns (id : String) (row : Option MdadmManagedNamespaceRow) :
    rowsOf tier mdadm (Function.update ns id row) =
      Function.update (rowsOf tier mdadm ns) (.ns id) (row.map .ns) := by
  funext key
  cases key with
  | tier other => simp [rowsOf]
  | mdadm other => simp [rowsOf]
  | ns other => by_cases same : other = id <;> simp [rowsOf, same]

theorem writeRow_of_absent {rows : RowKey → Option Row} (op : CacheOp) (absent : rows op.rowKey = none)
    (keeps : op.rowEffect none = none) : writeRow rows op = rows := by
  unfold writeRow updateCell
  rw [absent, keeps, ← absent, Function.update_eq_self]

theorem writeRow_eq {rows : RowKey → Option Row} (op : CacheOp) {key : RowKey} {value : Option Row}
    (own : op.rowKey = key) (effect : op.rowEffect (rows key) = value) :
    Function.update rows key value = writeRow rows op := by
  rw [← effect, ← own]
  rfl

theorem row_setTier (maps : Maps) (id : String) (row : TierTargetRow) :
    (maps.setTier id row).row = Function.update maps.row (.tier id) (some (.tier row)) :=
  rowsOf_update_tier _ _ _ _ _

end Rows

theorem row_write (maps : Maps) (op : CacheOp) : (maps.write op).row = writeRow maps.row op := by
  cases op with
  | upsertMdadm row => exact rowsOf_update_mdadm _ _ _ _ _
  | createTier row => exact rowsOf_update_tier _ _ _ _ _
  | upsertMdadmNs row => exact rowsOf_update_ns _ _ _ _ _
  | deleteMdadm id =>
    simp only [Maps.write, Maps.deleteMdadmTarget]
    cases stored : maps.mdadmByID id with
    | none => exact (writeRow_of_absent _ (congrArg (Option.map Row.mdadm) stored) rfl).symm
    | some row => exact rowsOf_update_mdadm _ _ _ _ _
  | deleteTier id =>
    simp only [Maps.write, Maps.deleteTierTarget]
    cases stored : maps.tierByID id with
    | none => exact (writeRow_of_absent _ (congrArg (Option.map Row.tier) stored) rfl).symm
    | some row => exact rowsOf_update_tier _ _ _ _ _
  | updatePolicy id targetFillPct fullThresholdPct =>
    simp only [Maps.write, Maps.updateTierTargetPolicy]
    cases stored : maps.tierByID id with
    | none => exact (writeRow_of_absent _ (congrArg (Option.map Row.tier) stored) rfl).symm
    | some row =>
      refine (row_setTier maps id _).trans
        (writeRow_eq (.updatePolicy id targetFillPct fullThresholdPct) rfl ?_)
      simp [CacheOp.rowEffect, Maps.row, rowsOf, stored, Row.mapTier]
  | updateActivity id health band trend =>
    simp only [Maps.write, Maps.updateTierTargetActivity]
    cases stored : maps.tierByID id with
    | none => exact (writeRow_of_absent _ (congrArg (Option.map Row.tier) stored) rfl).symm
    | some row =>
      refine (row_setTier maps id _).trans (writeRow_eq (.updateActivity id health band trend) rfl ?_)
      simp [CacheOp.rowEffect, Maps.row, rowsOf, stored, Row.mapTier]
  | deleteMdadmNs id =>
    simp only [Maps.write, Maps.deleteMdadmNs]
    cases stored : maps.nsByID id with
    | none => exact (writeRow_of_absent _ (congrArg (Option.map Row.ns) stored) rfl).symm
    | some row => exact rowsOf_update_ns _ _ _ _ _

def Replays (tables : Tables) : CacheOp → Prop
  | .upsertMdadm row =>
    (∀ id found, tables.mdadmTargets[id]? = some found → found.poolTier = row.poolTier →
      id = row.tierTargetID) ∧ tables.tierTargets[row.tierTargetID]? ≠ none
  | .deleteMdadm _ => True
  | .createTier row =>
    tables.tierTargets[row.id]? = none ∧ row.targetFillPct ≠ 0 ∧ row.fullThresholdPct ≠ 0 ∧
    validateFillPolicy row.targetFillPct row.fullThresholdPct = .ok ()
  | .deleteTier id =>
    tables.tierTargets[id]? = none ∨ (tables.mdadmTargets[id]? = none ∧ id ∉ tables.objectTiers)
  | .updatePolicy id targetFillPct fullThresholdPct =>
    tables.tierTargets[id]? = none ∨ validateFillPolicy targetFillPct fullThresholdPct = .ok ()
  | .updateActivity id _ band trend =>
    ∀ row ∈ tables.tierTargets[id]?,
      (band ≠ "" ∨ row.activityBand = "") ∧ (trend ≠ "" ∨ row.activityTrend = "")
  | .upsertMdadmNs row =>
    (∀ id found, tables.mdadmNamespaces[id]? = some found → found.poolName = row.poolName →
      id = row.namespaceID) ∧ row.namespaceID ∈ tables.managedNamespaces
  | .deleteMdadmNs _ => True

section Statements

variable (tables : Tables)

theorem row_insert_tier (id : String) (row : TierTargetRow) :
    { tables with tierTargets := tables.tierTargets.insert id row }.row =
      Function.update tables.row (.tier id) (some (.tier row)) := by
  rw [Tables.row, lookup_insert]
  exact rowsOf_update_tier _ _ _ _ _

theorem row_erase_tier (id : String) :
    { tables with tierTargets := tables.tierTargets.erase id }.row = writeRow tables.row (.deleteTier id) := by
  rw [Tables.row, lookup_erase]
  exact rowsOf_update_tier _ _ _ _ _

theorem row_withDomains (domains : List String) :
    { tables with placementDomains := domains }.row = tables.row :=
  rfl

variable {tables}

theorem row_setTierTargetPolicy (id : String) (targetFillPct fullThresholdPct : Int) :
    (tables.setTierTargetPolicy id targetFillPct fullThresholdPct).row =
      writeRow tables.row (.updatePolicy id targetFillPct fullThresholdPct) := by
  unfold Tables.setTierTargetPolicy
  cases stored : tables.tierTargets[id]? with
  | none => exact (writeRow_of_absent _ (congrArg (Option.map Row.tier) stored) rfl).symm
  | some row =>
    refine (row_insert_tier tables id _).trans
      (writeRow_eq (.updatePolicy id targetFillPct fullThresholdPct) rfl ?_)
    simp [CacheOp.rowEffect, Tables.row, rowsOf, stored, Row.mapTier]

theorem row_applyOp {op : CacheOp} (replays : Replays tables op) :
    (applyOp tables op).row = writeRow tables.row op := by
  cases op with
  | upsertMdadm row =>
    obtain ⟨alone, known⟩ := replays
    simp only [applyOp, storeOp, Tables.upsertMdadmManagedTarget]
    rw [if_neg (no_conflict alone), if_neg known, Tables.row, lookup_insert]
    exact rowsOf_update_mdadm _ _ _ _ _
  | deleteMdadm id =>
    simp only [applyOp, storeOp, Tables.deleteMdadmManagedTarget]
    rw [Tables.row, lookup_erase]
    exact rowsOf_update_mdadm _ _ _ _ _
  | createTier row =>
    obtain ⟨absent, fillGiven, fullGiven, valid⟩ := replays
    obtain ⟨domains, created⟩ := Tables.createTierTarget_of_new absent fillGiven fullGiven valid
    simp only [applyOp, storeOp, created]
    exact (row_insert_tier tables row.id row).trans (writeRow_eq (.createTier row) rfl rfl)
  | deleteTier id =>
    cases stored : tables.tierTargets[id]? with
    | none =>
      simp only [applyOp, storeOp, Tables.deleteTierTarget, stored]
      exact (writeRow_of_absent _ (congrArg (Option.map Row.tier) stored) rfl).symm
    | some row =>
      obtain ⟨unmanaged, unreferenced⟩ := replays.resolve_left (by simp [stored])
      obtain ⟨domains, deleted⟩ := Tables.deleteTierTarget_of_free stored unreferenced
      simp only [applyOp, storeOp, deleted, erase_absent unmanaged]
      exact row_erase_tier tables id
  | updatePolicy id targetFillPct fullThresholdPct =>
    rw [← row_setTierTargetPolicy]
    simp only [applyOp, storeOp, Tables.updateTierTargetPolicy]
    cases stored : tables.tierTargets[id]? with
    | none =>
      cases validateFillPolicy targetFillPct fullThresholdPct <;>
        simp only [Tables.setTierTargetPolicy, stored]
    | some row => rw [replays.resolve_left (by simp [stored])]
  | updateActivity id health band trend =>
    simp only [applyOp, storeOp, Tables.updateTierTargetActivity]
    cases stored : tables.tierTargets[id]? with
    | none => exact (writeRow_of_absent _ (congrArg (Option.map Row.tier) stored) rfl).symm
    | some row =>
      obtain ⟨bandKept, trendKept⟩ := replays row stored
      refine (row_insert_tier tables id _).trans
        (writeRow_eq (.updateActivity id health band trend) rfl ?_)
      simp only [CacheOp.rowEffect, Tables.row, rowsOf, stored, Row.mapTier, Option.map_some,
        overwritten_of_kept bandKept, overwritten_of_kept trendKept]
  | upsertMdadmNs row =>
    obtain ⟨alone, known⟩ := replays
    simp only [applyOp, storeOp, Tables.upsertMdadmManagedNamespace]
    rw [if_neg (no_conflict alone), if_neg (not_not.mpr known), Tables.row, lookup_insert]
    exact rowsOf_update_ns _ _ _ _ _
  | deleteMdadmNs id =>
    simp only [applyOp, storeOp, Tables.deleteMdadmManagedNamespace]
    rw [Tables.row, lookup_erase]
    exact rowsOf_update_ns _ _ _ _ _

/-- The domain that a new target was ensured in is still there when it is inserted. -/
def DomainKept (tables : Tables) : CacheOp → Stage → Prop
  | .createTier row, .ready _ => row.placementDomain ∈ tables.placementDomains
  | _, _ => True

/-- A statement leaves the rows alone and the call goes on, or it does to the rows
what the call did to the maps. -/
inductive Written (tables : Tables) (op : CacheOp) : Tables × Progress → Prop where
  | goOn {after : Tables} (stage : Stage) (same : after.row = tables.row) : Written tables op (after, .goOn stage)
  | prune {after : Tables} (domain : String) (written : after.row = writeRow tables.row op) :
      Written tables op (after, .prune domain)
  | returned {after : Tables} (written : after.row = writeRow tables.row op) : Written tables op (after, .returned)

theorem statement_written {op : CacheOp} {stage : Stage} (replays : Replays tables op)
    (kept : DomainKept tables op stage) : Written tables op (statement tables op stage) := by
  cases op with
  | createTier row =>
    obtain ⟨absent, fillGiven, fullGiven, valid⟩ := replays
    have given := TierTargetRow.withDefaults_of_given fillGiven fullGiven
    cases stage with
    | called =>
      obtain ⟨domains, ensured⟩ := tables.ensurePlacementDomain_eq row.placementDomain
      simp only [statement, given, valid, ensured]
      exact .goOn _ (row_withDomains tables domains)
    | ready domain =>
      simp only [statement, given, Tables.insertTierTarget_of_new absent kept]
      exact .returned ((row_insert_tier tables row.id row).trans (writeRow_eq (.createTier row) rfl rfl))
  | deleteTier id =>
    cases stored : tables.tierTargets[id]? with
    | none =>
      have same : tables.row = writeRow tables.row (.deleteTier id) :=
        (writeRow_of_absent _ (congrArg (Option.map Row.tier) stored) rfl).symm
      cases stage with
      | called =>
        simp only [statement, stored]
        exact .returned same
      | ready domain =>
        simp only [statement, Tables.removeTierTarget, stored]
        exact .prune domain same
    | some row =>
      obtain ⟨unmanaged, unreferenced⟩ := replays.resolve_left (by simp [stored])
      cases stage with
      | called =>
        simp only [statement, stored]
        exact .goOn _ rfl
      | ready domain =>
        simp only [statement, Tables.removeTierTarget_of_free stored unreferenced, erase_absent unmanaged]
        exact .prune domain (row_erase_tier tables id)
  | updatePolicy id targetFillPct fullThresholdPct =>
    cases stage with
    | ready domain => exact .returned (row_setTierTargetPolicy id targetFillPct fullThresholdPct)
    | called =>
      cases stored : tables.tierTargets[id]? with
      | none =>
        have same : tables.row = writeRow tables.row (.updatePolicy id targetFillPct fullThresholdPct) :=
          (writeRow_of_absent _ (congrArg (Option.map Row.tier) stored) rfl).symm
        simp only [statement, stored]
        cases validateFillPolicy targetFillPct fullThresholdPct <;> exact .returned same
      | some row =>
        simp only [statement, stored, replays.resolve_left (by simp [stored])]
        exact .goOn _ rfl
  | upsertMdadm | deleteMdadm | updateActivity | upsertMdadmNs | deleteMdadmNs =>
    exact .returned (row_applyOp replays)

end Statements

def Writers.overtaken (state : Writers) (writer : Nat) : List Call :=
  state.inFlight.takeWhile fun call => call.writer ≠ writer

/-- A writer persists when no earlier change of the same row is still in flight, and
when the store will do what the maps did. -/
def PersistsInOrder (state : Writers) : WriterEvent → Prop
  | .persist writer =>
    ∀ call ∈ state.pendingCall writer,
      (∀ earlier ∈ state.overtaken writer, earlier.op.rowKey ≠ call.op.rowKey) ∧
      Replays state.drained call.op ∧ DomainKept state.tables call.op call.stage
  | .update .. | .takeBatch | .applyNext => True

/-- The maps hold the rows that the persisted operations give, once those in flight
are applied too.  Write-through mode queues nothing, and only it leaves a domain to
be pruned. -/
structure Ahead (state : Writers) : Prop where
  rows : (state.inFlight.map Call.op).foldl writeRow state.drained.row = state.maps.row
  direct : state.writeMode = .writeThrough → state.batch = [] ∧ state.queue = []
  prunes : state.writeMode = .writeBack → state.pruning = []

variable {state : Writers}

theorem pendingCall_split {writer : Nat} {call : Call}
    (pending : state.pendingCall writer = some call) :
    call.writer = writer ∧ ∃ later, state.inFlight = state.overtaken writer ++ call :: later ∧
      (state.returns writer).inFlight = state.overtaken writer ++ later := by
  obtain ⟨own, before, later, split, others⟩ := List.find?_eq_some_iff_append.mp pending
  have owned : call.writer = writer := by simpa using own
  have passed : state.overtaken writer = before := by
    unfold Writers.overtaken
    rw [split, takeWhile_append_of_pos (by simpa using others)]
    simp [owned]
  refine ⟨owned, later, by rw [passed, split], ?_⟩
  unfold Writers.returns
  rw [passed, split, eraseP_append_right _ (by simpa using others)]
  simp [owned]

theorem drained_direct (empty : state.batch = [] ∧ state.queue = []) :
    state.drained = state.tables := by
  simp [Writers.drained, empty]

theorem Ahead.of_direct (through : state.writeMode = .writeThrough)
    (empty : state.batch = [] ∧ state.queue = [])
    (rows : (state.inFlight.map Call.op).foldl writeRow state.tables.row = state.maps.row) : Ahead state := by
  refine ⟨(drained_direct empty).symm ▸ rows, fun _ => empty, ?_⟩
  intro back
  cases through.symm.trans back

theorem Ahead.update (ahead : Ahead state) (writer : Nat) (call : CacheEvent) :
    Ahead (state.update writer call) := by
  unfold Writers.update
  split
  case isTrue => exact ahead
  case isFalse =>
    cases call.op with
    | none => exact ahead
    | some op =>
      refine ⟨?_, ahead.direct, ahead.prunes⟩
      have appended : ((state.inFlight ++ [(⟨writer, op, .called⟩ : Call)]).map Call.op).foldl writeRow
          state.drained.row = writeRow state.maps.row op := by
        rw [map_append, foldl_append, ahead.rows]
        rfl
      exact appended.trans (row_write state.maps op).symm

/-- A call that overtakes no change of its row may be written first. -/
theorem Ahead.rows_returns (ahead : Ahead state) {writer : Nat} {call : Call}
    (pending : state.pendingCall writer = some call)
    (apart : ∀ earlier ∈ state.overtaken writer, earlier.op.rowKey ≠ call.op.rowKey) :
    ((state.returns writer).inFlight.map Call.op).foldl writeRow (writeRow state.drained.row call.op) =
      state.maps.row := by
  obtain ⟨-, later, split, erased⟩ := pendingCall_split pending
  have earlierApart : ∀ earlier ∈ (state.overtaken writer).map Call.op, earlier.rowKey ≠ call.op.rowKey := by
    intro earlier member
    obtain ⟨entry, inFlight, rfl⟩ := mem_map.mp member
    exact apart entry inFlight
  have before := ahead.rows
  rw [split, map_append, map_cons, foldl_updateCell_overtakes earlierApart] at before
  rw [erased, map_append]
  exact before

theorem map_op_settled (calls : List Call) (writer : Nat) (stage : Stage) :
    (calls.map fun call => if call.writer = writer then { call with stage } else call).map Call.op =
      calls.map Call.op := by
  rw [map_map]
  refine map_congr_left fun call _ => ?_
  by_cases own : call.writer = writer <;> simp [own]

theorem Ahead.statement (ahead : Ahead state) (through : state.writeMode = .writeThrough)
    {call : Call} (pending : state.pendingCall call.writer = some call)
    (apart : ∀ earlier ∈ state.overtaken call.writer, earlier.op.rowKey ≠ call.op.rowKey)
    {done : Tables × Progress} (written : Written state.tables call.op done) :
    Ahead ({ state with tables := done.1 }.settle call.writer done.2) := by
  have empty := ahead.direct through
  have returned := ahead.rows_returns pending apart
  have before := ahead.rows
  rw [drained_direct empty] at returned before
  cases written with
  | goOn stage same =>
    refine .of_direct through empty ?_
    simp only [Writers.settle, map_op_settled]
    rw [same]
    exact before
  | prune domain written =>
    refine .of_direct through empty ?_
    simp only [Writers.settle, Writers.returns, written]
    exact returned
  | returned written =>
    refine .of_direct through empty ?_
    simp only [Writers.settle, Writers.returns, written]
    exact returned

theorem Ahead.enqueue (ahead : Ahead state) (back : state.writeMode = .writeBack)
    {call : Call} (pending : state.pendingCall call.writer = some call)
    (apart : ∀ earlier ∈ state.overtaken call.writer, earlier.op.rowKey ≠ call.op.rowKey)
    (replays : Replays state.drained call.op) :
    Ahead ({ state with queue := state.queue ++ [call.op] }.returns call.writer) := by
  constructor
  case rows =>
    have drained : Writers.drained ({ state with queue := state.queue ++ [call.op] }.returns call.writer) =
        applyOp state.drained call.op := by
      simp [Writers.drained, Writers.returns, ← append_assoc]
    rw [drained, row_applyOp replays]
    exact ahead.rows_returns pending apart
  case direct =>
    intro through
    simp [Writers.returns, back] at through
  case prunes => exact ahead.prunes

theorem Ahead.through_of_pruning (ahead : Ahead state) {entry : Nat × Pruning} {writer : Nat}
    (found : state.pruning.find? (fun entry => entry.1 = writer) = some entry) :
    state.writeMode = .writeThrough := by
  cases mode : state.writeMode with
  | writeThrough => rfl
  | writeBack => simp [ahead.prunes mode] at found

theorem Ahead.pruneNext (ahead : Ahead state) (writer : Nat) : Ahead (state.pruneNext writer) := by
  unfold Writers.pruneNext
  split
  case h_1 => exact ahead
  case h_2 counting =>
    have through := ahead.through_of_pruning counting
    have before := ahead.rows
    rw [drained_direct (ahead.direct through)] at before
    split <;> exact .of_direct through (ahead.direct through) before
  case h_3 domain dropping =>
    have through := ahead.through_of_pruning dropping
    have before := ahead.rows
    rw [drained_direct (ahead.direct through)] at before
    obtain ⟨domains, dropped⟩ := state.tables.dropPlacementDomain_eq domain
    refine .of_direct through (ahead.direct through) ?_
    simp only [dropped, row_withDomains]
    exact before

theorem Ahead.persist (ahead : Ahead state) {writer : Nat}
    (inOrder : PersistsInOrder state (.persist writer)) : Ahead (state.persist writer) := by
  unfold Writers.persist
  cases pending : state.pendingCall writer with
  | none => exact ahead.pruneNext writer
  | some call =>
    obtain ⟨apart, replays, kept⟩ := inOrder call pending
    obtain ⟨rfl, -⟩ := pendingCall_split pending
    change Ahead (state.persistCall call)
    unfold Writers.persistCall
    split
    case h_1 through =>
      rw [drained_direct (ahead.direct through)] at replays
      exact ahead.statement through pending apart (statement_written replays kept)
    case h_2 back => exact ahead.enqueue back pending apart replays

theorem Ahead.takeBatch (ahead : Ahead state) : Ahead state.takeBatch := by
  unfold Writers.takeBatch
  cases taken : state.batch with
  | cons op rest => exact ahead
  | nil =>
    constructor
    case rows =>
      have before := ahead.rows
      simpa only [Writers.drained, taken, nil_append, append_nil] using before
    case direct => exact fun mode => ⟨(ahead.direct mode).2, rfl⟩
    case prunes => exact ahead.prunes

theorem Ahead.applyNext (ahead : Ahead state) : Ahead state.applyNext := by
  unfold Writers.applyNext
  cases taken : state.batch with
  | nil => exact ahead
  | cons op rest =>
    constructor
    case rows =>
      have before := ahead.rows
      simpa only [Writers.drained, taken, cons_append, foldl_cons] using before
    case direct =>
      intro mode
      have empty := (ahead.direct mode).1
      simp [taken] at empty
    case prunes => exact ahead.prunes

theorem Ahead.step {event : WriterEvent} (ahead : Ahead state)
    (inOrder : PersistsInOrder state event) : Ahead (state.step event) := by
  cases event with
  | update writer call => exact ahead.update writer call
  | persist writer => exact ahead.persist inOrder
  | takeBatch => exact ahead.takeBatch
  | applyNext => exact ahead.applyNext

theorem Ahead.start {tables : Tables} (schema : Schema tables) (writeMode : CacheWriteMode) :
    Ahead (.start writeMode tables) := by
  obtain ⟨mdadm, tier, ns⟩ := reload_byID schema
  refine ⟨?_, fun _ => ⟨rfl, rfl⟩, fun _ => rfl⟩
  simp only [Writers.start, Writers.drained, map_nil, append_nil, foldl_nil, Maps.row,
    mdadm, tier, ns, Tables.row]

/-- However calls, their writes to the queue or the store and the drain goroutine
interleave, once all calls have returned and the queue is empty, each row of the
tables is the one in memory, if no writer overtakes an earlier one of its row and the
store replays each write. -/
theorem last_change_of_each_row_is_persisted {tables : Tables} (schema : Schema tables)
    {writeMode : CacheWriteMode} {events : List WriterEvent}
    (inOrder : Guarded Writers.step PersistsInOrder (.start writeMode tables) events)
    (returned : (run Writers.step (.start writeMode tables) events).inFlight = [])
    (emptied : (run Writers.step (.start writeMode tables) events).queue = [] ∧
      (run Writers.step (.start writeMode tables) events).batch = []) (key : RowKey) :
    (run Writers.step (.start writeMode tables) events).tables.row key =
      (run Writers.step (.start writeMode tables) events).maps.row key := by
  have preserved : ∀ (state : Writers) (event : WriterEvent),
      Ahead state → PersistsInOrder state event → Ahead (state.step event) :=
    fun _ _ ahead inOrder => ahead.step inOrder
  have final := (guarded_run_invariant preserved inOrder (.start schema writeMode)).rows
  simp only [returned, Writers.drained, emptied, map_nil, append_nil, foldl_nil] at final
  exact congrFun final key

section Witness

def mediaNs : MdadmManagedNamespaceRow := ⟨"n1", "media", "/mnt/media"⟩

def differentRows : List WriterEvent :=
  [.update 1 (.createTierTarget fastTier none), .update 2 (.upsertMdadmNs mediaNs), .persist 2, .takeBatch,
    .persist 1, .applyNext, .takeBatch, .applyNext]

theorem different_rows_are_persisted :
    (run Writers.step (.start .writeBack freshTables) differentRows).tables.row =
      (run Writers.step (.start .writeBack freshTables) differentRows).maps.row := by
  have noNs : ∀ (id : String) (found : MdadmManagedNamespaceRow),
      freshTables.mdadmNamespaces[id]? = some found → found.poolName = mediaNs.poolName →
        id = mediaNs.namespaceID := by
    intro id found stored
    cases Std.ExtTreeMap.getElem?_empty.symm.trans stored
  have inOrder : Guarded Writers.step PersistsInOrder (.start .writeBack freshTables) differentRows := by
    refine ⟨trivial, trivial, ?_, trivial, ?_, trivial, trivial, trivial, trivial⟩
    · rintro call ⟨⟩
      exact ⟨by decide, ⟨noNs, by decide⟩, trivial⟩
    · rintro call ⟨⟩
      exact ⟨by decide, ⟨by decide, by decide, by decide, rfl⟩, trivial⟩
  exact funext (last_change_of_each_row_is_persisted freshTables_schema.1 inOrder (by decide) (by decide))

def crossedUpdates : List WriterEvent :=
  [.update 1 (.createTierTarget fastTier none), .persist 1,
    .update 1 (.updateTierTargetPolicy "t1" 40 90), .update 2 (.updateTierTargetPolicy "t1" 60 95),
    .persist 2, .persist 1, .takeBatch, .applyNext, .applyNext, .applyNext]

/-- The update that came second in memory is persisted first. -/
theorem crossed_updates_persist_the_earlier_row :
    (run Writers.step (.start .writeBack freshTables) crossedUpdates).inFlight = [] ∧
    (run Writers.step (.start .writeBack freshTables) crossedUpdates).queue = [] ∧
    (run Writers.step (.start .writeBack freshTables) crossedUpdates).batch = [] ∧
    (run Writers.step (.start .writeBack freshTables) crossedUpdates).maps.row (.tier "t1") =
      some (.tier { fastTier with targetFillPct := 60, fullThresholdPct := 95 }) ∧
    (run Writers.step (.start .writeBack freshTables) crossedUpdates).tables.row (.tier "t1") =
      some (.tier { fastTier with targetFillPct := 40, fullThresholdPct := 90 }) := by
  decide

end Witness

end Tierd.Targets
