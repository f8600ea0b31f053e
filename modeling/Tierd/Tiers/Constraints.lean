import Tierd.Tiers.Store

namespace Tierd.Tiers

open Tierd.Data List

section Guards

variable {tables : TierTables}

variable {poolName : String} {statement : Statement}

theorem assignArrayToTier_accepted {tierName arrayPath : String} {arrayID : Int}
    (accepted : tables.assignArrayToTier poolName tierName arrayID arrayPath = .ok statement) :
    ∃ (poolID : Nat) (slot : TierRow), tables.slot poolID (trimSpace tierName) = some slot ∧
      (tables.holder fun tier => tier.arrayID = some arrayID) = none ∧
      statement = .assignSlot poolID (trimSpace tierName) (some arrayID) (some (normalizeArrayPath arrayPath))
        .mdadm (normalizeArrayPath arrayPath) := by
  simp only [TierTables.assignArrayToTier, bind_eq_ok, checkPoolName_eq_ok, require_eq_ok, found_eq_ok] at accepted
  obtain ⟨_, _, _, _, _, _, _, _, pool, _, slot, slotFound, _, _, decided⟩ := accepted
  split at decided
  case h_1 => cases decided
  case h_2 unassigned => exact ⟨pool.id, slot, slotFound, unassigned, (pure_eq_ok.mp decided).symm⟩

theorem assignBackingToTier_accepted {tierName kind ref : String}
    (accepted : tables.assignBackingToTier poolName tierName kind ref = .ok statement) :
    ∃ poolID backing, statement =
      .assignSlot poolID (trimSpace tierName) none none backing (trimSpace ref) := by
  simp only [TierTables.assignBackingToTier, bind_eq_ok, checkPoolName_eq_ok, require_eq_ok, found_eq_ok]
    at accepted
  obtain ⟨_, _, _, _, backing, _, _, _, _, _, pool, _, _, _, _, _, decided⟩ := accepted
  split at decided
  case h_1 => cases decided
  case h_2 => exact ⟨pool.id, backing, (pure_eq_ok.mp decided).symm⟩

theorem clearTierAssignment_accepted {tierName : String}
    (accepted : tables.clearTierAssignment poolName tierName = .ok statement) :
    ∃ poolID, statement = .clearSlot poolID (trimSpace tierName) := by
  simp only [TierTables.clearTierAssignment, bind_eq_ok, checkPoolName_eq_ok, require_eq_ok, found_eq_ok,
    pure_eq_ok] at accepted
  obtain ⟨_, _, _, _, pool, _, _, _, rfl⟩ := accepted
  exact ⟨pool.id, rfl⟩

theorem transitionTierSlotState_accepted {tierName slot next : String}
    (accepted : tables.transitionTierSlotState tierName slot next = .ok (some statement)) :
    ∃ (poolID : Nat) (row : TierRow), tables.slot poolID slot = some row ∧ row.state ≠ .empty ∧
      ((next = "empty" ∧ statement = .emptySlot poolID slot) ∨
        (next ≠ "empty" ∧ ∃ state, state ≠ .empty ∧ statement = .setSlotState poolID slot state)) := by
  simp only [TierTables.transitionTierSlotState, bind_eq_ok, checkPoolName_eq_ok, require_eq_ok, found_eq_ok]
    at accepted
  obtain ⟨_, _, _, _, goal, known, pool, _, row, rowFound, decided⟩ := accepted
  have named : goal.text = next := by
    unfold validateTierSlotState at known
    split at known
    case h_1 listed =>
      cases known
      simpa using List.find?_some listed
    case h_2 => cases known
  split at decided
  case isTrue => simp at decided
  case isFalse changes =>
    simp only [bind_eq_ok, require_eq_ok] at decided
    obtain ⟨_, allowed, decided⟩ := decided
    refine ⟨pool.id, row, rowFound, ?_, ?_⟩
    · intro empty
      rw [empty] at allowed changes
      cases goal with
      | empty => exact changes rfl
      | assigned => simp [empty] at decided
      | degraded => simp [canTransition, validTierSlotTransitions] at allowed
      | missing => simp [canTransition, validTierSlotTransitions] at allowed
    · subst named
      cases goal with
      | empty =>
        simp only [pure_eq_ok, Option.some.injEq] at decided
        exact .inl ⟨rfl, decided.symm⟩
      | assigned =>
        simp only [bind_eq_ok, require_eq_ok, pure_eq_ok, Option.some.injEq] at decided
        obtain ⟨_, _, rfl⟩ := decided
        exact .inr ⟨by decide, .assigned, by decide, rfl⟩
      | degraded =>
        simp only [pure_eq_ok, Option.some.injEq] at decided
        exact .inr ⟨by decide, .degraded, by decide, decided.symm⟩
      | missing =>
        simp only [pure_eq_ok, Option.some.injEq] at decided
        exact .inr ⟨by decide, .missing, by decide, decided.symm⟩

theorem transitionTierInstanceState_accepted {name next : String}
    (accepted : tables.transitionTierInstanceState name next = .ok (some statement)) :
    ∃ pool state reason, tables.poolNamed name = some pool ∧ statement = .setPoolState name state reason ∧
      state ∈ validTierPoolTransitions pool.state ∧ (state = .error ↔ reason ≠ none) := by
  simp only [TierTables.transitionTierInstanceState, bind_eq_ok, checkPoolName_eq_ok, found_eq_ok] at accepted
  obtain ⟨_, _, state, _, pool, poolFound, decided⟩ := accepted
  split at decided
  case isTrue => simp at decided
  case isFalse changes =>
    simp only [bind_eq_ok, require_eq_ok, pure_eq_ok, Option.some.injEq] at decided
    obtain ⟨_, allowed, rfl⟩ := decided
    refine ⟨pool, state, _, poolFound, rfl, ?_, ?_⟩
    · simpa [canTransition, changes] using allowed
    · by_cases failed : state = .error <;> simp [failed]

theorem setTierInstanceError_accepted {name reason : String}
    (accepted : tables.setTierInstanceError name reason = .ok statement) :
    ∃ pool, tables.poolNamed name = some pool ∧
      statement = .setPoolState name .error (some (trimSpace reason)) ∧
      (pool.state = .error ∨ .error ∈ validTierPoolTransitions pool.state) := by
  simp only [TierTables.setTierInstanceError, bind_eq_ok, checkPoolName_eq_ok, require_eq_ok, found_eq_ok,
    pure_eq_ok] at accepted
  obtain ⟨_, _, _, _, pool, poolFound, _, allowed, rfl⟩ := accepted
  refine ⟨pool, poolFound, rfl, ?_⟩
  simpa [canTransition] using allowed

theorem addTierSlot_accepted {slotName : String} {rank targetFillPct fullThresholdPct : Int}
    (accepted : tables.addTierSlot poolName slotName rank targetFillPct fullThresholdPct = .ok statement) :
    ∃ pool, tables.poolNamed poolName = some pool ∧
      (∀ tier ∈ tables.tiers, tier.rankKey ≠ (pool.id, rank)) ∧
      statement = .insertSlot ⟨pool.id, trimSpace slotName, rank, .empty, none, none, targetFillPct,
        fullThresholdPct, .mdadm, none⟩ := by
  simp only [TierTables.addTierSlot, bind_eq_ok, checkPoolName_eq_ok, require_eq_ok, found_eq_ok, pure_eq_ok]
    at accepted
  obtain ⟨_, _, _, _, _, _, _, _, pool, poolFound, _, rankFree, rfl⟩ := accepted
  exact ⟨pool, poolFound, by simpa using rankFree, rfl⟩

theorem deleteTierSlot_accepted {slotName : String}
    (accepted : tables.deleteTierSlot poolName slotName = .ok statement) :
    ∃ poolID, statement = .deleteSlot poolID (trimSpace slotName) := by
  simp only [TierTables.deleteTierSlot, bind_eq_ok, checkPoolName_eq_ok, require_eq_ok, found_eq_ok, pure_eq_ok]
    at accepted
  obtain ⟨_, _, _, _, pool, _, _, _, _, _, rfl⟩ := accepted
  exact ⟨pool.id, rfl⟩

end Guards

section Schema

variable {tables : TierTables} (legal : Legal tables)

include legal

variable {poolID : Nat} {name : String}

theorem Legal.updateSlot {change : TierRow → TierRow}
    (kept : ∀ tier, (change tier).poolID = tier.poolID ∧ (change tier).name = tier.name ∧
      (change tier).rank = tier.rank)
    (checked : ∀ tier ∈ tables.tiers, tier.nameKey = (poolID, name) → TierCheck (change tier))
    (fresh : ∀ tier ∈ tables.tiers, tier.nameKey = (poolID, name) → ∀ id ∈ (change tier).arrayID,
      ∀ other ∈ tables.tiers, other.nameKey ≠ (poolID, name) → other.arrayID ≠ some id)
    (known : ∀ tier ∈ tables.tiers, tier.nameKey = (poolID, name) → ∀ id ∈ (change tier).arrayID,
      id ∈ tables.arrays) :
    Legal (tables.updateSlot poolID name change) := by
  have sameNames : (tables.updateSlot poolID name change).tiers.map TierRow.nameKey =
      tables.tiers.map TierRow.nameKey := map_changeRow fun tier => Prod.ext (kept tier).1 (kept tier).2.1
  have sameRanks : (tables.updateSlot poolID name change).tiers.map TierRow.rankKey =
      tables.tiers.map TierRow.rankKey := map_changeRow fun tier => Prod.ext (kept tier).1 (kept tier).2.2
  refine { legal with
    tierChecks := forall_changeRow legal.tierChecks checked
    tierNames := sameNames ▸ legal.tierNames
    tierRanks := sameRanks ▸ legal.tierRanks
    tierArrays := nodup_filterMap_changeRow legal.tierNames legal.tierArrays fresh
    tierPools := forall_changeRow legal.tierPools ?_
    arraysKnown := forall_changeRow legal.arraysKnown known }
  intro tier member _
  rw [(kept tier).1]
  exact legal.tierPools tier member

theorem Legal.updatePool {change : TierPoolRow → TierPoolRow}
    (kept : ∀ pool, (change pool).id = pool.id ∧ (change pool).name = pool.name)
    (checked : ∀ pool ∈ tables.pools, pool.name = name → PoolCheck (change pool)) :
    Legal (tables.updatePool name change) := by
  have sameIDs : (tables.updatePool name change).pools.map TierPoolRow.id = tables.pools.map TierPoolRow.id :=
    map_changeRow fun pool => (kept pool).1
  have sameNames : (tables.updatePool name change).pools.map TierPoolRow.name =
      tables.pools.map TierPoolRow.name := map_changeRow fun pool => (kept pool).2
  refine { legal with
    poolChecks := forall_changeRow legal.poolChecks checked
    poolIDs := sameIDs ▸ legal.poolIDs
    poolNames := sameNames ▸ legal.poolNames
    tierPools := ?_ }
  rw [sameIDs]
  exact legal.tierPools

theorem Legal.releaseSlot {change : TierRow → TierRow}
    (kept : ∀ tier, (change tier).poolID = tier.poolID ∧ (change tier).name = tier.name ∧
      (change tier).rank = tier.rank)
    (checked : ∀ tier ∈ tables.tiers, tier.nameKey = (poolID, name) → TierCheck (change tier))
    (released : ∀ tier, (change tier).arrayID = none) :
    Legal (tables.updateSlot poolID name change) := by
  refine legal.updateSlot kept checked ?_ ?_
  · intro tier _ _ id held
    simp [released] at held
  · intro tier _ _ id held
    simp [released] at held

theorem legal_assignArray {path : String} {arrayID : Int}
    (unassigned : (tables.holder fun tier => tier.arrayID = some arrayID) = none)
    (registered : arrayID ∈ tables.arrays) :
    Legal (Statement.apply tables (.assignSlot poolID name (some arrayID) (some path) .mdadm path)) := by
  refine legal.updateSlot (fun _ => ⟨rfl, rfl, rfl⟩) (fun _ _ _ => .inr ⟨by simp, by simp⟩) ?_ ?_
  · rintro tier _ _ id ⟨⟩ other member _ held
    obtain ⟨pool, poolMember, samePool⟩ := mem_map.mp (legal.tierPools other member)
    have missed := List.findSome?_eq_none_iff.mp unassigned other member
    simp only [held, decide_true, ↓reduceIte, Option.map_eq_none_iff, List.find?_eq_none,
      decide_eq_true_eq] at missed
    exact missed pool poolMember samePool
  · rintro tier _ _ id ⟨⟩
    exact registered

theorem legal_assignBacking {ref : String} {kind : BackingKind} :
    Legal (Statement.apply tables (.assignSlot poolID name none none kind ref)) :=
  legal.releaseSlot (fun _ => ⟨rfl, rfl, rfl⟩) (fun _ _ _ => .inr ⟨by simp, by simp⟩) fun _ => rfl

theorem legal_clearSlot :
    Legal (Statement.apply tables (.clearSlot poolID name)) :=
  legal.releaseSlot (fun _ => ⟨rfl, rfl, rfl⟩) (fun _ _ _ => .inl ⟨rfl, rfl, rfl⟩) fun _ => rfl

theorem legal_setSlotState {state : TierSlotState} {row : TierRow}
    (stored : tables.slot poolID name = some row) (occupied : row.state ≠ .empty) (goal : state ≠ .empty) :
    Legal (Statement.apply tables (.setSlotState poolID name state)) := by
  have rowMember := mem_of_find?_eq_some stored
  have rowKey : row.nameKey = (poolID, name) := by simpa using List.find?_some stored
  refine legal.updateSlot (fun _ => ⟨rfl, rfl, rfl⟩) ?_ ?_ ?_
  · intro tier member here
    obtain rfl : tier = row := inj_on_of_nodup_map legal.tierNames member rowMember (here.trans rowKey.symm)
    rcases legal.tierChecks tier member with ⟨empty, _⟩ | ⟨_, backed⟩
    · exact absurd empty occupied
    · exact .inr ⟨goal, backed⟩
  · intro tier member here id held other otherMember elsewhere otherHeld
    have same := eq_of_column legal.tierArrays member otherMember held otherHeld
    exact elsewhere (same ▸ here)
  · intro tier member _ id held
    exact legal.arraysKnown tier member id held

theorem legal_deleteSlot :
    Legal (Statement.apply tables (.deleteSlot poolID name)) := by
  have fewer : (tables.tiers.filter fun tier => tier.nameKey ≠ (poolID, name)).Sublist tables.tiers :=
    filter_sublist
  exact { legal with
    tierChecks := fun tier member => legal.tierChecks tier (fewer.subset member)
    tierNames := legal.tierNames.sublist (fewer.map _)
    tierRanks := legal.tierRanks.sublist (fewer.map _)
    tierArrays := legal.tierArrays.sublist (fewer.filterMap _)
    tierPools := fun tier member => legal.tierPools tier (fewer.subset member)
    arraysKnown := fun tier member => legal.arraysKnown tier (fewer.subset member) }

theorem legal_setPoolState {state : TierPoolState} {reason : Option String}
    (matched : (state = .error ∧ reason ≠ none) ∨ (state ≠ .error ∧ reason = none)) :
    Legal (Statement.apply tables (.setPoolState name state reason)) := by
  refine legal.updatePool (fun _ => ⟨rfl, rfl⟩) fun pool _ _ => ?_
  rcases matched with failed | ⟨sound, silent⟩
  · exact .inl failed
  · by_cases destroying : state = .destroying
    · exact .inr (.inl destroying)
    · exact .inr (.inr ⟨sound, destroying, silent⟩)

theorem legal_setPoolReason_iff {reason : String} :
    Legal (Statement.apply tables (.setPoolReason name reason)) ↔
      ∀ pool ∈ tables.pools, pool.name = name → pool.state = .error ∨ pool.state = .destroying := by
  constructor
  · intro after pool member here
    have written : { pool with errorReason := some reason } ∈
        changeRow TierPoolRow.name name (fun pool => { pool with errorReason := some reason }) tables.pools :=
      mem_changeRow.mpr (.inl ⟨pool, member, here, rfl⟩)
    rcases after.poolChecks _ written with ⟨failed, _⟩ | destroying | ⟨_, _, silent⟩
    · exact .inl failed
    · exact .inr destroying
    · cases silent
  · intro fitting
    refine legal.updatePool (fun _ => ⟨rfl, rfl⟩) fun pool member here => ?_
    rcases fitting pool member here with failed | destroying
    · exact .inl ⟨failed, by simp⟩
    · exact .inr (.inl destroying)

theorem legal_insertSlot_iff {pool : TierPoolRow} (poolMember : pool ∈ tables.pools)
    {rank targetFillPct fullThresholdPct : Int}
    (rankFree : ∀ tier ∈ tables.tiers, tier.rankKey ≠ (pool.id, rank)) :
    Legal (Statement.apply tables (.insertSlot ⟨pool.id, name, rank, .empty, none, none, targetFillPct,
        fullThresholdPct, .mdadm, none⟩)) ↔
      ∀ tier ∈ tables.tiers, tier.nameKey ≠ (pool.id, name) := by
  constructor
  · intro after tier member same
    have distinct := after.tierNames
    simp only [Statement.apply, map_append, map_cons, map_nil, nodup_append] at distinct
    exact distinct.2.2 _ (mem_map_of_mem member) _ (mem_singleton_self _) same
  · intro nameFree
    refine { legal with
      tierChecks := ?_, tierNames := ?_, tierRanks := ?_, tierArrays := ?_, tierPools := ?_, arraysKnown := ?_ }
    · intro tier member
      rcases mem_append.mp member with old | new
      · exact legal.tierChecks tier old
      · rw [mem_singleton.mp new]
        exact .inl ⟨rfl, rfl, rfl⟩
    · simp only [Statement.apply, map_append, map_cons, map_nil]
      refine legal.tierNames.append (nodup_singleton _) ?_
      simpa [TierRow.nameKey] using nameFree
    · simp only [Statement.apply, map_append, map_cons, map_nil]
      refine legal.tierRanks.append (nodup_singleton _) ?_
      simpa [TierRow.rankKey] using rankFree
    · simpa [Statement.apply] using legal.tierArrays
    · intro tier member
      rcases mem_append.mp member with old | new
      · exact legal.tierPools tier old
      · rw [mem_singleton.mp new]
        exact mem_map_of_mem poolMember
    · intro tier member id held
      rcases mem_append.mp member with old | new
      · exact legal.arraysKnown tier old id held
      · rw [mem_singleton.mp new] at held
        cases held

end Schema

/-- A call that passes the guards succeeds, and a call that returns an error leaves
both tables. -/
def GuardsSuffice (db : TierDb) (op : TierOp) : Prop :=
  (∀ planned, op.plan db.toTierTables = .ok planned → (db.call op).2 = none) ∧
    ((db.call op).2 ≠ none → (db.call op).1.toTierTables = db.toTierTables)

/-- Where the schema asks for more than the guards do: the array is registered, a slot
is not emptied by a state change, a reason is recorded only for a pool in error or
being destroyed, and the name of a new slot is new in its pool. -/
def MeetsSchema (db : TierDb) (op : TierOp) : Prop :=
  ∀ planned, op.plan db.toTierTables = .ok (some planned) →
    match op with
    | .assignArrayToTier _ _ arrayID _ => arrayID ∈ db.arrays
    | .transitionTierSlotState _ _ next => next ≠ "empty"
    | .setTierExpansionError name _ =>
      ∀ pool ∈ db.pools, pool.name = name → pool.state = .error ∨ pool.state = .destroying
    | .addTierSlot poolName slotName _ _ _ =>
      ∀ pool ∈ db.poolNamed poolName, ∀ tier ∈ db.tiers, tier.nameKey ≠ (pool.id, trimSpace slotName)
    | .assignBackingToTier .. | .clearTierAssignment .. | .transitionTierInstanceState ..
    | .setTierInstanceError .. | .deleteTierSlot .. => True

theorem call_rejected (db : TierDb) (op : TierOp) (rejected : (db.call op).2 ≠ none) :
    (db.call op).1 = db := by
  unfold TierDb.call at rejected ⊢
  cases planned : op.plan db.toTierTables with
  | error error => rfl
  | ok statement =>
    simp only [planned] at rejected ⊢
    cases statement with
    | none => rfl
    | some statement =>
      simp only at rejected ⊢
      cases executed : db.exec statement with
      | none => rfl
      | some after => simp [executed] at rejected

theorem call_succeeds_iff {db : TierDb} {op : TierOp} {statement : Statement}
    (planned : op.plan db.toTierTables = .ok (some statement)) :
    (db.call op).2 = none ↔ Legal (statement.apply db.toTierTables) := by
  simp only [TierDb.call, planned, TierDb.exec]
  by_cases legal : Legal (statement.apply db.toTierTables) <;> simp [legal]

theorem guardsSuffice_iff_legal (db : TierDb) (op : TierOp) :
    GuardsSuffice db op ↔ ∀ statement, op.plan db.toTierTables = .ok (some statement) →
      Legal (statement.apply db.toTierTables) := by
  constructor
  · intro enough statement planned
    exact (call_succeeds_iff planned).mp (enough.1 _ planned)
  · intro writes
    refine ⟨?_, fun rejected => congrArg TierDb.toTierTables (call_rejected db op rejected)⟩
    intro decision planned
    cases decision with
    | none => simp [TierDb.call, planned]
    | some statement => exact (call_succeeds_iff planned).mpr (writes statement planned)

/-- For every database and every call: the guards suffice exactly when the call also
meets what only the schema asks. -/
theorem guards_suffice_iff_meets_schema (db : TierDb) (op : TierOp) :
    GuardsSuffice db op ↔ MeetsSchema db op := by
  rw [guardsSuffice_iff_legal]
  refine forall₂_congr fun statement planned => ?_
  cases op with
  | assignArrayToTier poolName tierName arrayID arrayPath =>
    obtain ⟨accepted, decided, ⟨⟩⟩ := map_eq_ok.mp planned
    obtain ⟨poolID, slot, stored, unassigned, rfl⟩ := assignArrayToTier_accepted decided
    refine ⟨fun after => ?_, fun registered => legal_assignArray db.legal unassigned registered⟩
    have slotMember := mem_of_find?_eq_some stored
    have slotKey : slot.nameKey = (poolID, trimSpace tierName) := by simpa using List.find?_some stored
    exact after.arraysKnown _ (mem_changeRow.mpr (.inl ⟨slot, slotMember, slotKey, rfl⟩)) arrayID rfl
  | assignBackingToTier poolName tierName kind ref =>
    obtain ⟨accepted, decided, ⟨⟩⟩ := map_eq_ok.mp planned
    obtain ⟨poolID, backing, rfl⟩ := assignBackingToTier_accepted decided
    exact iff_of_true (legal_assignBacking db.legal) trivial
  | clearTierAssignment poolName tierName =>
    obtain ⟨accepted, decided, ⟨⟩⟩ := map_eq_ok.mp planned
    obtain ⟨poolID, rfl⟩ := clearTierAssignment_accepted decided
    exact iff_of_true (legal_clearSlot db.legal) trivial
  | transitionTierSlotState tierName slot next =>
    obtain ⟨poolID, row, stored, occupied, ⟨emptied, rfl⟩ | ⟨other, state, goal, rfl⟩⟩ :=
      transitionTierSlotState_accepted planned
    · refine iff_of_false (fun after => ?_) (fun kept => kept emptied)
      have rowMember := mem_of_find?_eq_some stored
      have rowKey : row.nameKey = (poolID, slot) := by simpa using List.find?_some stored
      rcases after.tierChecks _ (mem_changeRow.mpr (.inl ⟨row, rowMember, rowKey, rfl⟩)) with
        ⟨_, unbacked, _⟩ | ⟨kept, _⟩
      · rcases db.legal.tierChecks row rowMember with ⟨empty, _⟩ | ⟨_, backed⟩
        · exact occupied empty
        · exact backed unbacked
      · exact kept rfl
    · exact iff_of_true (legal_setSlotState db.legal stored occupied goal) other
  | transitionTierInstanceState name next =>
    obtain ⟨pool, state, reason, _, rfl, _, matched⟩ := transitionTierInstanceState_accepted planned
    refine iff_of_true (legal_setPoolState db.legal ?_) trivial
    by_cases failed : state = .error
    · exact .inl ⟨failed, matched.mp failed⟩
    · exact .inr ⟨failed, not_not.mp fun given => failed (matched.mpr given)⟩
  | setTierInstanceError name reason =>
    obtain ⟨accepted, decided, ⟨⟩⟩ := map_eq_ok.mp planned
    obtain ⟨pool, _, rfl, _⟩ := setTierInstanceError_accepted decided
    exact iff_of_true (legal_setPoolState db.legal (.inl ⟨rfl, by simp⟩)) trivial
  | setTierExpansionError name reason =>
    obtain ⟨accepted, decided, ⟨⟩⟩ := map_eq_ok.mp planned
    simp only [TierTables.setTierExpansionError, bind_eq_ok, pure_eq_ok] at decided
    obtain ⟨_, _, rfl⟩ := decided
    exact legal_setPoolReason_iff db.legal
  | addTierSlot poolName slotName rank targetFillPct fullThresholdPct =>
    obtain ⟨accepted, decided, ⟨⟩⟩ := map_eq_ok.mp planned
    obtain ⟨pool, stored, rankFree, rfl⟩ := addTierSlot_accepted decided
    rw [legal_insertSlot_iff db.legal (mem_of_find?_eq_some stored) rankFree]
    simp only [stored, Option.mem_def, Option.some.injEq, forall_eq']
  | deleteTierSlot poolName slotName =>
    obtain ⟨accepted, decided, ⟨⟩⟩ := map_eq_ok.mp planned
    obtain ⟨poolID, rfl⟩ := deleteTierSlot_accepted decided
    exact iff_of_true (legal_deleteSlot db.legal) trivial

/-- A healthy pool with one assigned slot. -/
def healthyPool : TierDb where
  pools := [⟨1, "media", .healthy, none⟩]
  tiers := [⟨1, "NVME", 1, .assigned, some 3, some "/dev/md0", 50, 95, .mdadm, some "/dev/md0"⟩]
  arrays := [3]
  legal := by decide

/-- The schema rejects a recorded expansion error of a healthy pool, and a slot that a
state change empties. -/
theorem accepted_calls_are_rejected_by_schema :
    ((TierOp.setTierExpansionError "media" "lvextend failed").plan healthyPool.toTierTables =
        .ok (some (.setPoolReason "media" "lvextend failed")) ∧
      (healthyPool.call (.setTierExpansionError "media" "lvextend failed")).2 =
        some (.sql "set tier expansion error")) ∧
    ((TierOp.transitionTierSlotState "media" "NVME" "empty").plan healthyPool.toTierTables =
        .ok (some (.emptySlot 1 "NVME")) ∧
      (healthyPool.call (.transitionTierSlotState "media" "NVME" "empty")).2 =
        some (.sql "clear tier slot")) := by
  decide

end Tierd.Tiers
