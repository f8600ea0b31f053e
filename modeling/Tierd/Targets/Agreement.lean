import Tierd.Data.Runs
import Tierd.Targets.Cache

namespace Tierd.Targets

open Tierd.Data

/-- The maps hold the rows of the tables. -/
structure Mirrors (maps : Maps) (tables : Tables) : Prop where
  mdadm : Mirrored MdadmManagedTargetRow.tierTargetID MdadmManagedTargetRow.poolTierKey
    maps.mdadmByID maps.mdadmByPoolTier tables.mdadmTargets
  tier : Mirrored TierTargetRow.id TierTargetRow.backingRefKey
    maps.tierByID maps.tierByBackingRef tables.tierTargets
  ns : Mirrored MdadmManagedNamespaceRow.namespaceID MdadmManagedNamespaceRow.poolKey
    maps.nsByID maps.nsByPool tables.mdadmNamespaces

/-- What the schema guarantees of the tables: rows lie under their primary keys and
the `UNIQUE` columns are distinct. -/
structure Schema (tables : Tables) : Prop where
  mdadmKeyed : Keyed MdadmManagedTargetRow.tierTargetID tables.mdadmTargets
  tierKeyed : Keyed TierTargetRow.id tables.tierTargets
  nsKeyed : Keyed MdadmManagedNamespaceRow.namespaceID tables.mdadmNamespaces
  poolTierUnique : Distinct MdadmManagedTargetRow.poolTierKey tables.mdadmTargets
  poolUnique : Distinct MdadmManagedNamespaceRow.poolKey tables.mdadmNamespaces

theorem mem_listed {ν : Type} {table : Std.ExtTreeMap String ν} {le : ν → ν → Prop} [DecidableRel le]
    (row : ν) :
    row ∈ (table.toList.map Prod.snd).insertionSort le ↔ ∃ id : String, table[id]? = some row := by
  rw [(List.perm_insertionSort le _).mem_iff, List.mem_map]
  constructor
  · rintro ⟨⟨id, found⟩, member, rfl⟩
    exact ⟨id, Std.ExtTreeMap.mem_toList_iff_getElem?_eq_some.mp member⟩
  · rintro ⟨id, stored⟩
    exact ⟨(id, row), Std.ExtTreeMap.mem_toList_iff_getElem?_eq_some.mpr stored, rfl⟩

theorem Mirrors.eq_reload {maps : Maps} {tables : Tables} (mirrors : Mirrors maps tables) :
    maps = reload tables := by
  obtain ⟨mdadmByID, mdadmByPoolTier⟩ := mirrors.mdadm.eq_load tables.listMdadmManagedTargets mem_listed
  obtain ⟨tierByID, tierByBackingRef⟩ := mirrors.tier.eq_load tables.listTierTargets mem_listed
  obtain ⟨nsByID, nsByPool⟩ := mirrors.ns.eq_load tables.listMdadmManagedNamespaces mem_listed
  cases maps
  simp only at mdadmByID mdadmByPoolTier tierByID tierByBackingRef nsByID nsByPool
  subst mdadmByID mdadmByPoolTier tierByID tierByBackingRef nsByID nsByPool
  rfl

theorem Schema.mirrors_reload {tables : Tables} (schema : Schema tables)
    (refs : Distinct TierTargetRow.backingRefKey tables.tierTargets) : Mirrors (reload tables) tables where
  mdadm := .load schema.mdadmKeyed schema.poolTierUnique mem_listed
  tier := .load schema.tierKeyed refs mem_listed
  ns := .load schema.nsKeyed schema.poolUnique mem_listed

/-- Conditions on the maps before a write, on the ids of `managed_namespaces` and on
the tier targets that objects refer to. -/
def Admissible (maps : Maps) (managedNamespaces objectTiers : List String) : CacheOp → Prop
  | .upsertMdadm row =>
    maps.tierByID row.tierTargetID ≠ none ∧
    (∀ found ∈ maps.mdadmByPoolTier row.poolTier, found.tierTargetID = row.tierTargetID) ∧
    (∀ old ∈ maps.mdadmByID row.tierTargetID, old.poolTier = row.poolTier)
  | .deleteMdadm _ => True
  | .createTier row =>
    maps.tierByID row.id = none ∧ row.targetFillPct ≠ 0 ∧ row.fullThresholdPct ≠ 0 ∧
    validateFillPolicy row.targetFillPct row.fullThresholdPct = .ok () ∧
    (∀ key ∈ row.backingRefKey, maps.tierByBackingRef key = none)
  | .deleteTier id => maps.tierByID id = none ∨ (maps.mdadmByID id = none ∧ id ∉ objectTiers)
  | .updatePolicy id targetFillPct fullThresholdPct =>
    maps.tierByID id = none ∨ validateFillPolicy targetFillPct fullThresholdPct = .ok ()
  | .updateActivity id _ band trend =>
    ∀ row ∈ maps.tierByID id, (band ≠ "" ∨ row.activityBand = "") ∧ (trend ≠ "" ∨ row.activityTrend = "")
  | .upsertMdadmNs row =>
    row.namespaceID ∈ managedNamespaces ∧
    (∀ found ∈ maps.nsByPool row.poolName, found.namespaceID = row.namespaceID) ∧
    (∀ old ∈ maps.nsByID row.namespaceID, old.poolName = row.poolName)
  | .deleteMdadmNs _ => True

theorem no_conflict {ν κ : Type} [DecidableEq κ] {table : Std.ExtTreeMap String ν} {column : ν → κ}
    {id : String} {value : κ}
    (alone : ∀ (other : String) (found : ν), table[other]? = some found → column found = value → other = id) :
    ¬ (table.toList.any fun entry => entry.1 ≠ id ∧ column entry.2 = value) = true := by
  intro conflict
  obtain ⟨⟨other, found⟩, member, clash⟩ := List.any_eq_true.mp conflict
  obtain ⟨different, shares⟩ := of_decide_eq_true clash
  exact different (alone other found (Std.ExtTreeMap.mem_toList_iff_getElem?_eq_some.mp member) shares)

theorem overwritten_of_kept {given old : String} (kept : given ≠ "" ∨ old = "") :
    (if given ≠ "" then given else old) = given := by
  split
  case isTrue => rfl
  case isFalse empty => rw [kept.resolve_left empty, not_not.mp empty]

section Ops

variable {maps : Maps} {tables : Tables} (mirrors : Mirrors maps tables)

include mirrors

theorem Mirrors.upsertMdadm {row : MdadmManagedTargetRow}
    (known : maps.tierByID row.tierTargetID ≠ none)
    (alone : ∀ found ∈ maps.mdadmByPoolTier row.poolTier, found.tierTargetID = row.tierTargetID)
    (keeps : ∀ old ∈ maps.mdadmByID row.tierTargetID, old.poolTier = row.poolTier) :
    Mirrors (maps.upsertMdadmTarget row) (tables.upsertMdadmManagedTarget row).1 := by
  have noConflict : ∀ (id : String) (found : MdadmManagedTargetRow), tables.mdadmTargets[id]? = some found →
      found.poolTier = row.poolTier → id = row.tierTargetID := by
    intro id found stored sharesKey
    have indexed := (mirrors.mdadm.indexed row.poolTier found).mpr ⟨⟨id, stored⟩, congrArg some sharesKey⟩
    exact (mirrors.mdadm.keyed id found stored).symm.trans (alone found indexed)
  have tierExists : tables.tierTargets[row.tierTargetID]? ≠ none := by
    rwa [← mirrors.tier.byID_eq]
  rw [Tables.upsertMdadmManagedTarget, if_neg (no_conflict noConflict), if_neg tierExists]
  refine { mirrors with mdadm := mirrors.mdadm.insert ?_ ?_ }
  · exact fun old stored => congrArg some (keeps old stored)
  · intro key found keyed indexed
    exact alone found (Option.some.inj keyed ▸ indexed)

theorem Mirrors.deleteMdadm (id : String) :
    Mirrors (maps.deleteMdadmTarget id) (tables.deleteMdadmManagedTarget id).1 := by
  unfold Maps.deleteMdadmTarget
  cases stored : maps.mdadmByID id with
  | none => exact { mirrors with mdadm := mirrors.mdadm.erase_absent stored }
  | some row => exact { mirrors with mdadm := mirrors.mdadm.erase stored }

theorem Mirrors.setTier {id : String} {old row : TierTargetRow} (stored : maps.tierByID id = some old)
    (sameID : row.id = old.id) (sameRef : row.backingRefKey = old.backingRefKey) :
    Mirrors (maps.setTier id row) { tables with tierTargets := tables.tierTargets.insert id row } := by
  have found : tables.tierTargets[id]? = some old := by rwa [mirrors.tier.byID_eq] at stored
  obtain rfl : row.id = id := sameID.trans (mirrors.tier.keyed id old found)
  refine { mirrors with tier := mirrors.tier.insert ?_ ?_ }
  · intro before storedBefore
    cases stored.symm.trans storedBefore
    exact sameRef.symm
  · intro key other keyed indexed
    have keyedOld : old.backingRefKey = some key := sameRef ▸ keyed
    cases ((mirrors.tier.indexed key old).mpr ⟨⟨row.id, found⟩, keyedOld⟩).symm.trans indexed
    exact sameID.symm

theorem Mirrors.createTier {row : TierTargetRow} (fresh : maps.tierByID row.id = none)
    (fillGiven : row.targetFillPct ≠ 0) (fullGiven : row.fullThresholdPct ≠ 0)
    (valid : validateFillPolicy row.targetFillPct row.fullThresholdPct = .ok ())
    (unused : ∀ key ∈ row.backingRefKey, maps.tierByBackingRef key = none) :
    Mirrors (maps.createTierTarget row) (tables.createTierTarget row).1 := by
  have absent : tables.tierTargets[row.id]? = none := by rwa [mirrors.tier.byID_eq] at fresh
  obtain ⟨domains, created⟩ := Tables.createTierTarget_of_new absent fillGiven fullGiven valid
  rw [created]
  refine ⟨mirrors.mdadm, mirrors.tier.insert ?_ ?_, mirrors.ns⟩
  · intro old stored
    simp [fresh] at stored
  · intro key found keyed indexed
    simp [unused key keyed] at indexed

theorem Mirrors.deleteTier {id : String}
    (safe : maps.tierByID id = none ∨ (maps.mdadmByID id = none ∧ id ∉ tables.objectTiers)) :
    Mirrors (maps.deleteTierTarget id) (tables.deleteTierTarget id).1 := by
  cases stored : maps.tierByID id with
  | none =>
    have absent : tables.tierTargets[id]? = none := by rwa [mirrors.tier.byID_eq] at stored
    simp only [Maps.deleteTierTarget, Tables.deleteTierTarget, stored, absent]
    exact mirrors
  | some row =>
    have present : tables.tierTargets[id]? = some row := by rwa [mirrors.tier.byID_eq] at stored
    obtain ⟨unmanaged, unreferenced⟩ := safe.resolve_left (by simp [stored])
    obtain ⟨domains, deleted⟩ := Tables.deleteTierTarget_of_free present unreferenced
    simp only [Maps.deleteTierTarget, stored, deleted]
    exact ⟨mirrors.mdadm.erase_absent unmanaged, mirrors.tier.erase stored, mirrors.ns⟩

theorem Mirrors.updatePolicy {id : String} {targetFillPct fullThresholdPct : Int}
    (safe : maps.tierByID id = none ∨ validateFillPolicy targetFillPct fullThresholdPct = .ok ()) :
    Mirrors (maps.updateTierTargetPolicy id targetFillPct fullThresholdPct)
      (tables.updateTierTargetPolicy id targetFillPct fullThresholdPct).1 := by
  unfold Maps.updateTierTargetPolicy Tables.updateTierTargetPolicy Tables.setTierTargetPolicy
  rw [← mirrors.tier.byID_eq]
  cases stored : maps.tierByID id with
  | none =>
    cases validateFillPolicy targetFillPct fullThresholdPct <;> exact mirrors
  | some row =>
    rw [safe.resolve_left (by simp [stored])]
    exact mirrors.setTier stored rfl rfl

theorem Mirrors.updateActivity {id band trend : String} (health : String)
    (safe : ∀ row ∈ maps.tierByID id,
      (band ≠ "" ∨ row.activityBand = "") ∧ (trend ≠ "" ∨ row.activityTrend = "")) :
    Mirrors (maps.updateTierTargetActivity id health band trend)
      (tables.updateTierTargetActivity id health band trend).1 := by
  unfold Maps.updateTierTargetActivity Tables.updateTierTargetActivity
  rw [← mirrors.tier.byID_eq]
  cases stored : maps.tierByID id with
  | none => exact mirrors
  | some row =>
    obtain ⟨bandKept, trendKept⟩ := safe row stored
    simp only [overwritten_of_kept bandKept, overwritten_of_kept trendKept]
    exact mirrors.setTier stored rfl rfl

theorem Mirrors.upsertNs {row : MdadmManagedNamespaceRow}
    (known : row.namespaceID ∈ tables.managedNamespaces)
    (alone : ∀ found ∈ maps.nsByPool row.poolName, found.namespaceID = row.namespaceID)
    (keeps : ∀ old ∈ maps.nsByID row.namespaceID, old.poolName = row.poolName) :
    Mirrors (maps.upsertMdadmNs row) (tables.upsertMdadmManagedNamespace row).1 := by
  have noConflict : ∀ (id : String) (found : MdadmManagedNamespaceRow),
      tables.mdadmNamespaces[id]? = some found → found.poolName = row.poolName → id = row.namespaceID := by
    intro id found stored sharesPool
    have indexed := (mirrors.ns.indexed row.poolName found).mpr ⟨⟨id, stored⟩, congrArg some sharesPool⟩
    exact (mirrors.ns.keyed id found stored).symm.trans (alone found indexed)
  rw [Tables.upsertMdadmManagedNamespace, if_neg (no_conflict noConflict), if_neg (not_not.mpr known)]
  refine { mirrors with ns := mirrors.ns.insert ?_ ?_ }
  · exact fun old stored => congrArg some (keeps old stored)
  · intro key found keyed indexed
    exact alone found (Option.some.inj keyed ▸ indexed)

theorem Mirrors.deleteNs (id : String) :
    Mirrors (maps.deleteMdadmNs id) (tables.deleteMdadmManagedNamespace id).1 := by
  unfold Maps.deleteMdadmNs
  cases stored : maps.nsByID id with
  | none => exact { mirrors with ns := mirrors.ns.erase_absent stored }
  | some row => exact { mirrors with ns := mirrors.ns.erase stored }

theorem Mirrors.write {op : CacheOp}
    (admissible : Admissible maps tables.managedNamespaces tables.objectTiers op) :
    Mirrors (maps.write op) (applyOp tables op) := by
  cases op with
  | upsertMdadm row =>
    obtain ⟨known, alone, keeps⟩ := admissible
    exact mirrors.upsertMdadm known alone keeps
  | deleteMdadm id => exact mirrors.deleteMdadm id
  | createTier row =>
    obtain ⟨fresh, fillGiven, fullGiven, valid, unused⟩ := admissible
    exact mirrors.createTier fresh fillGiven fullGiven valid unused
  | deleteTier id => exact mirrors.deleteTier admissible
  | updatePolicy id targetFillPct fullThresholdPct => exact mirrors.updatePolicy admissible
  | updateActivity id health band trend => exact mirrors.updateActivity health admissible
  | upsertMdadmNs row =>
    obtain ⟨known, alone, keeps⟩ := admissible
    exact mirrors.upsertNs known alone keeps
  | deleteMdadmNs id => exact mirrors.deleteNs id

end Ops

theorem applyOp_outside (tables : Tables) (op : CacheOp) :
    (applyOp tables op).managedNamespaces = tables.managedNamespaces ∧
      (applyOp tables op).objectTiers = tables.objectTiers := by
  unfold applyOp storeOp
  cases op with
  | upsertMdadm row =>
    simp only [Tables.upsertMdadmManagedTarget]
    split_ifs <;> exact ⟨rfl, rfl⟩
  | deleteMdadm id => exact ⟨rfl, rfl⟩
  | createTier row =>
    obtain ⟨domains, ensured⟩ := tables.ensurePlacementDomain_eq row.placementDomain
    simp only [Tables.createTierTarget, ensured, Tables.insertTierTarget]
    split
    · exact ⟨rfl, rfl⟩
    · split_ifs <;> exact ⟨rfl, rfl⟩
  | deleteTier id =>
    cases stored : tables.tierTargets[id]? with
    | none => simp [Tables.deleteTierTarget, stored]
    | some row =>
      by_cases referred : id ∈ tables.objectTiers
      · simp [Tables.deleteTierTarget, Tables.removeTierTarget, stored, referred]
      · obtain ⟨domains, deleted⟩ := Tables.deleteTierTarget_of_free stored referred
        simp [deleted]
  | updatePolicy id targetFillPct fullThresholdPct =>
    simp only [Tables.updateTierTargetPolicy, Tables.setTierTargetPolicy]
    cases validateFillPolicy targetFillPct fullThresholdPct with
    | error problem => exact ⟨rfl, rfl⟩
    | ok => cases tables.tierTargets[id]? <;> exact ⟨rfl, rfl⟩
  | updateActivity id health band trend =>
    simp only [Tables.updateTierTargetActivity]
    cases tables.tierTargets[id]? <;> exact ⟨rfl, rfl⟩
  | upsertMdadmNs row =>
    simp only [Tables.upsertMdadmManagedNamespace]
    split_ifs <;> exact ⟨rfl, rfl⟩
  | deleteMdadmNs id => exact ⟨rfl, rfl⟩

theorem foldl_applyOp_outside (tables : Tables) (ops : List CacheOp) :
    (ops.foldl applyOp tables).managedNamespaces = tables.managedNamespaces ∧
      (ops.foldl applyOp tables).objectTiers = tables.objectTiers := by
  induction ops generalizing tables with
  | nil => exact ⟨rfl, rfl⟩
  | cons op rest ih =>
    obtain ⟨namespaces, objects⟩ := applyOp_outside tables op
    exact ⟨(ih _).1.trans namespaces, (ih _).2.trans objects⟩

def InSchema (cache : TargetCache) (event : CacheEvent) : Prop :=
  ∀ op ∈ event.op, Admissible cache.maps cache.tables.managedNamespaces cache.tables.objectTiers op

/-- The maps mirror the tables behind the queue, and write-through mode queues nothing. -/
structure Consistent (cache : TargetCache) : Prop where
  mirrors : Mirrors cache.maps cache.drained
  direct : cache.writeMode = .writeThrough → cache.queue = []

theorem write_maps (cache : TargetCache) (op : CacheOp) :
    (cache.write op).maps = cache.maps.write op := by
  unfold TargetCache.write TargetCache.persist
  cases cache.writeMode <;> rfl

theorem drained_write {cache : TargetCache} (direct : cache.writeMode = .writeThrough → cache.queue = [])
    (op : CacheOp) : (cache.write op).drained = applyOp cache.drained op := by
  unfold TargetCache.write TargetCache.persist TargetCache.drained
  cases mode : cache.writeMode with
  | writeThrough => simp [direct mode]
  | writeBack => simp

theorem drained_drainNext (cache : TargetCache) : cache.drainNext.drained = cache.drained := by
  unfold TargetCache.drainNext TargetCache.drained
  cases waiting : cache.queue with
  | nil => simp [waiting]
  | cons op rest => simp

theorem Consistent.write {cache : TargetCache} (consistent : Consistent cache) {op : CacheOp}
    (admissible : Admissible cache.maps cache.tables.managedNamespaces cache.tables.objectTiers op) :
    Consistent (cache.write op) where
  mirrors := by
    obtain ⟨namespaces, objects⟩ := foldl_applyOp_outside cache.tables cache.queue
    rw [← namespaces, ← objects] at admissible
    rw [write_maps, drained_write consistent.direct]
    exact consistent.mirrors.write admissible
  direct := by
    unfold TargetCache.write TargetCache.persist
    cases mode : cache.writeMode with
    | writeThrough => exact fun _ => consistent.direct mode
    | writeBack => simp

theorem Consistent.drainNext {cache : TargetCache} (consistent : Consistent cache) :
    Consistent cache.drainNext where
  mirrors := by
    rw [drained_drainNext]
    unfold TargetCache.drainNext
    split <;> exact consistent.mirrors
  direct := by
    unfold TargetCache.drainNext
    cases waiting : cache.queue with
    | nil => exact fun _ => waiting
    | cons op rest =>
      intro mode
      have empty := consistent.direct mode
      simp [waiting] at empty

theorem Consistent.step {cache : TargetCache} {event : CacheEvent} (consistent : Consistent cache)
    (inSchema : InSchema cache event) : Consistent (cache.step event) := by
  unfold TargetCache.step
  cases written : event.op with
  | some op => exact consistent.write (inSchema op written)
  | none =>
    simp only
    split
    case isTrue => exact consistent.drainNext
    case isFalse => exact consistent

/-- After any run of admissible writes from a loaded cache, draining the queue leaves
in the tables what the maps hold. -/
theorem drained_tables_match_maps {tables : Tables} (schema : Schema tables)
    (refs : Distinct TierTargetRow.backingRefKey tables.tierTargets) {writeMode : CacheWriteMode}
    {events : List CacheEvent}
    (admissible : Guarded TargetCache.step InSchema (newTargetCache writeMode tables) events) :
    (run TargetCache.step (newTargetCache writeMode tables) events).maps =
      reload (run TargetCache.step (newTargetCache writeMode tables) events).drained := by
  have loaded : Consistent (newTargetCache writeMode tables) :=
    ⟨schema.mirrors_reload refs, fun _ => rfl⟩
  have final := guarded_run_invariant (fun _ _ consistent inSchema => Consistent.step consistent inSchema)
    admissible loaded
  exact final.mirrors.eq_reload

section Witness

/-- A tier target on which nothing depends. -/
def fastTier : TierTargetRow :=
  ⟨"t1", "fast", "media", "mdadm", 1, 50, 95, "healthy", "", "", "", "vg0/data"⟩

def fastTarget : MdadmManagedTargetRow := ⟨"t1", "media", "fast", "vg0", "data", "/mnt/fast"⟩

def freshTables : Tables := ⟨∅, ∅, ∅, [], ["n1"], []⟩

theorem freshTables_schema : Schema freshTables ∧
    Distinct TierTargetRow.backingRefKey freshTables.tierTargets := by
  have noTier : ∀ id : String, freshTables.tierTargets[id]? = none :=
    fun _ => Std.ExtTreeMap.getElem?_empty
  have noTarget : ∀ id : String, freshTables.mdadmTargets[id]? = none :=
    fun _ => Std.ExtTreeMap.getElem?_empty
  have noNs : ∀ id : String, freshTables.mdadmNamespaces[id]? = none :=
    fun _ => Std.ExtTreeMap.getElem?_empty
  refine ⟨⟨?_, ?_, ?_, ?_, ?_⟩, ?_⟩ <;> simp [Keyed, Distinct, noTier, noTarget, noNs]

/-- Creating a tier and managing it are admissible, the second while the first is
still queued. -/
theorem managed_tier_matches_maps :
    (run TargetCache.step (newTargetCache .writeBack freshTables)
        [.createTierTarget fastTier none, .upsertMdadmTarget fastTarget, .drainNext]).maps =
      reload (run TargetCache.step (newTargetCache .writeBack freshTables)
        [.createTierTarget fastTier none, .upsertMdadmTarget fastTarget, .drainNext]).drained := by
  have admissible : Guarded TargetCache.step InSchema (newTargetCache .writeBack freshTables)
      [.createTierTarget fastTier none, .upsertMdadmTarget fastTarget, .drainNext] := by
    refine ⟨?_, ?_, ?_, trivial⟩
    · rintro op ⟨⟩
      exact ⟨by decide, by decide, by decide, rfl, by decide⟩
    · rintro op ⟨⟩
      exact ⟨by decide, by decide, by decide⟩
    · rintro op ⟨⟩
  exact drained_tables_match_maps freshTables_schema.1 freshTables_schema.2 admissible

/-- An activity update without a band leaves the band in memory and clears it in the
table. -/
theorem activity_update_splits_cache_and_table :
    (run TargetCache.step (newTargetCache .writeBack freshTables)
        [.createTierTarget { fastTier with activityBand := "hot" } none,
          .updateTierTargetActivity "t1" "healthy" "" ""]).maps.tierByID "t1" =
      some { fastTier with activityBand := "hot" } ∧
    (reload (run TargetCache.step (newTargetCache .writeBack freshTables)
        [.createTierTarget { fastTier with activityBand := "hot" } none,
          .updateTierTargetActivity "t1" "healthy" "" ""]).drained).tierByID "t1" = some fastTier := by
  decide

end Witness

end Tierd.Targets
