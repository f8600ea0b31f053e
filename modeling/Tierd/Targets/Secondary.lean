import Tierd.Targets.Agreement

namespace Tierd.Targets

open Tierd.Data

/-- Rows lie under their own ids in the maps by id. -/
structure OwnIDs (maps : Maps) : Prop where
  mdadm : ∀ id row, maps.mdadmByID id = some row → row.tierTargetID = id
  tier : ∀ id row, maps.tierByID id = some row → row.id = id
  ns : ∀ id row, maps.nsByID id = some row → row.namespaceID = id

structure InverseMaps (maps : Maps) : Prop where
  mdadm : Inverse MdadmManagedTargetRow.poolTierKey maps.mdadmByID maps.mdadmByPoolTier
  tier : Inverse TierTargetRow.backingRefKey maps.tierByID maps.tierByBackingRef
  ns : Inverse MdadmManagedNamespaceRow.poolKey maps.nsByID maps.nsByPool

def KeepsKeys (maps : Maps) : CacheOp → Prop
  | .upsertMdadm row =>
    (∀ old ∈ maps.mdadmByID row.tierTargetID, old.poolTier = row.poolTier) ∧
    (∀ found ∈ maps.mdadmByPoolTier row.poolTier, found.tierTargetID = row.tierTargetID)
  | .createTier row =>
    (∀ old ∈ maps.tierByID row.id, old.backingRefKey = none ∨ old.backingRefKey = row.backingRefKey) ∧
    (∀ key ∈ row.backingRefKey, ∀ found ∈ maps.tierByBackingRef key, found.id = row.id)
  | .upsertMdadmNs row =>
    (∀ old ∈ maps.nsByID row.namespaceID, old.poolName = row.poolName) ∧
    (∀ found ∈ maps.nsByPool row.poolName, found.namespaceID = row.namespaceID)
  | .deleteMdadm _ | .deleteTier _ | .updatePolicy .. | .updateActivity .. | .deleteMdadmNs _ => True

section Writes

variable {maps : Maps}

theorem OwnIDs.setTier (own : OwnIDs maps) {id : String} {row : TierTargetRow} (same : row.id = id) :
    OwnIDs (maps.setTier id row) where
  mdadm := own.mdadm
  tier := by
    intro other found stored
    rcases update_eq_some_iff.mp stored with ⟨rfl, ⟨⟩⟩ | ⟨_, before⟩
    · exact same
    · exact own.tier other found before
  ns := own.ns

theorem OwnIDs.write (own : OwnIDs maps) (op : CacheOp) : OwnIDs (maps.write op) := by
  cases op with
  | upsertMdadm row =>
    refine { own with mdadm := ?_ }
    intro id found stored
    rcases update_eq_some_iff.mp stored with ⟨rfl, ⟨⟩⟩ | ⟨_, before⟩
    · rfl
    · exact own.mdadm id found before
  | deleteMdadm id =>
    simp only [Maps.write, Maps.deleteMdadmTarget]
    split
    case h_1 => exact own
    case h_2 =>
      refine { own with mdadm := ?_ }
      intro other found stored
      rcases update_eq_some_iff.mp stored with ⟨_, ⟨⟩⟩ | ⟨_, before⟩
      exact own.mdadm other found before
  | createTier row => exact own.setTier rfl
  | deleteTier id =>
    simp only [Maps.write, Maps.deleteTierTarget]
    split
    case h_1 => exact own
    case h_2 =>
      refine { own with tier := ?_ }
      intro other found stored
      rcases update_eq_some_iff.mp stored with ⟨_, ⟨⟩⟩ | ⟨_, before⟩
      exact own.tier other found before
  | updatePolicy id targetFillPct fullThresholdPct =>
    simp only [Maps.write, Maps.updateTierTargetPolicy]
    split
    case h_1 => exact own
    case h_2 row stored => exact own.setTier (own.tier id row stored)
  | updateActivity id health band trend =>
    simp only [Maps.write, Maps.updateTierTargetActivity]
    split
    case h_1 => exact own
    case h_2 row stored => exact own.setTier (own.tier id row stored)
  | upsertMdadmNs row =>
    refine { own with ns := ?_ }
    intro id found stored
    rcases update_eq_some_iff.mp stored with ⟨rfl, ⟨⟩⟩ | ⟨_, before⟩
    · rfl
    · exact own.ns id found before
  | deleteMdadmNs id =>
    simp only [Maps.write, Maps.deleteMdadmNs]
    split
    case h_1 => exact own
    case h_2 =>
      refine { own with ns := ?_ }
      intro other found stored
      rcases update_eq_some_iff.mp stored with ⟨_, ⟨⟩⟩ | ⟨_, before⟩
      exact own.ns other found before

theorem InverseMaps.setTier (inverse : InverseMaps maps) (own : OwnIDs maps) {id : String}
    {old row : TierTargetRow} (stored : maps.tierByID id = some old) (sameID : row.id = old.id)
    (sameRef : row.backingRefKey = old.backingRefKey) : InverseMaps (maps.setTier id row) := by
  obtain rfl : row.id = id := sameID.trans (own.tier id old stored)
  refine { inverse with tier := (inverse.tier.enter_iff own.tier row).mpr ⟨?_, ?_⟩ }
  · intro before storedBefore
    cases stored.symm.trans storedBefore
    exact .inr sameRef.symm
  · intro key found keyed indexed
    have keyedOld : old.backingRefKey = some key := sameRef ▸ keyed
    cases ((inverse.tier key old).mpr ⟨⟨row.id, stored⟩, keyedOld⟩).symm.trans indexed
    exact sameID.symm

theorem InverseMaps.write_iff (inverse : InverseMaps maps) (own : OwnIDs maps) (op : CacheOp) :
    InverseMaps (maps.write op) ↔ KeepsKeys maps op := by
  cases op with
  | upsertMdadm row =>
    have entered := inverse.mdadm.enter_some_iff own.mdadm row
    have same : InverseMaps (maps.write (.upsertMdadm row)) ↔
        Inverse MdadmManagedTargetRow.poolTierKey
          (Function.update maps.mdadmByID row.tierTargetID (some row))
          (enter MdadmManagedTargetRow.poolTierKey maps.mdadmByPoolTier row) :=
      ⟨fun after => after.mdadm, fun after => { inverse with mdadm := after }⟩
    exact same.trans entered
  | createTier row =>
    have entered := inverse.tier.enter_iff own.tier row
    have same : InverseMaps (maps.write (.createTier row)) ↔
        Inverse TierTargetRow.backingRefKey (Function.update maps.tierByID row.id (some row))
          (enter TierTargetRow.backingRefKey maps.tierByBackingRef row) :=
      ⟨fun after => after.tier, fun after => { inverse with tier := after }⟩
    rw [same, entered]
    simp only [KeepsKeys, Option.mem_def]
    exact and_congr_right' ⟨fun free key keyed found => free key found keyed,
      fun free key found keyed => free key keyed found⟩
  | upsertMdadmNs row =>
    have entered := inverse.ns.enter_some_iff own.ns row
    have same : InverseMaps (maps.write (.upsertMdadmNs row)) ↔
        Inverse MdadmManagedNamespaceRow.poolKey
          (Function.update maps.nsByID row.namespaceID (some row))
          (enter MdadmManagedNamespaceRow.poolKey maps.nsByPool row) :=
      ⟨fun after => after.ns, fun after => { inverse with ns := after }⟩
    exact same.trans entered
  | deleteMdadm id =>
    refine iff_of_true ?_ trivial
    simp only [Maps.write, Maps.deleteMdadmTarget]
    split
    case h_1 => exact inverse
    case h_2 row stored => exact { inverse with mdadm := inverse.mdadm.leave own.mdadm stored }
  | deleteTier id =>
    refine iff_of_true ?_ trivial
    simp only [Maps.write, Maps.deleteTierTarget]
    split
    case h_1 => exact inverse
    case h_2 row stored => exact { inverse with tier := inverse.tier.leave own.tier stored }
  | updatePolicy id targetFillPct fullThresholdPct =>
    refine iff_of_true ?_ trivial
    simp only [Maps.write, Maps.updateTierTargetPolicy]
    split
    case h_1 => exact inverse
    case h_2 row stored => exact inverse.setTier own stored rfl rfl
  | updateActivity id health band trend =>
    refine iff_of_true ?_ trivial
    simp only [Maps.write, Maps.updateTierTargetActivity]
    split
    case h_1 => exact inverse
    case h_2 row stored => exact inverse.setTier own stored rfl rfl
  | deleteMdadmNs id =>
    refine iff_of_true ?_ trivial
    simp only [Maps.write, Maps.deleteMdadmNs]
    split
    case h_1 => exact inverse
    case h_2 row stored => exact { inverse with ns := inverse.ns.leave own.ns stored }

end Writes

def EventKeepsKeys (cache : TargetCache) (event : CacheEvent) : Prop :=
  ∀ op ∈ event.op, KeepsKeys cache.maps op

theorem step_maps (cache : TargetCache) (event : CacheEvent) :
    (cache.step event).maps = event.op.elim cache.maps cache.maps.write := by
  unfold TargetCache.step
  cases event.op with
  | some op => exact write_maps cache op
  | none =>
    simp only [Option.elim_none]
    split
    case isTrue =>
      unfold TargetCache.drainNext
      split <;> rfl
    case isFalse => rfl

theorem OwnIDs.step {cache : TargetCache} (own : OwnIDs cache.maps) (event : CacheEvent) :
    OwnIDs (cache.step event).maps := by
  rw [step_maps]
  cases event.op with
  | none => exact own
  | some op => exact own.write op

theorem InverseMaps.step_iff {cache : TargetCache} (inverse : InverseMaps cache.maps)
    (own : OwnIDs cache.maps) (event : CacheEvent) :
    InverseMaps (cache.step event).maps ↔ EventKeepsKeys cache event := by
  rw [step_maps]
  unfold EventKeepsKeys
  cases event.op with
  | none => simpa using inverse
  | some op => simpa using inverse.write_iff own op

def NoSharedPoolTier (maps : Maps) : Prop :=
  ∀ first second left right, maps.mdadmByID first = some left → maps.mdadmByID second = some right →
    left.poolTier = right.poolTier → first = second

theorem InverseMaps.noSharedPoolTier {maps : Maps} (inverse : InverseMaps maps) (own : OwnIDs maps) :
    NoSharedPoolTier maps := by
  intro first second left right foundLeft foundRight same
  have sameRow : left = right :=
    inverse.mdadm.unique_row foundLeft foundRight (congrArg some same) rfl
  rw [← own.mdadm first left foundLeft, ← own.mdadm second right foundRight, sameRow]

section Loaded

variable {tables : Tables} (schema : Schema tables)

include schema

theorem reload_byID :
    (reload tables).mdadmByID = (fun id => tables.mdadmTargets[id]?) ∧
    (reload tables).tierByID = (fun id => tables.tierTargets[id]?) ∧
    (reload tables).nsByID = (fun id => tables.mdadmNamespaces[id]?) :=
  ⟨funext (loadIndex_primary schema.mdadmKeyed mem_listed),
    funext (loadIndex_primary schema.tierKeyed mem_listed),
    funext (loadIndex_primary schema.nsKeyed mem_listed)⟩

theorem reload_ownIDs : OwnIDs (reload tables) := by
  obtain ⟨mdadm, tier, ns⟩ := reload_byID schema
  constructor
  · rw [mdadm]
    exact schema.mdadmKeyed
  · rw [tier]
    exact schema.tierKeyed
  · rw [ns]
    exact schema.nsKeyed

theorem reload_inverse_iff :
    InverseMaps (reload tables) ↔ Distinct TierTargetRow.backingRefKey tables.tierTargets := by
  obtain ⟨mdadm, tier, ns⟩ := reload_byID schema
  constructor
  · intro inverse first second left right key foundLeft foundRight keyLeft keyRight
    have loaded := inverse.tier
    rw [tier] at loaded
    exact loaded.unique_row foundLeft foundRight keyLeft keyRight
  · intro refs
    constructor
    · rw [mdadm]
      exact Indexes.load schema.poolTierUnique mem_listed
    · rw [tier]
      exact Indexes.load refs mem_listed
    · rw [ns]
      exact Indexes.load schema.poolUnique mem_listed

/-- From loaded tables, the secondary maps are the inverse images of the primary ones
after every call of a sequence exactly when the loaded backing refs are distinct and
no call gives an id a new key or takes the key of another id. -/
theorem secondary_maps_are_inverse_images_iff (writeMode : CacheWriteMode) (events : List CacheEvent) :
    (∀ before, before <+: events →
      InverseMaps (run TargetCache.step (newTargetCache writeMode tables) before).maps ∧
      NoSharedPoolTier (run TargetCache.step (newTargetCache writeMode tables) before).maps) ↔
    Distinct TierTargetRow.backingRefKey tables.tierTargets ∧
      Guarded TargetCache.step EventKeepsKeys (newTargetCache writeMode tables) events := by
  have own := reload_ownIDs schema
  have kept : ∀ (cache : TargetCache) (event : CacheEvent),
      OwnIDs cache.maps → OwnIDs (cache.step event).maps := fun _ event own => own.step event
  have exactly : ∀ (cache : TargetCache) (event : CacheEvent), OwnIDs cache.maps →
      InverseMaps cache.maps → (InverseMaps (cache.step event).maps ↔ EventKeepsKeys cache event) :=
    fun _ event own inverse => inverse.step_iff own event
  constructor
  · intro throughout
    have loaded := (throughout [] List.nil_prefix).1
    refine ⟨(reload_inverse_iff schema).mp loaded, ?_⟩
    exact (guarded_iff_holds_throughout (fun cache event own _ _ => kept cache event own) exactly events own loaded).mp
      fun before done => (throughout before done).1
  · rintro ⟨refs, keeps⟩ before done
    have loaded := (reload_inverse_iff schema).mpr refs
    have inverse := (guarded_iff_holds_throughout (fun cache event own _ _ => kept cache event own) exactly events own
      loaded).mpr keeps before done
    exact ⟨inverse, inverse.noSharedPoolTier (run_invariant kept before own)⟩

end Loaded

section Witness

def managedAgain : List CacheEvent :=
  [.createTierTarget fastTier none, .upsertMdadmTarget fastTarget, .updateTierTargetPolicy "t1" 40 90,
    .upsertMdadmTarget { fastTarget with mountPath := "/mnt/other" }]

theorem managed_again_keeps_inverse_images :
    Schema freshTables ∧ ∀ before, before <+: managedAgain →
      InverseMaps (run TargetCache.step (newTargetCache .writeBack freshTables) before).maps ∧
      NoSharedPoolTier (run TargetCache.step (newTargetCache .writeBack freshTables) before).maps := by
  refine ⟨freshTables_schema.1,
    (secondary_maps_are_inverse_images_iff freshTables_schema.1 .writeBack managedAgain).mpr
      ⟨freshTables_schema.2, ?_, ?_, ?_, ?_, trivial⟩⟩
  · rintro op ⟨⟩
    exact ⟨by decide, by decide⟩
  · rintro op ⟨⟩
    exact ⟨by decide, by decide⟩
  · rintro op ⟨⟩
    exact trivial
  · rintro op ⟨⟩
    exact ⟨by decide, by decide⟩

/-- What `Reconcile` does when the tier target of a managed tier is missing from the
store: a new tier target, and a managed target with its id for the same pool and tier. -/
def recreatedTarget : List CacheEvent :=
  [.createTierTarget fastTier none, .upsertMdadmTarget fastTarget, .deleteTierTarget "t1",
    .createTierTarget { fastTier with id := "" } (some "t2"),
    .upsertMdadmTarget { fastTarget with tierTargetID := "t2" }]

/-- The old target stays beside the new one. -/
theorem recreated_target_shares_pool_tier :
    ¬ InverseMaps (run TargetCache.step (newTargetCache .writeBack freshTables) recreatedTarget).maps ∧
    ¬ NoSharedPoolTier (run TargetCache.step (newTargetCache .writeBack freshTables) recreatedTarget).maps := by
  have stale : (run TargetCache.step (newTargetCache .writeBack freshTables) recreatedTarget).maps.mdadmByID
      "t1" = some fastTarget := by decide
  have renewed : (run TargetCache.step (newTargetCache .writeBack freshTables) recreatedTarget).maps.mdadmByID
      "t2" = some { fastTarget with tierTargetID := "t2" } := by decide
  constructor
  · intro inverse
    have sameRow := inverse.mdadm.unique_row stale renewed rfl rfl
    exact absurd sameRow (by decide)
  · intro alone
    exact absurd (alone "t1" "t2" _ _ stale renewed rfl) (by decide)

end Witness

end Tierd.Targets
