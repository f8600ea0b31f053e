import Mathlib

namespace Tierd.Targets

/-- Timestamps and `policy_revision` are left out. -/
structure TierTargetRow where
  id : String
  name : String
  placementDomain : String
  backendKind : String
  rank : Int
  targetFillPct : Int
  fullThresholdPct : Int
  health : String
  activityBand : String
  activityTrend : String
  capabilitiesJSON : String
  backingRef : String
deriving DecidableEq, Repr

structure MdadmManagedTargetRow where
  tierTargetID : String
  poolName : String
  tierName : String
  vgName : String
  lvName : String
  mountPath : String
deriving DecidableEq, Repr

structure MdadmManagedNamespaceRow where
  namespaceID : String
  poolName : String
  mountPath : String
deriving DecidableEq, Repr

/-- `managedNamespaces` lists the ids of `managed_namespaces`, and `objectTiers`
the tier targets that `smoothfs_objects` refers to without cascade. -/
structure Tables where
  tierTargets : Std.ExtTreeMap String TierTargetRow
  mdadmTargets : Std.ExtTreeMap String MdadmManagedTargetRow
  mdadmNamespaces : Std.ExtTreeMap String MdadmManagedNamespaceRow
  placementDomains : List String
  managedNamespaces : List String
  objectTiers : List String

inductive StoreError where
  | targetFillRange
  | fullThresholdRange
  | targetAboveFull
  | notFound
  | primaryKey
  | unique
  | foreignKey
deriving DecidableEq, Repr

def StoreError.message : StoreError → String
  | .targetFillRange => "target_fill_pct must be between 0 and 100"
  | .fullThresholdRange => "full_threshold_pct must be between 0 and 100"
  | .targetAboveFull => "target_fill_pct must not exceed full_threshold_pct"
  | .notFound => "not found"
  | .primaryKey => "create tier target: UNIQUE constraint failed: tier_targets.id"
  | .unique => "UNIQUE constraint failed"
  | .foreignKey => "FOREIGN KEY constraint failed"

def validateFillPolicy (targetFillPct fullThresholdPct : Int) : Except StoreError Unit :=
  if targetFillPct < 0 ∨ targetFillPct > 100 then .error .targetFillRange
  else if fullThresholdPct < 0 ∨ fullThresholdPct > 100 then .error .fullThresholdRange
  else if targetFillPct > fullThresholdPct then .error .targetAboveFull
  else .ok ()

abbrev Outcome := Tables × Option StoreError

def MdadmManagedTargetRow.poolTier (row : MdadmManagedTargetRow) : String × String :=
  (row.poolName, row.tierName)

/-- A percentage of zero stands for the default. -/
def defaulted (percentage default : Int) : Int := if percentage = 0 then default else percentage

/-- The row that `CreateTierTarget` inserts. -/
def TierTargetRow.withDefaults (given : TierTargetRow) : TierTargetRow :=
  { given with
    targetFillPct := defaulted given.targetFillPct 50
    fullThresholdPct := defaulted given.fullThresholdPct 95 }

theorem TierTargetRow.withDefaults_of_given {row : TierTargetRow} (fillGiven : row.targetFillPct ≠ 0)
    (fullGiven : row.fullThresholdPct ≠ 0) : row.withDefaults = row := by
  have sameFill : defaulted row.targetFillPct 50 = row.targetFillPct := if_neg fillGiven
  have sameFull : defaulted row.fullThresholdPct 95 = row.fullThresholdPct := if_neg fullGiven
  rw [TierTargetRow.withDefaults, sameFill, sameFull]

namespace Tables

/-- `INSERT … ON CONFLICT (tier_target_id) DO UPDATE`: the row may replace the one
with its id, but not share a pool and tier with another, and its tier target
must exist. -/
def upsertMdadmManagedTarget (tables : Tables) (row : MdadmManagedTargetRow) : Outcome :=
  if tables.mdadmTargets.toList.any fun entry =>
      entry.1 ≠ row.tierTargetID ∧ entry.2.poolTier = row.poolTier then (tables, some .unique)
  else if tables.tierTargets[row.tierTargetID]? = none then (tables, some .foreignKey)
  else ({ tables with mdadmTargets := tables.mdadmTargets.insert row.tierTargetID row }, none)

def deleteMdadmManagedTarget (tables : Tables) (tierTargetID : String) : Outcome :=
  ({ tables with mdadmTargets := tables.mdadmTargets.erase tierTargetID }, none)

def ensurePlacementDomain (tables : Tables) (id : String) : Tables :=
  if id ∈ tables.placementDomains then tables
  else { tables with placementDomains := tables.placementDomains ++ [id] }

def domainInUse (tables : Tables) (id : String) : Bool :=
  tables.tierTargets.toList.any fun entry => entry.2.placementDomain = id

/-- `DELETE FROM placement_domains`, refused while a tier target refers to the domain. -/
def dropPlacementDomain (tables : Tables) (id : String) : Tables :=
  if tables.domainInUse id then tables
  else { tables with placementDomains := tables.placementDomains.filter (· ≠ id) }

def pruneEmptyPlacementDomain (tables : Tables) (id : String) : Tables :=
  if tables.domainInUse id then tables else tables.dropPlacementDomain id

/-- `INSERT INTO tier_targets`. -/
def insertTierTarget (tables : Tables) (row : TierTargetRow) : Outcome :=
  if tables.tierTargets[row.id]? ≠ none then (tables, some .primaryKey)
  else if row.placementDomain ∉ tables.placementDomains then (tables, some .foreignKey)
  else ({ tables with tierTargets := tables.tierTargets.insert row.id row }, none)

/-- The placement domain is ensured in a statement of its own and stays when the
insert is rejected. -/
def createTierTarget (tables : Tables) (given : TierTargetRow) : Outcome :=
  match validateFillPolicy given.withDefaults.targetFillPct given.withDefaults.fullThresholdPct with
  | .error problem => (tables, some problem)
  | .ok () => (tables.ensurePlacementDomain given.placementDomain).insertTierTarget given.withDefaults

/-- `DELETE FROM tier_targets` cascades to `mdadm_managed_targets` and is refused
while an object refers to the target. -/
def removeTierTarget (tables : Tables) (id : String) : Outcome :=
  match tables.tierTargets[id]? with
  | none => (tables, none)
  | some _ =>
    if id ∈ tables.objectTiers then (tables, some .foreignKey)
    else ({ tables with
      tierTargets := tables.tierTargets.erase id
      mdadmTargets := tables.mdadmTargets.erase id }, none)

def deleteTierTarget (tables : Tables) (id : String) : Outcome :=
  match tables.tierTargets[id]? with
  | none => (tables, some .notFound)
  | some row =>
    match tables.removeTierTarget id with
    | (removed, none) => (removed.pruneEmptyPlacementDomain row.placementDomain, none)
    | refused => refused

/-- The `UPDATE` of `UpdateTierTargetPolicy`. -/
def setTierTargetPolicy (tables : Tables) (id : String) (targetFillPct fullThresholdPct : Int) : Tables :=
  match tables.tierTargets[id]? with
  | none => tables
  | some row =>
    { tables with tierTargets := tables.tierTargets.insert id { row with targetFillPct, fullThresholdPct } }

def updateTierTargetPolicy (tables : Tables) (id : String) (targetFillPct fullThresholdPct : Int) :
    Outcome :=
  match validateFillPolicy targetFillPct fullThresholdPct with
  | .error problem => (tables, some problem)
  | .ok () =>
    match tables.tierTargets[id]? with
    | none => (tables, some .notFound)
    | some _ => (tables.setTierTargetPolicy id targetFillPct fullThresholdPct, none)

/-- `UPDATE … WHERE id = ?`: no error when no row matches. -/
def updateTierTargetActivity (tables : Tables) (id health activityBand activityTrend : String) : Outcome :=
  match tables.tierTargets[id]? with
  | none => (tables, none)
  | some row =>
    ({ tables with
      tierTargets := tables.tierTargets.insert id { row with health, activityBand, activityTrend } }, none)

def upsertMdadmManagedNamespace (tables : Tables) (row : MdadmManagedNamespaceRow) : Outcome :=
  if tables.mdadmNamespaces.toList.any fun entry =>
      entry.1 ≠ row.namespaceID ∧ entry.2.poolName = row.poolName then (tables, some .unique)
  else if row.namespaceID ∉ tables.managedNamespaces then (tables, some .foreignKey)
  else ({ tables with mdadmNamespaces := tables.mdadmNamespaces.insert row.namespaceID row }, none)

def deleteMdadmManagedNamespace (tables : Tables) (namespaceID : String) : Outcome :=
  ({ tables with mdadmNamespaces := tables.mdadmNamespaces.erase namespaceID }, none)

/-- `SELECT … ORDER BY pool_name, tier_name`. -/
def listMdadmManagedTargets (tables : Tables) : List MdadmManagedTargetRow :=
  (tables.mdadmTargets.toList.map Prod.snd).insertionSort fun first second =>
    first.poolName < second.poolName ∨
      (first.poolName = second.poolName ∧ first.tierName ≤ second.tierName)

/-- `SELECT … ORDER BY placement_domain, rank`. -/
def listTierTargets (tables : Tables) : List TierTargetRow :=
  (tables.tierTargets.toList.map Prod.snd).insertionSort fun first second =>
    first.placementDomain < second.placementDomain ∨
      (first.placementDomain = second.placementDomain ∧ first.rank ≤ second.rank)

/-- `SELECT … ORDER BY pool_name`. -/
def listMdadmManagedNamespaces (tables : Tables) : List MdadmManagedNamespaceRow :=
  (tables.mdadmNamespaces.toList.map Prod.snd).insertionSort fun first second =>
    first.poolName ≤ second.poolName

theorem mem_ensurePlacementDomain (tables : Tables) (id : String) :
    id ∈ (tables.ensurePlacementDomain id).placementDomains := by
  unfold ensurePlacementDomain
  split
  case isTrue there => exact there
  case isFalse => exact List.mem_append_right _ (List.mem_singleton_self id)

/-- Ensuring a domain changes nothing else. -/
theorem ensurePlacementDomain_eq (tables : Tables) (id : String) :
    ∃ domains, tables.ensurePlacementDomain id = { tables with placementDomains := domains } := by
  unfold ensurePlacementDomain
  split
  · exact ⟨tables.placementDomains, rfl⟩
  · exact ⟨_, rfl⟩

theorem dropPlacementDomain_eq (tables : Tables) (id : String) :
    ∃ domains, tables.dropPlacementDomain id = { tables with placementDomains := domains } := by
  unfold dropPlacementDomain
  split
  · exact ⟨tables.placementDomains, rfl⟩
  · exact ⟨_, rfl⟩

theorem pruneEmptyPlacementDomain_eq (tables : Tables) (id : String) :
    ∃ domains, tables.pruneEmptyPlacementDomain id = { tables with placementDomains := domains } := by
  unfold pruneEmptyPlacementDomain
  split
  · exact ⟨tables.placementDomains, rfl⟩
  · exact tables.dropPlacementDomain_eq id

theorem insertTierTarget_of_new {tables : Tables} {row : TierTargetRow} (absent : tables.tierTargets[row.id]? = none)
    (domain : row.placementDomain ∈ tables.placementDomains) :
    tables.insertTierTarget row = ({ tables with tierTargets := tables.tierTargets.insert row.id row }, none) := by
  rw [insertTierTarget, if_neg (not_not.mpr absent), if_neg (not_not.mpr domain)]

theorem createTierTarget_of_new {tables : Tables} {row : TierTargetRow} (absent : tables.tierTargets[row.id]? = none)
    (fillGiven : row.targetFillPct ≠ 0) (fullGiven : row.fullThresholdPct ≠ 0)
    (valid : validateFillPolicy row.targetFillPct row.fullThresholdPct = .ok ()) :
    ∃ domains, tables.createTierTarget row = ({ tables with
      placementDomains := domains
      tierTargets := tables.tierTargets.insert row.id row }, none) := by
  have there := tables.mem_ensurePlacementDomain row.placementDomain
  obtain ⟨domains, ensured⟩ := tables.ensurePlacementDomain_eq row.placementDomain
  rw [ensured] at there
  refine ⟨domains, ?_⟩
  rw [createTierTarget, TierTargetRow.withDefaults_of_given fillGiven fullGiven, valid, ensured]
  exact insertTierTarget_of_new absent there

theorem removeTierTarget_of_free {tables : Tables} {id : String} {row : TierTargetRow}
    (stored : tables.tierTargets[id]? = some row) (free : id ∉ tables.objectTiers) :
    tables.removeTierTarget id = ({ tables with
      tierTargets := tables.tierTargets.erase id
      mdadmTargets := tables.mdadmTargets.erase id }, none) := by
  rw [removeTierTarget, stored]
  dsimp only
  rw [if_neg free]

theorem deleteTierTarget_of_free {tables : Tables} {id : String} {row : TierTargetRow}
    (stored : tables.tierTargets[id]? = some row) (free : id ∉ tables.objectTiers) :
    ∃ domains, tables.deleteTierTarget id = ({ tables with
      tierTargets := tables.tierTargets.erase id
      mdadmTargets := tables.mdadmTargets.erase id
      placementDomains := domains }, none) := by
  rw [deleteTierTarget, stored]
  dsimp only
  rw [removeTierTarget_of_free stored free]
  obtain ⟨domains, pruned⟩ := pruneEmptyPlacementDomain_eq { tables with
    tierTargets := tables.tierTargets.erase id
    mdadmTargets := tables.mdadmTargets.erase id } row.placementDomain
  exact ⟨domains, congrArg (·, none) pruned⟩

end Tables

end Tierd.Targets
