import Tierd.Data.Index
import Tierd.Targets.Tables

namespace Tierd.Targets

open Tierd.Data

inductive CacheWriteMode where
  | writeBack
  | writeThrough
deriving DecidableEq, Repr

inductive CacheOp where
  | upsertMdadm (row : MdadmManagedTargetRow)
  | deleteMdadm (tierTargetID : String)
  | createTier (row : TierTargetRow)
  | deleteTier (id : String)
  | updatePolicy (id : String) (targetFillPct fullThresholdPct : Int)
  | updateActivity (id health activityBand activityTrend : String)
  | upsertMdadmNs (row : MdadmManagedNamespaceRow)
  | deleteMdadmNs (namespaceID : String)
deriving DecidableEq, Repr

def MdadmManagedTargetRow.idKey (row : MdadmManagedTargetRow) : Option String := some row.tierTargetID

def MdadmManagedTargetRow.poolTierKey (row : MdadmManagedTargetRow) : Option (String × String) :=
  some row.poolTier

def TierTargetRow.idKey (row : TierTargetRow) : Option String := some row.id

/-- `backingRefKey`, for rows that have a backing ref. -/
def TierTargetRow.backingRefKey (row : TierTargetRow) : Option (String × String) :=
  if row.backingRef = "" then none else some (row.backendKind, row.backingRef)

def MdadmManagedNamespaceRow.idKey (row : MdadmManagedNamespaceRow) : Option String :=
  some row.namespaceID

def MdadmManagedNamespaceRow.poolKey (row : MdadmManagedNamespaceRow) : Option String :=
  some row.poolName

/-- Six maps over three tables. -/
structure Maps where
  mdadmByID : String → Option MdadmManagedTargetRow
  mdadmByPoolTier : String × String → Option MdadmManagedTargetRow
  tierByID : String → Option TierTargetRow
  tierByBackingRef : String × String → Option TierTargetRow
  nsByID : String → Option MdadmManagedNamespaceRow
  nsByPool : String → Option MdadmManagedNamespaceRow

/-- `reload`: the maps that the tables give. -/
def reload (tables : Tables) : Maps where
  mdadmByID := loadIndex MdadmManagedTargetRow.idKey tables.listMdadmManagedTargets
  mdadmByPoolTier := loadIndex MdadmManagedTargetRow.poolTierKey tables.listMdadmManagedTargets
  tierByID := loadIndex TierTargetRow.idKey tables.listTierTargets
  tierByBackingRef := loadIndex TierTargetRow.backingRefKey tables.listTierTargets
  nsByID := loadIndex MdadmManagedNamespaceRow.idKey tables.listMdadmManagedNamespaces
  nsByPool := loadIndex MdadmManagedNamespaceRow.poolKey tables.listMdadmManagedNamespaces

namespace Maps

def upsertMdadmTarget (maps : Maps) (row : MdadmManagedTargetRow) : Maps :=
  { maps with
    mdadmByID := enter MdadmManagedTargetRow.idKey maps.mdadmByID row
    mdadmByPoolTier := enter MdadmManagedTargetRow.poolTierKey maps.mdadmByPoolTier row }

def deleteMdadmTarget (maps : Maps) (tierTargetID : String) : Maps :=
  match maps.mdadmByID tierTargetID with
  | none => maps
  | some row =>
    { maps with
      mdadmByID := Function.update maps.mdadmByID tierTargetID none
      mdadmByPoolTier := leave MdadmManagedTargetRow.poolTierKey maps.mdadmByPoolTier row }

def setTier (maps : Maps) (id : String) (row : TierTargetRow) : Maps :=
  { maps with
    tierByID := Function.update maps.tierByID id (some row)
    tierByBackingRef := enter TierTargetRow.backingRefKey maps.tierByBackingRef row }

def createTierTarget (maps : Maps) (row : TierTargetRow) : Maps := maps.setTier row.id row

def deleteTierTarget (maps : Maps) (id : String) : Maps :=
  match maps.tierByID id with
  | none => maps
  | some row =>
    { maps with
      tierByID := Function.update maps.tierByID id none
      tierByBackingRef := leave TierTargetRow.backingRefKey maps.tierByBackingRef row }

def updateTierTargetPolicy (maps : Maps) (id : String) (targetFillPct fullThresholdPct : Int) : Maps :=
  match maps.tierByID id with
  | none => maps
  | some row => maps.setTier id { row with targetFillPct, fullThresholdPct }

/-- An empty band or trend leaves the old one. -/
def updateTierTargetActivity (maps : Maps) (id health band trend : String) : Maps :=
  match maps.tierByID id with
  | none => maps
  | some row =>
    maps.setTier id { row with
      health
      activityBand := if band ≠ "" then band else row.activityBand
      activityTrend := if trend ≠ "" then trend else row.activityTrend }

def upsertMdadmNs (maps : Maps) (row : MdadmManagedNamespaceRow) : Maps :=
  { maps with
    nsByID := enter MdadmManagedNamespaceRow.idKey maps.nsByID row
    nsByPool := enter MdadmManagedNamespaceRow.poolKey maps.nsByPool row }

def deleteMdadmNs (maps : Maps) (namespaceID : String) : Maps :=
  match maps.nsByID namespaceID with
  | none => maps
  | some row =>
    { maps with
      nsByID := Function.update maps.nsByID namespaceID none
      nsByPool := leave MdadmManagedNamespaceRow.poolKey maps.nsByPool row }

def write (maps : Maps) : CacheOp → Maps
  | .upsertMdadm row => maps.upsertMdadmTarget row
  | .deleteMdadm tierTargetID => maps.deleteMdadmTarget tierTargetID
  | .createTier row => maps.createTierTarget row
  | .deleteTier id => maps.deleteTierTarget id
  | .updatePolicy id targetFillPct fullThresholdPct =>
    maps.updateTierTargetPolicy id targetFillPct fullThresholdPct
  | .updateActivity id health band trend => maps.updateTierTargetActivity id health band trend
  | .upsertMdadmNs row => maps.upsertMdadmNs row
  | .deleteMdadmNs namespaceID => maps.deleteMdadmNs namespaceID

end Maps

/-- The statement `applyOp` runs; its error is logged and dropped. -/
def storeOp (tables : Tables) : CacheOp → Outcome
  | .upsertMdadm row => tables.upsertMdadmManagedTarget row
  | .deleteMdadm tierTargetID => tables.deleteMdadmManagedTarget tierTargetID
  | .createTier row => tables.createTierTarget row
  | .deleteTier id => tables.deleteTierTarget id
  | .updatePolicy id targetFillPct fullThresholdPct =>
    tables.updateTierTargetPolicy id targetFillPct fullThresholdPct
  | .updateActivity id health band trend => tables.updateTierTargetActivity id health band trend
  | .upsertMdadmNs row => tables.upsertMdadmManagedNamespace row
  | .deleteMdadmNs namespaceID => tables.deleteMdadmManagedNamespace namespaceID

/-- An operation the store rejects is only logged. -/
def applyOp (tables : Tables) (op : CacheOp) : Tables := (storeOp tables op).1

/-- `queue` holds the operations that are not applied yet, a batch the drain loop
has taken included. -/
structure TargetCache where
  writeMode : CacheWriteMode
  maps : Maps
  queue : List CacheOp
  tables : Tables

/-- A cache right after `newTargetCache` has loaded it. -/
def newTargetCache (writeMode : CacheWriteMode) (tables : Tables) : TargetCache :=
  ⟨writeMode, reload tables, [], tables⟩

/-- A call of the write API, or the drain loop applying its next operation.  A tier
target created without an id gets the generated one; when none can be generated
the call fails. -/
inductive CacheEvent where
  | upsertMdadmTarget (row : MdadmManagedTargetRow)
  | deleteMdadmTarget (tierTargetID : String)
  | createTierTarget (row : TierTargetRow) (generated : Option String)
  | deleteTierTarget (id : String)
  | updateTierTargetPolicy (id : String) (targetFill fullThresh : Int)
  | updateTierTargetActivity (id health band trend : String)
  | upsertMdadmNs (row : MdadmManagedNamespaceRow)
  | deleteMdadmNs (namespaceID : String)
  | drainNext
deriving DecidableEq, Repr

def CacheEvent.op : CacheEvent → Option CacheOp
  | .upsertMdadmTarget row => some (.upsertMdadm row)
  | .deleteMdadmTarget tierTargetID => some (.deleteMdadm tierTargetID)
  | .createTierTarget row generated =>
    if row.id = "" then generated.map fun id => .createTier { row with id } else some (.createTier row)
  | .deleteTierTarget id => some (.deleteTier id)
  | .updateTierTargetPolicy id targetFill fullThresh => some (.updatePolicy id targetFill fullThresh)
  | .updateTierTargetActivity id health band trend => some (.updateActivity id health band trend)
  | .upsertMdadmNs row => some (.upsertMdadmNs row)
  | .deleteMdadmNs namespaceID => some (.deleteMdadmNs namespaceID)
  | .drainNext => none

namespace TargetCache

def persist (cache : TargetCache) (op : CacheOp) : TargetCache :=
  match cache.writeMode with
  | .writeThrough => { cache with tables := applyOp cache.tables op }
  | .writeBack => { cache with queue := cache.queue ++ [op] }

def write (cache : TargetCache) (op : CacheOp) : TargetCache :=
  { cache with maps := cache.maps.write op }.persist op

def drainNext (cache : TargetCache) : TargetCache :=
  match cache.queue with
  | [] => cache
  | op :: rest => { cache with queue := rest, tables := applyOp cache.tables op }

def step (cache : TargetCache) (event : CacheEvent) : TargetCache :=
  match event.op with
  | some op => cache.write op
  | none => if event = .drainNext then cache.drainNext else cache

def drained (cache : TargetCache) : Tables := cache.queue.foldl applyOp cache.tables

end TargetCache

end Tierd.Targets
