import Tierd.Data.Rows

namespace Tierd.Tiers

open Tierd.Data

inductive TierPoolState where
  | provisioning
  | healthy
  | degraded
  | unmounted
  | error
  | destroying
deriving DecidableEq, Repr

inductive TierSlotState where
  | empty
  | assigned
  | degraded
  | missing
deriving DecidableEq, Repr

inductive BackingKind where
  | mdadm
  | zfs
  | btrfs
  | bcachefs
deriving DecidableEq, Repr

structure TierPoolRow where
  id : Nat
  name : String
  state : TierPoolState
  errorReason : Option String
deriving DecidableEq, Repr

structure TierRow where
  poolID : Nat
  name : String
  rank : Int
  state : TierSlotState
  arrayID : Option Int
  pvDevice : Option String
  targetFillPct : Int
  fullThresholdPct : Int
  backingKind : BackingKind
  backingRef : Option String
deriving DecidableEq, Repr

/-- `arrays` holds the ids of `mdadm_arrays`. -/
structure TierTables where
  pools : List TierPoolRow
  tiers : List TierRow
  arrays : List Int
deriving DecidableEq, Repr

/-- The `CHECK` of `tier_pools`. -/
def PoolCheck (pool : TierPoolRow) : Prop :=
  (pool.state = .error ∧ pool.errorReason ≠ none) ∨ pool.state = .destroying ∨
    (pool.state ≠ .error ∧ pool.state ≠ .destroying ∧ pool.errorReason = none)
deriving Decidable

/-- The `CHECK` of `tiers`. -/
def TierCheck (tier : TierRow) : Prop :=
  (tier.state = .empty ∧ tier.backingRef = none ∧ tier.arrayID = none) ∨
    (tier.state ≠ .empty ∧ tier.backingRef ≠ none)
deriving Decidable

def TierRow.nameKey (tier : TierRow) : Nat × String := (tier.poolID, tier.name)

def TierRow.rankKey (tier : TierRow) : Nat × Int := (tier.poolID, tier.rank)

/-- Checks, `UNIQUE` columns and foreign keys. -/
structure Legal (tables : TierTables) : Prop where
  poolChecks : ∀ pool ∈ tables.pools, PoolCheck pool
  poolIDs : (tables.pools.map TierPoolRow.id).Nodup
  poolNames : (tables.pools.map TierPoolRow.name).Nodup
  tierChecks : ∀ tier ∈ tables.tiers, TierCheck tier
  tierNames : (tables.tiers.map TierRow.nameKey).Nodup
  tierRanks : (tables.tiers.map TierRow.rankKey).Nodup
  tierArrays : (tables.tiers.filterMap TierRow.arrayID).Nodup
  tierPools : ∀ tier ∈ tables.tiers, tier.poolID ∈ tables.pools.map TierPoolRow.id
  arraysKnown : ∀ tier ∈ tables.tiers, ∀ id ∈ tier.arrayID, id ∈ tables.arrays

instance (tables : TierTables) : Decidable (Legal tables) :=
  decidable_of_iff
    ((∀ pool ∈ tables.pools, PoolCheck pool) ∧ (tables.pools.map TierPoolRow.id).Nodup ∧
      (tables.pools.map TierPoolRow.name).Nodup ∧ (∀ tier ∈ tables.tiers, TierCheck tier) ∧
      (tables.tiers.map TierRow.nameKey).Nodup ∧ (tables.tiers.map TierRow.rankKey).Nodup ∧
      (tables.tiers.filterMap TierRow.arrayID).Nodup ∧
      (∀ tier ∈ tables.tiers, tier.poolID ∈ tables.pools.map TierPoolRow.id) ∧
      (∀ tier ∈ tables.tiers, ∀ id ∈ tier.arrayID, id ∈ tables.arrays))
    ⟨fun ⟨h1, h2, h3, h4, h5, h6, h7, h8, h9⟩ => ⟨h1, h2, h3, h4, h5, h6, h7, h8, h9⟩,
      fun ⟨h1, h2, h3, h4, h5, h6, h7, h8, h9⟩ => ⟨h1, h2, h3, h4, h5, h6, h7, h8, h9⟩⟩

/-- SQLite rejects a statement that would violate a constraint. -/
structure TierDb extends TierTables where
  legal : Legal toTierTables

namespace TierTables

/-- `SELECT … FROM tier_pools WHERE name = ?`. -/
def poolNamed (tables : TierTables) (name : String) : Option TierPoolRow :=
  tables.pools.find? fun pool => pool.name = name

/-- `SELECT … FROM tiers WHERE pool_id = ? AND name = ?`. -/
def slot (tables : TierTables) (poolID : Nat) (name : String) : Option TierRow :=
  tables.tiers.find? fun tier => tier.nameKey = (poolID, name)

def holder (tables : TierTables) (condition : TierRow → Bool) : Option (String × String) :=
  tables.tiers.findSome? fun tier =>
    if condition tier then
      (tables.pools.find? fun pool => pool.id = tier.poolID).map fun pool => (pool.name, tier.name)
    else none

/-- `UPDATE tiers SET … WHERE pool_id = ? AND name = ?`. -/
def updateSlot (tables : TierTables) (poolID : Nat) (name : String) (change : TierRow → TierRow) : TierTables :=
  { tables with tiers := changeRow TierRow.nameKey (poolID, name) change tables.tiers }

/-- `UPDATE tier_pools SET … WHERE name = ?`. -/
def updatePool (tables : TierTables) (name : String) (change : TierPoolRow → TierPoolRow) : TierTables :=
  { tables with pools := changeRow TierPoolRow.name name change tables.pools }

end TierTables

/-- The statements that write the two tables. -/
inductive Statement where
  | assignSlot (poolID : Nat) (name : String) (arrayID : Option Int) (pvDevice : Option String)
      (kind : BackingKind) (ref : String)
  | clearSlot (poolID : Nat) (name : String)
  | emptySlot (poolID : Nat) (name : String)
  | setSlotState (poolID : Nat) (name : String) (state : TierSlotState)
  | insertSlot (row : TierRow)
  | deleteSlot (poolID : Nat) (name : String)
  | setPoolState (name : String) (state : TierPoolState) (reason : Option String)
  | setPoolReason (name reason : String)
deriving DecidableEq, Repr

/-- The rows a statement writes.  `clearSlot` is the one of `ClearTierAssignment`, and
`emptySlot` the one of `TransitionTierSlotState`, which leaves the backing columns. -/
def Statement.apply (tables : TierTables) : Statement → TierTables
  | .assignSlot poolID name arrayID pvDevice kind ref =>
    tables.updateSlot poolID name fun tier =>
      { tier with state := .assigned, arrayID, pvDevice, backingKind := kind, backingRef := some ref }
  | .clearSlot poolID name =>
    tables.updateSlot poolID name fun tier =>
      { tier with
        state := .empty, arrayID := none, pvDevice := none, backingKind := .mdadm, backingRef := none }
  | .emptySlot poolID name =>
    tables.updateSlot poolID name fun tier =>
      { tier with state := .empty, arrayID := none, pvDevice := none }
  | .setSlotState poolID name state =>
    tables.updateSlot poolID name fun tier => { tier with state }
  | .insertSlot row => { tables with tiers := tables.tiers ++ [row] }
  | .deleteSlot poolID name =>
    { tables with tiers := tables.tiers.filter fun tier => tier.nameKey ≠ (poolID, name) }
  | .setPoolState name state reason =>
    tables.updatePool name fun pool => { pool with state, errorReason := reason }
  | .setPoolReason name reason =>
    tables.updatePool name fun pool => { pool with errorReason := some reason }

def TierDb.exec (db : TierDb) (statement : Statement) : Option TierDb :=
  if legal : Legal (statement.apply db.toTierTables) then some ⟨_, legal⟩ else none

end Tierd.Tiers
