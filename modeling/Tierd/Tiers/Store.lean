import Tierd.Tiers.Database
import Tierd.Tiers.Names

namespace Tierd.Tiers

open Tierd.Data

def TierPoolState.text : TierPoolState → String
  | .provisioning => "provisioning"
  | .healthy => "healthy"
  | .degraded => "degraded"
  | .unmounted => "unmounted"
  | .error => "error"
  | .destroying => "destroying"

def TierSlotState.text : TierSlotState → String
  | .empty => "empty"
  | .assigned => "assigned"
  | .degraded => "degraded"
  | .missing => "missing"

inductive StoreError where
  | name (error : NameError)
  | tierNameRequired
  | slotNameRequired
  | arrayIDNotPositive
  | arrayPathRequired
  | useAssignArray
  | unsupportedKind (kind : String)
  | backingRefRequired
  | backingRefNotMount (kind : String)
  | notFound
  | notEmpty (pool tier : String) (state : TierSlotState)
  | arrayTaken (path pool tier : String)
  | backingTaken (kind ref pool tier : String)
  | invalidPoolState (state : String)
  | invalidSlotState (state : String)
  | poolTransition (current next : TierPoolState)
  | slotTransition (current next : TierSlotState)
  | assignedWithoutArray (slot : String)
  | reasonRequired
  | rankNotPositive
  | targetFillRange
  | fullThresholdRange
  | targetAboveFull
  | rankTaken (rank : Int) (pool : String)
  | slotInUse
  | sql (context : String)
deriving DecidableEq, Repr

/-- The text of an error; what SQLite adds after the context is left out. -/
def StoreError.message : StoreError → String
  | .name error => error.message
  | .tierNameRequired => "tier name is required"
  | .slotNameRequired => "tier slot name is required"
  | .arrayIDNotPositive => "array id must be positive"
  | .arrayPathRequired => "array path required"
  | .useAssignArray => "use AssignArrayToTier for mdadm backings"
  | .unsupportedKind kind => "unsupported backing kind " ++ quoted kind
  | .backingRefRequired => "backing ref required"
  | .backingRefNotMount kind => kind ++ " backing ref must be a mount path under /mnt"
  | .notFound => "not found"
  | .notEmpty pool tier state => "tier " ++ pool ++ "/" ++ tier ++ " is already in state " ++ state.text
  | .arrayTaken path pool tier => "array " ++ path ++ " is already assigned to tier " ++ pool ++ "/" ++ tier
  | .backingTaken kind ref pool tier =>
    kind ++ " " ++ quoted ref ++ " is already assigned to tier " ++ pool ++ "/" ++ tier
  | .invalidPoolState state => "invalid tier pool state " ++ quoted state
  | .invalidSlotState state => "invalid tier slot state " ++ quoted state
  | .poolTransition current next =>
    "invalid tier state transition " ++ quoted current.text ++ " -> " ++ quoted next.text
  | .slotTransition current next =>
    "invalid tier slot state transition " ++ quoted current.text ++ " -> " ++ quoted next.text
  | .assignedWithoutArray slot => "cannot transition empty tier slot " ++ slot ++ " to assigned without an array"
  | .reasonRequired => "error reason is required"
  | .rankNotPositive => "rank must be a positive integer"
  | .targetFillRange => "target_fill_pct must be between 0 and 100"
  | .fullThresholdRange => "full_threshold_pct must be between 0 and 100"
  | .targetAboveFull => "target_fill_pct must not exceed full_threshold_pct"
  | .rankTaken rank pool => "a tier level with rank " ++ toString rank ++ " already exists in pool " ++ pool
  | .slotInUse => "tier slot in use"
  | .sql context => context

def validTierPoolTransitions : TierPoolState → List TierPoolState
  | .provisioning => [.healthy, .error, .destroying]
  | .healthy => [.provisioning, .degraded, .error, .unmounted, .destroying]
  | .degraded => [.provisioning, .healthy, .error, .destroying]
  | .unmounted => [.provisioning, .error, .destroying]
  | .error => [.provisioning, .destroying, .healthy, .degraded]
  | .destroying => []

def validTierSlotTransitions : TierSlotState → List TierSlotState
  | .empty => [.assigned]
  | .assigned => [.empty, .degraded, .missing]
  | .degraded => [.assigned]
  | .missing => [.assigned]

def canTransition {α : Type} [DecidableEq α] (valid : α → List α) (current next : α) : Bool :=
  current = next || (valid current).contains next

def checkPoolName (name : String) : Except StoreError Unit :=
  match validateTierInstanceName name with
  | .ok () => .ok ()
  | .error error => .error (.name error)

def require (condition : Prop) [Decidable condition] (error : StoreError) : Except StoreError Unit :=
  if condition then .ok () else .error error

def found {α : Type} (row : Option α) : Except StoreError α :=
  match row with
  | some value => .ok value
  | none => .error .notFound

def validateTierPoolState (state : String) : Except StoreError TierPoolState :=
  match [TierPoolState.provisioning, .healthy, .degraded, .unmounted, .error, .destroying].find? fun known =>
      known.text = state with
  | some known => .ok known
  | none => .error (.invalidPoolState state)

def validateTierSlotState (state : String) : Except StoreError TierSlotState :=
  match [TierSlotState.empty, .assigned, .degraded, .missing].find? fun known => known.text = state with
  | some known => .ok known
  | none => .error (.invalidSlotState state)

def normalizeArrayPath (array : String) : String :=
  let trimmed := trimSpace array
  if trimmed = "" then ""
  else if Text.startsWith trimmed.toList "/dev/".toList then trimmed
  else "/dev/" ++ trimmed

def validateFill (targetFillPct fullThresholdPct : Int) : Except StoreError Unit := do
  require (0 ≤ targetFillPct ∧ targetFillPct ≤ 100) .targetFillRange
  require (0 ≤ fullThresholdPct ∧ fullThresholdPct ≤ 100) .fullThresholdRange
  require (targetFillPct ≤ fullThresholdPct) .targetAboveFull

/-- The kinds `AssignBackingToTier` accepts. -/
def backingKind (kind : String) : Except StoreError BackingKind :=
  if kind = "zfs" then .ok .zfs
  else if kind = "btrfs" then .ok .btrfs
  else if kind = "bcachefs" then .ok .bcachefs
  else if kind = "mdadm" then .error .useAssignArray
  else .error (.unsupportedKind kind)

section Accepted

variable {α : Type} {accepted : α}

@[simp] theorem require_eq_ok {condition : Prop} [Decidable condition] {error : StoreError} {done : Unit} :
    require condition error = .ok done ↔ condition := by
  unfold require
  split <;> simp_all

@[simp] theorem found_eq_ok {row : Option α} : found row = .ok accepted ↔ row = some accepted := by
  cases row <;> simp [found]

@[simp] theorem checkPoolName_eq_ok {name : String} {done : Unit} :
    checkPoolName name = .ok done ↔ ValidPoolName name := by
  unfold checkPoolName ValidPoolName
  cases validateTierInstanceName name <;> simp

end Accepted

namespace TierTables

variable (tables : TierTables)

def assignArrayToTier (poolName tierName : String) (arrayID : Int) (arrayPath : String) :
    Except StoreError Statement := do
  checkPoolName poolName
  let tierName := trimSpace tierName
  require (tierName ≠ "") .tierNameRequired
  require (0 < arrayID) .arrayIDNotPositive
  let arrayPath := normalizeArrayPath arrayPath
  require (arrayPath ≠ "") .arrayPathRequired
  let pool ← found (tables.poolNamed poolName)
  let slot ← found (tables.slot pool.id tierName)
  require (slot.state = .empty) (.notEmpty poolName tierName slot.state)
  match tables.holder fun tier => tier.arrayID = some arrayID with
  | some (existingPool, existingTier) => .error (.arrayTaken arrayPath existingPool existingTier)
  | none => return .assignSlot pool.id tierName (some arrayID) (some arrayPath) .mdadm arrayPath

def assignBackingToTier (poolName tierName kind ref : String) : Except StoreError Statement := do
  checkPoolName poolName
  let tierName := trimSpace tierName
  require (tierName ≠ "") .tierNameRequired
  let backing ← backingKind kind
  let ref := trimSpace ref
  require (ref ≠ "") .backingRefRequired
  require (backing = .zfs ∨ Text.startsWith ref.toList "/mnt/".toList) (.backingRefNotMount kind)
  let pool ← found (tables.poolNamed poolName)
  let slot ← found (tables.slot pool.id tierName)
  require (slot.state = .empty) (.notEmpty poolName tierName slot.state)
  match tables.holder fun tier => tier.backingKind = backing && tier.backingRef = some ref with
  | some (existingPool, existingTier) => .error (.backingTaken kind ref existingPool existingTier)
  | none => return .assignSlot pool.id tierName none none backing ref

/-- One `UPDATE`; that it changed no row is seen from `RowsAffected`. -/
def clearTierAssignment (poolName tierName : String) : Except StoreError Statement := do
  checkPoolName poolName
  let tierName := trimSpace tierName
  require (tierName ≠ "") .tierNameRequired
  let pool ← found (tables.poolNamed poolName)
  let _ ← found (tables.slot pool.id tierName)
  return .clearSlot pool.id tierName

/-- Nothing is written when the slot is in the state already. -/
def transitionTierSlotState (tierName slot next : String) : Except StoreError (Option Statement) := do
  checkPoolName tierName
  require (trimSpace slot ≠ "") .slotNameRequired
  let next ← validateTierSlotState next
  let pool ← found (tables.poolNamed tierName)
  let current ← found (tables.slot pool.id slot)
  if current.state = next then return none
  require (canTransition validTierSlotTransitions current.state next) (.slotTransition current.state next)
  match next with
  | .empty => return some (.emptySlot pool.id slot)
  | .assigned =>
    require (current.state ≠ .empty) (.assignedWithoutArray slot)
    return some (.setSlotState pool.id slot .assigned)
  | .degraded | .missing => return some (.setSlotState pool.id slot next)

def transitionTierInstanceState (name next : String) : Except StoreError (Option Statement) := do
  checkPoolName name
  let next ← validateTierPoolState next
  let current ← found (tables.poolNamed name)
  if current.state = next then return none
  require (canTransition validTierPoolTransitions current.state next) (.poolTransition current.state next)
  return some (.setPoolState name next (if next = .error then some "tier entered error state" else none))

def setTierInstanceError (name reason : String) : Except StoreError Statement := do
  checkPoolName name
  let reason := trimSpace reason
  require (reason ≠ "") .reasonRequired
  let current ← found (tables.poolNamed name)
  require (current.state = .error ∨ canTransition validTierPoolTransitions current.state .error)
    (.poolTransition current.state .error)
  return .setPoolState name .error (some reason)

/-- The pool row is not looked at. -/
def setTierExpansionError (name reason : String) : Except StoreError Statement := do
  checkPoolName name
  return .setPoolReason name reason

/-- The rank is checked against the pool's slots; the name is not. -/
def addTierSlot (poolName slotName : String) (rank targetFillPct fullThresholdPct : Int) :
    Except StoreError Statement := do
  checkPoolName poolName
  let slotName := trimSpace slotName
  require (slotName ≠ "") .slotNameRequired
  require (0 < rank) .rankNotPositive
  validateFill targetFillPct fullThresholdPct
  let pool ← found (tables.poolNamed poolName)
  require (¬ tables.tiers.any fun tier => tier.rankKey = (pool.id, rank)) (.rankTaken rank poolName)
  return .insertSlot
    ⟨pool.id, slotName, rank, .empty, none, none, targetFillPct, fullThresholdPct, .mdadm, none⟩

def deleteTierSlot (poolName slotName : String) : Except StoreError Statement := do
  checkPoolName poolName
  let slotName := trimSpace slotName
  require (slotName ≠ "") .slotNameRequired
  let pool ← found (tables.poolNamed poolName)
  let slot ← found (tables.slot pool.id slotName)
  require (slot.state = .empty) .slotInUse
  return .deleteSlot pool.id slotName

end TierTables

inductive TierOp where
  | assignArrayToTier (poolName tierName : String) (arrayID : Int) (arrayPath : String)
  | assignBackingToTier (poolName tierName kind ref : String)
  | clearTierAssignment (poolName tierName : String)
  | transitionTierSlotState (tierName slot next : String)
  | transitionTierInstanceState (name next : String)
  | setTierInstanceError (name reason : String)
  | setTierExpansionError (name reason : String)
  | addTierSlot (poolName slotName : String) (rank targetFillPct fullThresholdPct : Int)
  | deleteTierSlot (poolName slotName : String)
deriving DecidableEq, Repr

/-- What the code decides to run: at most one statement. -/
def TierOp.plan (tables : TierTables) : TierOp → Except StoreError (Option Statement)
  | .assignArrayToTier poolName tierName arrayID arrayPath =>
    some <$> tables.assignArrayToTier poolName tierName arrayID arrayPath
  | .assignBackingToTier poolName tierName kind ref =>
    some <$> tables.assignBackingToTier poolName tierName kind ref
  | .clearTierAssignment poolName tierName => some <$> tables.clearTierAssignment poolName tierName
  | .transitionTierSlotState tierName slot next => tables.transitionTierSlotState tierName slot next
  | .transitionTierInstanceState name next => tables.transitionTierInstanceState name next
  | .setTierInstanceError name reason => some <$> tables.setTierInstanceError name reason
  | .setTierExpansionError name reason => some <$> TierTables.setTierExpansionError name reason
  | .addTierSlot poolName slotName rank targetFillPct fullThresholdPct =>
    some <$> tables.addTierSlot poolName slotName rank targetFillPct fullThresholdPct
  | .deleteTierSlot poolName slotName => some <$> tables.deleteTierSlot poolName slotName

/-- The words that wrap an error of a statement. -/
def TierOp.context : TierOp → Statement → String
  | .transitionTierSlotState .., .emptySlot .. => "clear tier slot"
  | .assignArrayToTier .., _ | .assignBackingToTier .., _ => "assign tier slot"
  | .clearTierAssignment .., _ => "clear tier slot"
  | .transitionTierSlotState .., _ => "update tier slot state"
  | .transitionTierInstanceState .., _ => "update tier pool state"
  | .setTierInstanceError .., _ => "set tier pool error"
  | .setTierExpansionError .., _ => "set tier expansion error"
  | .addTierSlot .., _ => "insert tier slot"
  | .deleteTierSlot .., _ => "delete tier slot"

/-- A call without others in between: the database it leaves and the error it returns.
An error rolls the transaction back. -/
def TierDb.call (db : TierDb) (op : TierOp) : TierDb × Option StoreError :=
  match op.plan db.toTierTables with
  | .error error => (db, some error)
  | .ok none => (db, none)
  | .ok (some statement) =>
    match db.exec statement with
    | some after => (after, none)
    | none => (db, some (.sql (op.context statement)))

end Tierd.Tiers
