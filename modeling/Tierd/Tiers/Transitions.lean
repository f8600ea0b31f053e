import Tierd.Data.Index
import Tierd.Data.Runs
import Tierd.Tiers.Constraints

namespace Tierd.Tiers

open Tierd.Data

inductive PoolCall where
  | transitionTierInstanceState (name next : String)
  | setTierInstanceError (name reason : String)
deriving DecidableEq, Repr

def PoolCall.name : PoolCall → String
  | .transitionTierInstanceState name _ | .setTierInstanceError name _ => name

def PoolCall.op : PoolCall → TierOp
  | .transitionTierInstanceState name next => .transitionTierInstanceState name next
  | .setTierInstanceError name reason => .setTierInstanceError name reason

/-- A call between its read and its `UPDATE`, with the state it has read. -/
structure Checked where
  name : String
  current : TierPoolState
  statement : Statement
deriving DecidableEq, Repr

/-- A call checks the row it read and then runs an unconditional `UPDATE`, outside a transaction. -/
structure PoolCalls where
  db : TierDb
  inFlight : Nat → Option Checked

inductive PoolCallEvent where
  | read (caller : Nat) (call : PoolCall)
  | store (caller : Nat)
deriving DecidableEq, Repr

namespace PoolCalls

/-- The first half of a call.  A call that its guards reject, or that finds nothing to
change, returns here. -/
def read (state : PoolCalls) (caller : Nat) (call : PoolCall) : PoolCalls :=
  match state.inFlight caller, state.db.poolNamed call.name, call.op.plan state.db.toTierTables with
  | none, some pool, .ok (some statement) =>
    { state with
      inFlight := Function.update state.inFlight caller (some ⟨call.name, pool.state, statement⟩) }
  | _, _, _ => state

/-- The `UPDATE` of a call. -/
def store (state : PoolCalls) (caller : Nat) : PoolCalls :=
  match state.inFlight caller with
  | none => state
  | some checked =>
    ⟨(state.db.exec checked.statement).getD state.db, Function.update state.inFlight caller none⟩

def step (state : PoolCalls) : PoolCallEvent → PoolCalls
  | .read caller call => state.read caller call
  | .store caller => state.store caller

def start (db : TierDb) : PoolCalls := ⟨db, fun _ => none⟩

/-- The state of a pool in the table. -/
def poolState (state : PoolCalls) (name : String) : Option TierPoolState :=
  (state.db.poolNamed name).map TierPoolRow.state

end PoolCalls

/-- A call stores its change when the state it has read is still the stored one. -/
def StillCurrent (state : PoolCalls) : PoolCallEvent → Prop
  | .store caller => ∀ checked ∈ state.inFlight caller, ∀ stored ∈ state.poolState checked.name,
      stored = checked.current
  | .read .. => True

instance (state : PoolCalls) : (event : PoolCallEvent) → Decidable (StillCurrent state event)
  | .store caller => inferInstanceAs (Decidable (∀ checked ∈ state.inFlight caller,
      ∀ stored ∈ state.poolState checked.name, stored = checked.current))
  | .read .. => isTrue trivial

def ChangesChecked (state : PoolCalls) : Prop :=
  ∀ caller checked, state.inFlight caller = some checked →
    ∃ next reason, checked.statement = .setPoolState checked.name next reason ∧
      (next = checked.current ∨ next ∈ validTierPoolTransitions checked.current)

theorem planned_change {tables : TierTables} {call : PoolCall} {pool : TierPoolRow} {statement : Statement}
    (found : tables.poolNamed call.name = some pool)
    (planned : call.op.plan tables = .ok (some statement)) :
    ∃ next reason, statement = .setPoolState call.name next reason ∧
      (next = pool.state ∨ next ∈ validTierPoolTransitions pool.state) := by
  cases call with
  | transitionTierInstanceState name next =>
    obtain ⟨row, state, reason, stored, rfl, allowed, _⟩ := transitionTierInstanceState_accepted planned
    cases found.symm.trans stored
    exact ⟨state, reason, rfl, .inr allowed⟩
  | setTierInstanceError name reason =>
    obtain ⟨accepted, decided, ⟨⟩⟩ := map_eq_ok.mp planned
    obtain ⟨row, stored, rfl, allowed⟩ := setTierInstanceError_accepted decided
    cases found.symm.trans stored
    exact ⟨.error, _, rfl, allowed.imp_left Eq.symm⟩

theorem ChangesChecked.step {state : PoolCalls} (inFlight : ChangesChecked state) (event : PoolCallEvent) :
    ChangesChecked (state.step event) := by
  cases event with
  | read caller call =>
    simp only [PoolCalls.step, PoolCalls.read]
    split
    case h_1 pool statement _ found planned =>
      intro other checked pending
      rcases update_eq_some_iff.mp pending with ⟨_, ⟨⟩⟩ | ⟨_, before⟩
      · exact planned_change found planned
      · exact inFlight other checked before
    case h_2 => exact inFlight
  | store caller =>
    simp only [PoolCalls.step, PoolCalls.store]
    split
    case h_1 => exact inFlight
    case h_2 =>
      intro other checked pending
      rcases update_eq_some_iff.mp pending with ⟨_, ⟨⟩⟩ | ⟨_, before⟩
      exact inFlight other checked before

theorem poolNamed_setPoolState (tables : TierTables) (name : String) (next : TierPoolState)
    (reason : Option String) (wanted : String) :
    (Statement.apply tables (.setPoolState name next reason)).poolNamed wanted =
      if wanted = name then
        (tables.poolNamed wanted).map fun pool => { pool with state := next, errorReason := reason }
      else tables.poolNamed wanted := by
  have keeps : ∀ pool : TierPoolRow, { pool with state := next, errorReason := reason }.name = pool.name :=
    fun _ => rfl
  exact find?_changeRow keeps wanted

theorem poolState_step {state : PoolCalls} {event : PoolCallEvent} (inFlight : ChangesChecked state)
    (current : StillCurrent state event) {name : String} {before : TierPoolState}
    (stored : state.poolState name = some before) :
    ∃ after, (state.step event).poolState name = some after ∧
      (after = before ∨ after ∈ validTierPoolTransitions before) := by
  cases event with
  | read caller call =>
    refine ⟨before, ?_, .inl rfl⟩
    simp only [PoolCalls.step, PoolCalls.read]
    split <;> exact stored
  | store caller =>
    simp only [PoolCalls.step, PoolCalls.store]
    split
    case h_1 => exact ⟨before, stored, .inl rfl⟩
    case h_2 checked pending =>
      unfold TierDb.exec
      split
      case isFalse => exact ⟨before, stored, .inl rfl⟩
      case isTrue =>
        obtain ⟨next, reason, written, allowed⟩ := inFlight caller checked pending
        simp only [PoolCalls.poolState, Option.getD_some, written, poolNamed_setPoolState]
        by_cases same : name = checked.name
        · obtain ⟨pool, found, _⟩ := Option.map_eq_some_iff.mp stored
          rw [current checked pending before (same ▸ stored)]
          exact ⟨next, by simp [same, same ▸ found], allowed⟩
        · exact ⟨before, by simpa [same, PoolCalls.poolState] using stored, .inl rfl⟩

theorem run_changesChecked (db : TierDb) (events : List PoolCallEvent) :
    ChangesChecked (run PoolCalls.step (.start db) events) := by
  have preserved : ∀ (state : PoolCalls) (event : PoolCallEvent),
      ChangesChecked state → ChangesChecked (state.step event) := fun _ event inFlight => inFlight.step event
  have idle : ChangesChecked (.start db) := by
    intro caller checked pending
    cases pending
  exact run_invariant preserved events idle

/-- In every interleaving of calls that store only what they checked against the stored
state, each change of a pool's state is an edge, and a pool being destroyed stays so. -/
theorem pool_states_follow_edges (db : TierDb) {events : List PoolCallEvent}
    (current : Guarded PoolCalls.step StillCurrent (.start db) events) (name : String) :
    (∀ before event later, events = before ++ event :: later →
      ∀ old new, (run PoolCalls.step (.start db) before).poolState name = some old →
        (run PoolCalls.step (.start db) (before ++ [event])).poolState name = some new →
        new = old ∨ new ∈ validTierPoolTransitions old) ∧
    (∀ before later, events = before ++ later →
      (run PoolCalls.step (.start db) before).poolState name = some .destroying →
      (run PoolCalls.step (.start db) events).poolState name = some .destroying) := by
  have edge : ∀ before event later, events = before ++ event :: later →
      ∀ old, (run PoolCalls.step (.start db) before).poolState name = some old →
        ∃ new, (run PoolCalls.step (.start db) (before ++ [event])).poolState name = some new ∧
          (new = old ∨ new ∈ validTierPoolTransitions old) := by
    intro before event later split old stored
    rw [run_append]
    exact poolState_step (run_changesChecked db before) (split ▸ current).at_split stored
  refine ⟨?_, ?_⟩
  · intro before event later split old new stored after
    obtain ⟨reached, found, allowed⟩ := edge before event later split old stored
    cases found.symm.trans after
    exact allowed
  · intro before later split stored
    induction later generalizing before with
    | nil => rwa [split, List.append_nil]
    | cons event rest ih =>
      obtain ⟨reached, found, same | impossible⟩ := edge before event rest split _ stored
      · exact ih (before ++ [event]) (by simpa using split) (same ▸ found)
      · cases impossible

def errorAfterDelete : List PoolCallEvent :=
  [.read 1 (.transitionTierInstanceState "media" "degraded"), .store 1,
    .read 2 (.transitionTierInstanceState "media" "destroying"), .store 2,
    .read 1 (.setTierInstanceError "media" "provision failed"), .store 1]

theorem deleted_pool_stays_destroying :
    (run PoolCalls.step (.start healthyPool) errorAfterDelete).poolState "media" = some .destroying :=
  (pool_states_follow_edges healthyPool (by decide : Guarded PoolCalls.step StillCurrent
    (.start healthyPool) errorAfterDelete) "media").2 (errorAfterDelete.take 4) (errorAfterDelete.drop 4)
    (by decide) (by decide)

def errorOvertakenByDelete : List PoolCallEvent :=
  [.read 1 (.setTierInstanceError "media" "provision failed"),
    .read 2 (.transitionTierInstanceState "media" "destroying"), .store 2, .store 1]

/-- An error checked before a delete is stored after it. -/
theorem stale_error_ends_destroying :
    (run PoolCalls.step (.start healthyPool) (errorOvertakenByDelete.take 3)).poolState "media" =
      some .destroying ∧
    (run PoolCalls.step (.start healthyPool) errorOvertakenByDelete).poolState "media" = some .error ∧
    .error ∉ validTierPoolTransitions .destroying := by
  decide

end Tierd.Tiers
