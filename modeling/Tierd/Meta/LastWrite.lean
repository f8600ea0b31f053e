import Tierd.Meta.Keys

namespace Tierd.Meta

open Tierd.Data PoolMetaStore

inductive StoreOp where
  | put (inode : UInt64) (rank : Int) (record : Record)
  | putBlocking (inode : UInt64) (rank : Int) (record : Record)
  | delete (inode : UInt64) (rank : Int)
  | move (inode : UInt64) (fromRank toRank : Int)
  | get (inode : UInt64) (rank : Int)
deriving DecidableEq, Repr

inductive StoreEvent where
  | op (op : StoreOp)
  | writer (rank : Int) (index : Nat) (step : Shard.WriterStep)
deriving DecidableEq, Repr

section

variable (config : StoreConfig)

def PoolMetaStore.apply (store : PoolMetaStore) : StoreOp → PoolMetaStore
  | .put inode rank record => (store.put config inode rank record).2
  | .putBlocking inode rank record => store.putBlocking config inode rank record
  | .delete inode rank => store.delete config inode rank
  | .move inode fromRank toRank => (store.move config inode fromRank toRank).2
  | .get inode rank => (store.get config inode rank).2

def PoolMetaStore.step (store : PoolMetaStore) : StoreEvent → PoolMetaStore
  | .op op => store.apply config op
  | .writer rank index step => store.writerStep rank index step

def PoolMetaStore.movedRecord (store : PoolMetaStore) (inode : UInt64) (fromRank toRank : Int) :
    Option Record :=
  if fromRank = toRank then none
  else
    match (store.get config inode fromRank).1 with
    | .ok (some record) =>
      if config.known toRank then some { record with tierIdx := UInt8.ofInt toRank } else none
    | _ => none

abbrev Ledger := Int → UInt64 → Option Bytes

def Ledger.set (ledger : Ledger) (rank : Int) (inode : UInt64) (value : Option Bytes) : Ledger :=
  fun other target => if other = rank ∧ target = inode then value else ledger other target

/-- The record a `Move` is to carry: the last one written to its source, with the destination as its
tier. -/
def Ledger.moved (ledger : Ledger) (inode : UInt64) (fromRank toRank : Int) : Option Record :=
  if fromRank = toRank ∨ config.known fromRank = false ∨ config.known toRank = false then none
  else
    match (ledger fromRank inode).map decodeRecord with
    | some (.ok record) => some { record with tierIdx := UInt8.ofInt toRank }
    | _ => none

/-- Record an operation issued on `store`. A refused `Put`, an operation on an unknown rank and a
`Move` of nothing are not recorded. -/
def Ledger.record (ledger : Ledger) (store : PoolMetaStore) : StoreOp → Ledger
  | .put inode rank record =>
    if (store.put config inode rank record).1 then ledger.set rank inode (some record.encode)
    else ledger
  | .putBlocking inode rank record =>
    if config.known rank then ledger.set rank inode (some record.encode) else ledger
  | .delete inode rank => if config.known rank then ledger.set rank inode none else ledger
  | .move inode fromRank toRank =>
    match ledger.moved config inode fromRank toRank with
    | some record => (ledger.set fromRank inode none).set toRank inode (some record.encode)
    | none => ledger
  | .get _ _ => ledger

/-- The store beside its ledger. -/
def ledgerStep (state : PoolMetaStore × Ledger) (event : StoreEvent) : PoolMetaStore × Ledger :=
  (state.1.step config event,
    match event with
    | .op op => state.2.record config state.1 op
    | .writer _ _ _ => state.2)

/-- No `Delete` overtakes a waiting write to its key, and no commit fails. -/
def InTurn (store : PoolMetaStore) : StoreEvent → Prop
  | .op (.delete inode rank) => config.known rank = true → store.pending config rank inode = false
  | .op _ => True
  | .writer _ _ step => step ≠ .flushFailed

instance InTurn.decidable (store : PoolMetaStore) :
    ∀ event, Decidable (InTurn config store event)
  | .op (.delete _ _) => inferInstanceAs (Decidable (_ → _))
  | .op (.move _ _ _) => isTrue trivial
  | .op (.put _ _ _) => isTrue trivial
  | .op (.putBlocking _ _ _) => isTrue trivial
  | .op (.get _ _) => isTrue trivial
  | .writer _ _ _ => inferInstanceAs (Decidable (_ ≠ _))

/-- `Get` is not behind the last write to the key: a cached record of that tier is what was last
written, and without one no write to the key is waiting. -/
def UpToDate (store : PoolMetaStore) (inode : UInt64) (rank : Int) : Prop :=
  if ∃ cached ∈ store.cache.get inode, cached.onRank rank then
    config.known rank = true ∧
      (store.settled config rank inode).map decodeRecord = (store.cache.get inode).map .ok
  else store.pending config rank inode = false
deriving Decidable

/-- A `Move` reads the last record of its source, and no write to its destination is waiting. -/
def MovesLatest (store : PoolMetaStore) : StoreEvent → Prop
  | .op (.move inode fromRank toRank) =>
    fromRank ≠ toRank → config.known toRank = true →
      UpToDate config store inode fromRank ∧
        (store.settled config fromRank inode ≠ none → store.pending config toRank inode = false)
  | _ => True

instance MovesLatest.decidable (store : PoolMetaStore) :
    ∀ event, Decidable (MovesLatest config store event)
  | .op (.move _ _ _) => inferInstanceAs (Decidable (_ → _))
  | .op (.delete _ _) => isTrue trivial
  | .op (.put _ _ _) => isTrue trivial
  | .op (.putBlocking _ _ _) => isTrue trivial
  | .op (.get _ _) => isTrue trivial
  | .writer _ _ _ => isTrue trivial

end

variable {config : StoreConfig} {store : PoolMetaStore} {ledger : Ledger}

/-- The store settles to what the ledger says. -/
def Settles (config : StoreConfig) (store : PoolMetaStore) (ledger : Ledger) : Prop :=
  ∀ rank inode, store.settled config rank inode = ledger rank inode

def LedgerAgrees (config : StoreConfig) (state : PoolMetaStore × Ledger) : Prop :=
  Settles config state.1 state.2

theorem move_cases (config : StoreConfig) (store : PoolMetaStore) (inode : UInt64)
    (fromRank toRank : Int) :
    (store.movedRecord config inode fromRank toRank = none ∧
      ((store.move config inode fromRank toRank).2 = store ∨
        (store.move config inode fromRank toRank).2 = (store.get config inode fromRank).2)) ∨
    (∃ record, store.movedRecord config inode fromRank toRank = some record ∧
      fromRank ≠ toRank ∧ config.known toRank = true ∧
      (store.move config inode fromRank toRank).2 =
        (store.get config inode fromRank).2.moveRecord config inode fromRank toRank record) := by
  unfold movedRecord move
  by_cases same : fromRank = toRank
  · simp [same]
  · simp only [same, ↓reduceIte]
    cases found : store.get config inode fromRank with
    | mk result after =>
      cases result with
      | error reason => simp
      | ok value =>
        cases value with
        | none => simp
        | some record =>
          by_cases known : config.known toRank = true
          · refine .inr ⟨{ record with tierIdx := UInt8.ofInt toRank }, ?_⟩
            simp [known, same]
          · simp [known]

theorem get_of_upToDate {inode : UInt64} {rank : Int} (current : UpToDate config store inode rank)
    (known : config.known rank = true) :
    (store.get config inode rank).1 = match (store.settled config rank inode).map decodeRecord with
      | some (.ok record) => .ok (some record)
      | some (.error reason) => .error reason
      | none => .ok none := by
  unfold UpToDate at current
  rcases get_cases config store inode rank with ⟨cached, found, onRank, answer⟩ | ⟨missed, answer⟩
  · rw [if_pos ⟨cached, found, onRank⟩, found] at current
    rw [answer, current.2]
    rfl
  · have uncached : ¬ ∃ cached ∈ store.cache.get inode, cached.onRank rank := by
      rintro ⟨cached, found, onRank⟩
      exact missed cached found onRank
    rw [if_neg uncached] at current
    rw [answer, settled_of_not_pending current, getStored, if_pos known,
      stored]
    cases (store.shardFor config rank inode).get inode with
    | none => rfl
    | some bytes =>
      dsimp only [Option.map_some]
      cases decodeRecord bytes <;> rfl

theorem get_of_unknown {inode : UInt64} {rank : Int} (current : UpToDate config store inode rank)
    (unknown : config.known rank = false) : (store.get config inode rank).1 = .ok none := by
  unfold UpToDate at current
  rcases get_cases config store inode rank with ⟨cached, found, onRank, answer⟩ | ⟨missed, answer⟩
  · rw [if_pos ⟨cached, found, onRank⟩, unknown] at current
    cases current.1
  · rw [answer, getStored, unknown]
    rfl

theorem moved_source {inode : UInt64} {fromRank toRank : Int} {record : Record}
    (moved : ledger.moved config inode fromRank toRank = some record) :
    config.known fromRank = true ∧ ledger fromRank inode ≠ none := by
  unfold Ledger.moved at moved
  split at moved
  case isTrue => cases moved
  case isFalse possible =>
    simp only [not_or, Bool.not_eq_false] at possible
    refine ⟨possible.2.1, fun absent => ?_⟩
    rw [absent] at moved
    cases moved

theorem movedRecord_of_current {inode : UInt64} {fromRank toRank : Int} (settles : Settles config store ledger)
    (latest : MovesLatest config store (.op (.move inode fromRank toRank))) :
    store.movedRecord config inode fromRank toRank = ledger.moved config inode fromRank toRank := by
  unfold movedRecord Ledger.moved
  by_cases same : fromRank = toRank
  · simp [same]
  · cases known : config.known toRank with
    | false =>
      simp only [same, if_false, Bool.false_eq_true]
      split <;> simp
    | true =>
      obtain ⟨current, _⟩ := latest same known
      cases source : config.known fromRank with
      | false => simp [same, get_of_unknown current source]
      | true =>
        simp only [same, get_of_upToDate current source, settles fromRank inode, if_false]
        cases (ledger fromRank inode).map decodeRecord with
        | none => rfl
        | some decoded => cases decoded <;> simp

theorem apply_settles (op : StoreOp) (inTurn : InTurn config store (.op op))
    (latest : MovesLatest config store (.op op)) (settles : Settles config store ledger) :
    Settles config (store.apply config op) (ledger.record config store op) := by
  intro rank inode
  cases op with
  | put target tier record =>
    simp only [apply, Ledger.record, put_settled]
    split <;> rename_i accepted
    · simp [accepted, Ledger.set]
    · simp only [settles rank inode]
      split
      · simp_all [Ledger.set]
      · rfl
  | putBlocking target tier record =>
    simp only [apply, Ledger.record, putBlocking_settled]
    by_cases known : config.known tier = true
    · simp only [known, true_and, ↓reduceIte, Ledger.set, settles rank inode]
    · simp [known, settles rank inode]
  | delete target tier =>
    simp only [apply, Ledger.record]
    by_cases known : config.known tier = true
    · simp only [known, ↓reduceIte, Ledger.set]
      split
      · rename_i same
        obtain ⟨rfl, rfl⟩ := same
        exact (delete_settled_iff known).mpr (inTurn known)
      · rename_i different
        rw [delete_settled_other different, settles rank inode]
    · simp only [delete, known, Bool.false_eq_true, ↓reduceIte]
      exact settles rank inode
  | move target fromRank toRank =>
    have carried := movedRecord_of_current settles latest
    simp only [apply, Ledger.record, ← carried]
    rcases move_cases config store target fromRank toRank with
      ⟨nothing, unchanged | read⟩ | ⟨record, moved, different, known, after⟩
    · simp only [nothing, unchanged]
      exact settles rank inode
    · simp only [nothing, read, get_settled]
      exact settles rank inode
    · obtain ⟨sourceKnown, present⟩ := moved_source (carried.symm.trans moved)
      have idle : (store.get config target fromRank).2.pending config toRank target = false := by
        rw [get_pending]
        exact (latest different known).2 ((settles fromRank target).trans_ne present)
      simp only [moved, after, Ledger.set]
      by_cases destination : rank = toRank ∧ inode = target
      · obtain ⟨rfl, rfl⟩ := destination
        simp [moveRecord_settled_destination different idle]
      · rw [if_neg destination]
        by_cases source : rank = fromRank ∧ inode = target
        · obtain ⟨rfl, rfl⟩ := source
          simp [moveRecord_settled_source sourceKnown]
        · rw [if_neg source, moveRecord_settled_other (fun same => absurd same source) destination,
            get_settled, settles rank inode]
  | get target tier =>
    simp only [apply, Ledger.record, get_settled]
    exact settles rank inode

theorem step_settles (state : PoolMetaStore × Ledger) (event : StoreEvent)
    (agrees : LedgerAgrees config state)
    (allowed : InTurn config state.1 event ∧ MovesLatest config state.1 event) :
    LedgerAgrees config (ledgerStep config state event) := by
  cases event with
  | op op => exact apply_settles op allowed.1 allowed.2 agrees
  | writer rank index step =>
    intro other inode
    exact (writerStep_settled index allowed.1).trans (agrees other inode)

/-- In every run whose direct operations wait their turn and whose moves carry the latest records,
draining the queues leaves on disk, for every key, what the last operation on it asked for. -/
theorem drained_store_holds_last_operation {events : List StoreEvent}
    (inTurn : Guarded (ledgerStep config)
      (fun state event => InTurn config state.1 event ∧ MovesLatest config state.1 event)
      (store, store.settled config) events) (rank : Int) (inode : UInt64) :
    (run (ledgerStep config) (store, store.settled config) events).1.drainAll.stored config rank inode =
      (run (ledgerStep config) (store, store.settled config) events).2 rank inode := by
  have initially : LedgerAgrees config (store, store.settled config) := fun _ _ => rfl
  have agrees := guarded_run_invariant step_settles inTurn initially
  rw [drainAll_stored]
  exact agrees rank inode

def hotRecord : Record := ⟨recordVersion, pinHot, 1, 9, 3, 100⟩

def movedOn : List StoreEvent :=
  [.op (.putBlocking 7 1 hotRecord), .writer 1 0 .receive, .writer 1 0 .flush, .op (.move 7 1 2), .op (.delete 7 1)]

/-- Put, flush, move, delete at the source: the record stays at the destination. -/
theorem drained_store_holds_last_operation_moved :
    Guarded (ledgerStep .twoTiers)
      (fun state event => InTurn .twoTiers state.1 event ∧ MovesLatest .twoTiers state.1 event)
      (.opened, opened.settled .twoTiers) movedOn ∧
    (run (ledgerStep .twoTiers) (.opened, opened.settled .twoTiers) movedOn).1.drainAll.stored
      .twoTiers 2 7 = some { hotRecord with tierIdx := 2 }.encode := by
  have inTurn : Guarded (ledgerStep .twoTiers)
      (fun state event => InTurn .twoTiers state.1 event ∧ MovesLatest .twoTiers state.1 event)
      (.opened, opened.settled .twoTiers) movedOn := by decide
  exact ⟨inTurn, (drained_store_holds_last_operation inTurn 2 7).trans (by decide)⟩

/-- A delete issued while the put is still queued is undone by the flush: the
last operation on the key was the delete, yet the drained store holds the record. -/
theorem queued_put_outlives_delete :
    (run (ledgerStep .twoTiers) (.opened, opened.settled .twoTiers)
      [.op (.putBlocking 7 1 hotRecord), .op (.delete 7 1), .writer 1 0 .receive,
        .writer 1 0 .flush]).2 1 7 = none ∧
    (run (ledgerStep .twoTiers) (.opened, opened.settled .twoTiers)
      [.op (.putBlocking 7 1 hotRecord), .op (.delete 7 1), .writer 1 0 .receive,
        .writer 1 0 .flush]).1.drainAll.stored .twoTiers 1 7 = some hotRecord.encode := by
  decide

end Tierd.Meta
