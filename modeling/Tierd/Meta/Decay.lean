import Tierd.Meta.LastWrite

namespace Tierd.Meta

open Tierd.Data List

/-- The shards in the order `IterateAll` reads them. -/
def allShards (config : StoreConfig) : List (Int × Nat) :=
  config.ranks.flatMap fun rank => (List.range (config.shardCount rank)).map fun index => (rank, index)

structure Commit where
  rank : Int
  index : Nat
  takes : Bool

def Commit.step (commit : Commit) : Shard.WriterStep := if commit.takes then .receive else .flush

def Record.halved (record : Record) : Record := { record with heatCounter := record.heatCounter / 2 }

namespace PoolMetaStore

def work (store : PoolMetaStore) (commits : List Commit) : PoolMetaStore :=
  commits.foldl (fun store commit => store.writerStep commit.rank commit.index commit.step) store

section Decay

variable (config : StoreConfig) (between : Nat → List Commit)

def decayRecord (rank : Int) (state : PoolMetaStore × Nat) (entry : UInt64 × Record) : PoolMetaStore × Nat :=
  let store := state.1.work (between state.2)
  if entry.2.heatCounter = 0 then (store, state.2 + 1)
  else (store.putBlocking config entry.1 (recordRank config rank entry.2) entry.2.halved, state.2 + 1)

/-- A shard is read from one snapshot; `between` is what the writers commit before each action. -/
def decayShard (state : PoolMetaStore × Nat) (place : Int × Nat) : PoolMetaStore × Nat :=
  let store := state.1.work (between state.2)
  (store.iterateShard place.1 place.2).foldl (decayRecord config between place.1) (store, state.2 + 1)

def decayAllHeat (store : PoolMetaStore) : PoolMetaStore :=
  ((allShards config).foldl (decayShard config between) (store, 0)).1

end Decay

def readStored (bytes : Bytes) : Except Bytes Record :=
  match decodeRecord bytes with
  | .ok record => .ok record
  | .error _ => .error bytes

def contents (config : StoreConfig) (store : PoolMetaStore) (rank : Int) (inode : UInt64) :
    Option (Except Bytes Record) :=
  (store.settled config rank inode).map readStored

end PoolMetaStore

/-- A store at rest: nothing is queued, and every key lies in the shard it hashes to. -/
structure RestingStore (config : StoreConfig) where
  store : PoolMetaStore
  idle : ∀ rank index, (store.shards rank index).batch = [] ∧ (store.shards rank index).queue = []
  homed : ∀ rank index key bytes, (store.shards rank index).disk[key]? = some bytes → config.shardIndex rank key = index

/-- Every record has half its heat, and nothing else has changed. -/
def Halved (config : StoreConfig) (before after : PoolMetaStore) : Prop :=
  ∀ rank inode, config.known rank = true →
    after.contents config rank inode = (before.contents config rank inode).map (Except.map Record.halved)

/-- Every record with heat reports the rank it is stored under. -/
def ReportsOwnRank (config : StoreConfig) (store : PoolMetaStore) : Prop :=
  ∀ rank inode record, config.known rank = true → store.contents config rank inode = some (.ok record) →
    record.heatCounter ≠ 0 → PoolMetaStore.recordRank config rank record = rank

theorem readStored_halved {bytes : Bytes} {record : Record} (decoded : decodeRecord bytes = .ok record) :
    PoolMetaStore.readStored record.halved.encode = .ok record.halved := by
  have current : record.version = recordVersion := decodeRecord_version decoded
  have current : record.halved.version = recordVersion := current
  unfold PoolMetaStore.readStored
  rw [Record.decode_current current]

theorem halved_ne_self {record : Record} (heated : record.heatCounter ≠ 0) : record.halved ≠ record := by
  intro same
  have counter : record.heatCounter / 2 = record.heatCounter := congrArg Record.heatCounter same
  have value := congrArg UInt32.toNat counter
  rw [UInt32.toNat_div] at value
  have zero : record.heatCounter.toNat = 0 := by
    change record.heatCounter.toNat / 2 = _ at value
    omega
  exact heated (UInt32.toNat_inj.mp zero)

namespace PoolMetaStore

variable {config : StoreConfig} {store : PoolMetaStore}

theorem work_settled (commits : List Commit) (rank : Int) (inode : UInt64) :
    (store.work commits).settled config rank inode = store.settled config rank inode := by
  induction commits generalizing store with
  | nil => rfl
  | cons first rest ih =>
    have working : first.step ≠ .flushFailed := by
      unfold Commit.step
      split <;> decide
    exact ih.trans (writerStep_settled first.index working)

theorem work_shards_idle (commits : List Commit) {rank : Int} {index : Nat}
    (batch : (store.shards rank index).batch = []) (queue : (store.shards rank index).queue = []) :
    (store.work commits).shards rank index = store.shards rank index := by
  induction commits generalizing store with
  | nil => rfl
  | cons first rest ih =>
    have same : (store.writerStep first.rank first.index first.step).shards rank index = store.shards rank index := by
      rw [writerStep, setShard_shards]
      split
      case isFalse => rfl
      case isTrue here =>
        obtain ⟨rfl, rfl⟩ := here
        generalize store.shards first.rank first.index = shard at batch queue
        obtain ⟨disk, held, waiting⟩ := shard
        cases batch
        cases queue
        unfold Commit.step
        split <;> simp [Shard.writerStep, Journal.receive, Journal.flush, Data.commit]
    exact (ih (same ▸ batch) (same ▸ queue)).trans same

variable {between : Nat → List Commit} {state : PoolMetaStore × Nat}

theorem decayRecord_settled (rank : Int) (entry : UInt64 × Record) (other : Int) (target : UInt64) :
    (decayRecord config between rank state entry).1.settled config other target =
      if entry.2.heatCounter ≠ 0 ∧ config.known (recordRank config rank entry.2) = true ∧
          other = recordRank config rank entry.2 ∧ target = entry.1 then some entry.2.halved.encode
      else state.1.settled config other target := by
  unfold decayRecord
  by_cases cold : entry.2.heatCounter = 0
  · rw [if_pos cold, if_neg fun writes => writes.1 cold]
    exact work_settled _ _ _
  · rw [if_neg cold]
    dsimp only
    rw [putBlocking_settled, work_settled]
    simp only [ne_eq, cold, not_false_eq_true, true_and]

theorem decayRecord_shards_idle (rank : Int) (entry : UInt64 × Record) {place : Int × Nat}
    (elsewhere : entry.2.heatCounter ≠ 0 →
      place ≠ (recordRank config rank entry.2, config.shardIndex (recordRank config rank entry.2) entry.1))
    (batch : (state.1.shards place.1 place.2).batch = []) (queue : (state.1.shards place.1 place.2).queue = []) :
    (decayRecord config between rank state entry).1.shards place.1 place.2 = state.1.shards place.1 place.2 := by
  have worked := work_shards_idle (between state.2) batch queue
  unfold decayRecord
  by_cases cold : entry.2.heatCounter = 0
  · rw [if_pos cold]
    exact worked
  · rw [if_neg cold]
    dsimp only
    unfold putBlocking
    split
    case isFalse => exact worked
    case isTrue =>
      rw [← worked]
      change (setShard _ _ _ _).shards place.1 place.2 = _
      rw [setShard_shards, if_neg]
      intro here
      exact elsewhere cold (Prod.ext here.1 here.2)

section Shard

variable {rank : Int} {entries : List (UInt64 × Record)}

theorem foldl_decayRecord_untouched
    (own : ∀ entry ∈ entries, entry.2.heatCounter ≠ 0 → recordRank config rank entry.2 = rank) {other : Int}
    {target : UInt64}
    (absent : ¬ (other = rank ∧ target ∈ entries.map Prod.fst)) :
    (entries.foldl (decayRecord config between rank) state).1.settled config other target =
      state.1.settled config other target := by
  induction entries generalizing state with
  | nil => rfl
  | cons entry rest ih =>
    rw [foldl_cons]
    have later : ¬ (other = rank ∧ target ∈ rest.map Prod.fst) :=
      fun here => absent ⟨here.1, mem_cons_of_mem _ here.2⟩
    rw [ih (fun next member => own next (mem_cons_of_mem _ member)) later, decayRecord_settled, if_neg]
    rintro ⟨heated, _, same, rfl⟩
    rw [own entry mem_cons_self heated] at same
    exact absent ⟨same, by simp⟩

theorem foldl_decayRecord_halves (known : config.known rank = true)
    (own : ∀ entry ∈ entries, entry.2.heatCounter ≠ 0 → recordRank config rank entry.2 = rank)
    (once : (entries.map Prod.fst).Nodup) {entry : UInt64 × Record} (member : entry ∈ entries) :
    (entries.foldl (decayRecord config between rank) state).1.settled config rank entry.1 =
      if entry.2.heatCounter = 0 then state.1.settled config rank entry.1 else some entry.2.halved.encode := by
  induction entries generalizing state with
  | nil => cases member
  | cons first rest ih =>
    rw [map_cons, nodup_cons] at once
    have ownRest : ∀ next ∈ rest, next.2.heatCounter ≠ 0 → recordRank config rank next.2 = rank :=
      fun next inRest => own next (mem_cons_of_mem _ inRest)
    rw [foldl_cons]
    rcases mem_cons.mp member with rfl | later
    · rw [foldl_decayRecord_untouched ownRest fun here => once.1 here.2, decayRecord_settled]
      by_cases cold : entry.2.heatCounter = 0
      · rw [if_pos cold, if_neg fun writes => writes.1 cold]
      · have home := own entry mem_cons_self cold
        rw [if_neg cold, home, if_pos ⟨cold, known, rfl, rfl⟩]
    · have different : ¬ (first.2.heatCounter ≠ 0 ∧ config.known (recordRank config rank first.2) = true ∧
          rank = recordRank config rank first.2 ∧ entry.1 = first.1) :=
        fun writes => once.1 (writes.2.2.2 ▸ mem_map_of_mem later)
      rw [ih ownRest once.2 later, decayRecord_settled, if_neg different]

theorem foldl_decayRecord_shards {place : Int × Nat}
    (elsewhere : ∀ entry ∈ entries, entry.2.heatCounter ≠ 0 →
      place ≠ (recordRank config rank entry.2, config.shardIndex (recordRank config rank entry.2) entry.1))
    (batch : (state.1.shards place.1 place.2).batch = []) (queue : (state.1.shards place.1 place.2).queue = []) :
    (entries.foldl (decayRecord config between rank) state).1.shards place.1 place.2 =
      state.1.shards place.1 place.2 := by
  induction entries generalizing state with
  | nil => rfl
  | cons entry rest ih =>
    have kept : (decayRecord config between rank state entry).1.shards place.1 place.2 =
      state.1.shards place.1 place.2 :=
      decayRecord_shards_idle rank entry (elsewhere entry mem_cons_self) batch queue
    rw [foldl_cons, ih (fun next member => elsewhere next (mem_cons_of_mem _ member))
      (kept ▸ batch) (kept ▸ queue)]
    exact kept

end Shard

theorem mem_iterateShard {rank : Int} {index : Nat} {inode : UInt64} {record : Record} :
    (inode, record) ∈ store.iterateShard rank index ↔
      ∃ bytes, (store.shards rank index).disk[inode]? = some bytes ∧ decodeRecord bytes = .ok record := by
  unfold iterateShard Shard.iterate
  rw [mem_filterMap]
  constructor
  · rintro ⟨⟨key, bytes⟩, listed, read⟩
    have found := Std.ExtTreeMap.mem_toList_iff_getElem?_eq_some.mp listed
    dsimp only at read
    split at read
    case h_1 decoded readBack =>
      cases read
      exact ⟨bytes, found, readBack⟩
    case h_2 => cases read
  · rintro ⟨bytes, found, decoded⟩
    exact ⟨(inode, bytes), Std.ExtTreeMap.mem_toList_iff_getElem?_eq_some.mpr found, by simp only [decoded]⟩

theorem iterateShard_nodup (rank : Int) (index : Nat) : ((store.iterateShard rank index).map Prod.fst).Nodup := by
  have keys : ((store.shards rank index).disk.toList.map Prod.fst).Nodup := by
    refine pairwise_map.mpr (Std.ExtTreeMap.distinct_keys_toList.imp fun different same => different ?_)
    rw [same]
    exact Std.ReflCmp.compare_self
  refine keys.sublist ?_
  unfold iterateShard Shard.iterate
  induction (store.shards rank index).disk.toList with
  | nil => exact List.Sublist.refl []
  | cons entry rest ih =>
    cases decoded : decodeRecord entry.2 with
    | ok record =>
      rw [filterMap_cons_some (b := (entry.1, record)) (by simp only [decoded])]
      exact ih.cons_cons entry.1
    | error reason =>
      rw [filterMap_cons_none (by simp only [decoded])]
      exact ih.cons entry.1

end PoolMetaStore

section Walk

open PoolMetaStore

variable {config : StoreConfig} {between : Nat → List Commit}

theorem RestingStore.settled_eq (resting : RestingStore config) (rank : Int) (inode : UInt64) :
    resting.store.settled config rank inode =
      (resting.store.shards rank (config.shardIndex rank inode)).disk[inode]? := by
  have idle := resting.idle rank (config.shardIndex rank inode)
  unfold PoolMetaStore.settled PoolMetaStore.shardFor Journal.settled Journal.waiting
  rw [idle.1, idle.2]
  rfl

theorem RestingStore.mem_entries (resting : RestingStore config) {store : PoolMetaStore} {rank : Int} {index : Nat}
    (same : store.shards rank index = resting.store.shards rank index) {inode : UInt64} {record : Record}
    (listed : (inode, record) ∈ store.iterateShard rank index) :
    config.shardIndex rank inode = index ∧ resting.store.contents config rank inode = some (.ok record) := by
  obtain ⟨bytes, found, decoded⟩ := mem_iterateShard.mp listed
  rw [same] at found
  have home := resting.homed rank index inode bytes found
  refine ⟨home, ?_⟩
  unfold PoolMetaStore.contents readStored
  rw [resting.settled_eq, home, found]
  simp only [Option.map_some, decoded]

variable (resting : RestingStore config) (own : ReportsOwnRank config resting.store)

include own

theorem decayShard_halves (between : Nat → List Commit) {state : PoolMetaStore × Nat} {place : Int × Nat}
    (known : config.known place.1 = true)
    (same : state.1.shards place.1 place.2 = resting.store.shards place.1 place.2) :
    let after := (decayShard config between state place).1
    (∀ inode, config.shardIndex place.1 inode = place.2 →
      after.contents config place.1 inode = (resting.store.contents config place.1 inode).map
        (Except.map Record.halved)) ∧
    (∀ rank inode, (rank, config.shardIndex rank inode) ≠ place →
      after.settled config rank inode = state.1.settled config rank inode) ∧
    ∀ other, other ≠ place → state.1.shards other.1 other.2 = resting.store.shards other.1 other.2 →
      after.shards other.1 other.2 = resting.store.shards other.1 other.2 := by
  intro after
  have idle := resting.idle place.1 place.2
  have opened : (state.1.work (between state.2)).shards place.1 place.2 = resting.store.shards place.1 place.2 :=
    (work_shards_idle _ (same ▸ idle.1) (same ▸ idle.2)).trans same
  have entries : ∀ entry ∈ (state.1.work (between state.2)).iterateShard place.1 place.2,
      config.shardIndex place.1 entry.1 = place.2 ∧
        (entry.2.heatCounter ≠ 0 → recordRank config place.1 entry.2 = place.1) := by
    intro entry listed
    obtain ⟨home, stored⟩ := resting.mem_entries opened listed
    exact ⟨home, fun heated => own place.1 entry.1 entry.2 known stored heated⟩
  have ownEntries := fun entry listed => (entries entry listed).2
  refine ⟨fun inode home => ?_, fun rank inode elsewhere => ?_, fun other different unchanged => ?_⟩
  · have start : (state.1.work (between state.2)).settled config place.1 inode =
        (resting.store.shards place.1 place.2).disk[inode]? := by
      rw [work_settled, ← home, ← resting.settled_eq]
      unfold settled shardFor
      rw [home, same]
    have initial : resting.store.contents config place.1 inode =
        ((resting.store.shards place.1 place.2).disk[inode]?).map readStored := by
      rw [contents, resting.settled_eq, home]
    rw [initial]
    by_cases listed : ∃ record, (inode, record) ∈ (state.1.work (between state.2)).iterateShard place.1 place.2
    · obtain ⟨record, listed⟩ := listed
      obtain ⟨bytes, found, decoded⟩ := mem_iterateShard.mp listed
      rw [opened] at found
      have written : after.settled config place.1 inode =
          if record.heatCounter = 0 then (state.1.work (between state.2)).settled config place.1 inode
          else some record.halved.encode :=
        foldl_decayRecord_halves known ownEntries (iterateShard_nodup place.1 place.2) listed
      have read : readStored bytes = .ok record := by
        unfold readStored
        rw [decoded]
      rw [contents, written, found, Option.map_some, Option.map_some, read]
      split
      case isTrue cold =>
        have half : record.halved = record := by
          unfold Record.halved
          rw [cold]
          obtain ⟨_, _, _, _, _, _⟩ := record
          cases cold
          rfl
        rw [start, found, Option.map_some, read]
        exact congrArg (fun value => some (Except.ok value)) half.symm
      case isFalse =>
        rw [Option.map_some, readStored_halved decoded]
        rfl
    · have absent : ¬ (place.1 = place.1 ∧ inode ∈
          ((state.1.work (between state.2)).iterateShard place.1 place.2).map Prod.fst) := by
        rintro ⟨_, member⟩
        obtain ⟨entry, inEntries, rfl⟩ := mem_map.mp member
        exact listed ⟨entry.2, inEntries⟩
      have untouched : after.settled config place.1 inode = (state.1.work (between state.2)).settled
        config place.1 inode :=
        foldl_decayRecord_untouched ownEntries absent
      rw [contents, untouched, start]
      cases found : (resting.store.shards place.1 place.2).disk[inode]? with
      | none => rfl
      | some bytes =>
        cases decoded : decodeRecord bytes with
        | ok record => exact absurd ⟨record, mem_iterateShard.mpr ⟨bytes, opened ▸ found, decoded⟩⟩ listed
        | error reason =>
          simp only [Option.map_some, readStored, decoded]
          rfl
  · have absent : ¬ (rank = place.1 ∧ inode ∈
        ((state.1.work (between state.2)).iterateShard place.1 place.2).map Prod.fst) := by
      rintro ⟨rfl, member⟩
      obtain ⟨entry, inEntries, rfl⟩ := mem_map.mp member
      exact elsewhere (Prod.ext rfl (entries entry inEntries).1)
    have untouched : after.settled config rank inode = (state.1.work (between state.2)).settled config rank inode :=
      foldl_decayRecord_untouched ownEntries absent
    rw [untouched, work_settled]
  · have otherIdle := resting.idle other.1 other.2
    have worked : (state.1.work (between state.2)).shards other.1 other.2 = resting.store.shards other.1 other.2 :=
      (work_shards_idle _ (unchanged ▸ otherIdle.1) (unchanged ▸ otherIdle.2)).trans unchanged
    have kept : after.shards other.1 other.2 = (state.1.work (between state.2)).shards other.1 other.2 := by
      refine foldl_decayRecord_shards (fun entry listed heated here => different ?_) (worked ▸ otherIdle.1)
        (worked ▸ otherIdle.2)
      rw [(entries entry listed).2 heated, (entries entry listed).1] at here
      exact here
    exact kept.trans worked

theorem foldl_decayShard_halves {places : List (Int × Nat)} (once : places.Nodup)
    (known : ∀ place ∈ places, config.known place.1 = true) {state : PoolMetaStore × Nat}
    (same : ∀ place ∈ places, state.1.shards place.1 place.2 = resting.store.shards place.1 place.2)
    (rank : Int) (inode : UInt64) :
    let after := (places.foldl (decayShard config between) state).1
    ((rank, config.shardIndex rank inode) ∈ places →
      after.contents config rank inode = (resting.store.contents config rank inode).map (Except.map Record.halved)) ∧
    ((rank, config.shardIndex rank inode) ∉ places →
      after.settled config rank inode = state.1.settled config rank inode) := by
  induction places generalizing state with
  | nil => exact ⟨nofun, fun _ => rfl⟩
  | cons place rest ih =>
    rw [nodup_cons] at once
    obtain ⟨here, elsewhere, untouched⟩ :=
      decayShard_halves resting own between (known place mem_cons_self) (same place mem_cons_self)
    have later := ih once.2 (fun next member => known next (mem_cons_of_mem _ member))
      (fun next member => untouched next (fun equal => once.1 (equal ▸ member))
        (same next (mem_cons_of_mem _ member)))
    refine ⟨fun member => ?_, fun absent => ?_⟩
    · rcases mem_cons.mp member with first | inRest
      · have settled := later.2 (first ▸ once.1)
        rw [contents, foldl_cons, settled]
        obtain ⟨rfl, home⟩ := Prod.mk.inj (show (rank, config.shardIndex rank inode) = (place.1, place.2) from first)
        exact here inode home
      · exact later.1 inRest
    · rw [foldl_cons, later.2 fun inRest => absent (mem_cons_of_mem _ inRest)]
      exact elsewhere rank inode fun first => absent (first ▸ mem_cons_self)

omit own

theorem allShards_nodup (config : StoreConfig) : (allShards config).Nodup := by
  unfold allShards
  refine nodup_flatMap.mpr ⟨fun rank _ => ?_, ?_⟩
  · exact nodup_range.map fun first second equal => (Prod.mk.inj equal).2
  · refine config.ascending.imp fun less => disjoint_left.mpr fun place first second => ?_
    obtain ⟨_, _, rfl⟩ := mem_map.mp first
    obtain ⟨_, _, same⟩ := mem_map.mp second
    exact less.ne' (Prod.mk.inj same).1

section Misses

variable {record : Record} {bytes : Bytes}

def Missed (record : Record) (bytes : Bytes) (value : Option Bytes) : Prop :=
  value = some bytes ∨ ∃ other : Record, value = some other.encode ∧ other.tierIdx ≠ record.tierIdx

theorem tierIdx_ne_of_reported {rank walked : Int} {other : Record} (astray : recordRank config rank record ≠ rank)
    (reported : recordRank config walked other = rank) : other.tierIdx ≠ record.tierIdx := by
  intro same
  unfold recordRank at astray reported
  rw [same] at reported
  dsimp only at astray reported
  split at astray
  case isTrue => exact astray rfl
  case isFalse named =>
    rw [if_neg named] at reported
    exact astray reported

theorem decayRecord_missed {rank walked : Int} {inode : UInt64} {state : PoolMetaStore × Nat} {entry : UInt64 × Record}
    (astray : recordRank config rank record ≠ rank) (missed : Missed record bytes (state.1.settled config rank inode)) :
    Missed record bytes ((decayRecord config between walked state entry).1.settled config rank inode) := by
  rw [decayRecord_settled]
  split
  case isTrue writes => exact .inr ⟨entry.2.halved, rfl, tierIdx_ne_of_reported astray writes.2.2.1.symm⟩
  case isFalse => exact missed

theorem decayAllHeat_missed {rank : Int} {inode : UInt64} {store : PoolMetaStore}
    (astray : recordRank config rank record ≠ rank) (missed : Missed record bytes (store.settled config rank inode)) :
    Missed record bytes ((decayAllHeat config between store).settled config rank inode) := by
  have entries : ∀ walked (state : PoolMetaStore × Nat) (entry : UInt64 × Record),
      Missed record bytes (state.1.settled config rank inode) →
      Missed record bytes ((decayRecord config between walked state entry).1.settled config rank inode) :=
    fun walked state entry => decayRecord_missed astray
  have shards : ∀ (state : PoolMetaStore × Nat) (place : Int × Nat),
    Missed record bytes (state.1.settled config rank inode) →
      Missed record bytes ((decayShard config between state place).1.settled config rank inode) := by
    intro state place before
    have opened : Missed record bytes ((state.1.work (between state.2)).settled config rank inode) := by
      rw [work_settled]
      exact before
    exact run_invariant (entries place.1) ((state.1.work (between state.2)).iterateShard place.1 place.2) opened
  exact run_invariant shards (allShards config) missed

theorem not_halved_of_missed {value : Option Bytes} (decoded : decodeRecord bytes = .ok record)
    (heated : record.heatCounter ≠ 0) (missed : Missed record bytes value) :
    value.map readStored ≠ some (.ok record.halved) := by
  rcases missed with rfl | ⟨other, rfl, different⟩
  · intro same
    have read : readStored bytes = .ok record := by
      unfold readStored
      rw [decoded]
    rw [Option.map_some, read] at same
    exact halved_ne_self heated (Except.ok.inj (Option.some.inj same)).symm
  · intro same
    unfold readStored at same
    rw [Option.map_some, decodeRecord_encode] at same
    by_cases current : other.version = recordVersion
    · rw [if_pos current] at same
      have equal : other = record.halved := Except.ok.inj (Option.some.inj same)
      rw [equal] at different
      exact different rfl
    · rw [if_neg current] at same
      cases same

end Misses

end Walk

/-- A decay pass over a store at rest, with the writers working at any time, halves every record
once and changes nothing else exactly when every record with heat reports the rank it is stored
under. -/
theorem decay_halves_iff (config : StoreConfig) (between : Nat → List Commit) (resting : RestingStore config) :
    Halved config resting.store (PoolMetaStore.decayAllHeat config between resting.store) ↔
      ReportsOwnRank config resting.store := by
  constructor
  · intro halves rank inode record known stored heated
    by_contra astray
    obtain ⟨bytes, found, read⟩ := Option.map_eq_some_iff.mp stored
    have decoded : decodeRecord bytes = .ok record := by
      unfold PoolMetaStore.readStored at read
      split at read
      case h_1 decoded =>
        cases read
        exact decoded
      case h_2 => cases read
    have missed : Missed record bytes
      ((PoolMetaStore.decayAllHeat config between resting.store).settled config rank inode) :=
      decayAllHeat_missed astray (.inl found)
    refine not_halved_of_missed decoded heated missed ?_
    have after := halves rank inode known
    rw [stored] at after
    exact after
  · intro own rank inode known
    have places : ∀ place ∈ allShards config, config.known place.1 = true := by
      intro place member
      obtain ⟨listed, inRanks, inShards⟩ := mem_flatMap.mp member
      obtain ⟨_, _, rfl⟩ := mem_map.mp inShards
      exact decide_eq_true inRanks
    have listed : (rank, config.shardIndex rank inode) ∈ allShards config := by
      refine mem_flatMap.mpr ⟨rank, of_decide_eq_true known, mem_map.mpr ⟨_, mem_range.mpr ?_, rfl⟩⟩
      exact Nat.mod_lt _ (config.shardCount_pos rank)
    exact (foldl_decayShard_halves resting own (allShards_nodup config) places (fun _ _ => rfl) rank inode).1 listed

/-- A pool with ranks 1 and 257, one shard each. -/
def wideTiers : StoreConfig where
  ranks := [1, 257]
  shardCount := fun _ => 1
  sum64 := id
  ascending := by decide
  shardCount_pos := fun _ => Nat.one_pos

/-- As written for rank 257, whose low byte is 1. -/
def wideRecord : Record := ⟨recordVersion, pinNone, UInt8.ofInt 257, 9, 8, 100⟩

def wideStore : PoolMetaStore where
  shards := fun rank index =>
    if rank = 257 ∧ index = 0 then
      ⟨(∅ : Std.ExtTreeMap UInt64 Bytes).insert 5 wideRecord.encode, [], []⟩ else ⟨∅, [], []⟩
  cache := .newInodeCache defaultMaxCacheEntries

def wideResting : RestingStore wideTiers where
  store := wideStore
  idle rank index := by
    unfold wideStore
    dsimp only
    split <;> exact ⟨rfl, rfl⟩
  homed rank index key bytes found := by
    unfold wideStore at found
    dsimp only at found
    split at found
    case isTrue here => exact (Nat.mod_one _).trans here.2.symm
    case isFalse => simp at found

/-- The record of rank 257 is reported under rank 1 and keeps its heat where it is. -/
theorem wide_rank_not_halved :
    PoolMetaStore.recordRank wideTiers 257 wideRecord = 1 ∧
      ¬ Halved wideTiers wideResting.store (PoolMetaStore.decayAllHeat wideTiers (fun _ => []) wideResting.store) := by
  have reported : PoolMetaStore.recordRank wideTiers 257 wideRecord = 1 := by decide
  have decoded : decodeRecord wideRecord.encode = .ok wideRecord := Record.decode_current rfl
  have stored : wideResting.store.settled wideTiers 257 5 = some wideRecord.encode := by
    rw [wideResting.settled_eq]
    exact Std.ExtTreeMap.getElem?_insert_self
  refine ⟨reported, fun halves => ?_⟩
  have astray : PoolMetaStore.recordRank wideTiers 257 wideRecord ≠ 257 := by
    rw [reported]
    decide
  have missed : Missed wideRecord wideRecord.encode
      ((PoolMetaStore.decayAllHeat wideTiers (fun _ => []) wideResting.store).settled wideTiers 257 5) :=
    decayAllHeat_missed astray (.inl stored)
  refine not_halved_of_missed decoded (by decide) missed ?_
  have after := halves 257 5 (by decide)
  unfold PoolMetaStore.contents at after
  rw [stored, Option.map_some, Option.map_some] at after
  rw [after]
  unfold PoolMetaStore.readStored
  rw [decoded]
  rfl

end Tierd.Meta
