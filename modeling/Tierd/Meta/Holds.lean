import Tierd.Meta.LastWrite

namespace Tierd.Meta

open Tierd.Data PoolMetaStore

def Spells (fits : Option Record → Prop) : Option Bytes → Prop
  | none => fits none
  | some value => ∃ record, decodeRecord value = .ok record ∧ fits (some record)

structure Holds (config : StoreConfig) (rank : Int) (inode : UInt64) (fits : Option Record → Prop)
    (store : PoolMetaStore) : Prop where
  settles : Spells fits (store.settled config rank inode)
  cached : ∀ record, store.cache.get inode = some record → record.onRank rank →
    record.version = recordVersion ∧ fits (some record)

def Current (config : StoreConfig) (rank : Int) (inode : UInt64) (store : PoolMetaStore) : Prop :=
  (∃ record ∈ store.cache.get inode, record.onRank rank) ∨ store.pending config rank inode = false
deriving Decidable

/-- The record on disk, if it can be read. -/
def PoolMetaStore.storedRecord (config : StoreConfig) (store : PoolMetaStore) (rank : Int) (inode : UInt64) :
    Option Record :=
  match (store.stored config rank inode).map decodeRecord with
  | some (.ok record) => some record
  | _ => none

/-- An operation that does not write the record of the file; records of other
tiers do not claim to be of this one. -/
def Foreign (config : StoreConfig) (rank : Int) (inode : UInt64) (store : PoolMetaStore) : StoreOp → Prop
  | .put target tier record | .putBlocking target tier record =>
    ¬ (tier = rank ∧ target = inode) ∧ (target = inode → ¬ record.onRank rank)
  | .delete target tier => ¬ (tier = rank ∧ target = inode)
  | .move target _ _ => target ≠ inode
  | .get target tier =>
    if tier = rank ∧ target = inode then Current config rank inode store
    else target = inode → ∀ record ∈ store.storedRecord config tier target, ¬ record.onRank rank

instance Foreign.decidable (config : StoreConfig) (rank : Int) (inode : UInt64) (store : PoolMetaStore) :
    ∀ op, Decidable (Foreign config rank inode store op)
  | .put _ _ _ => inferInstanceAs (Decidable (_ ∧ _))
  | .putBlocking _ _ _ => inferInstanceAs (Decidable (_ ∧ _))
  | .delete _ _ => inferInstanceAs (Decidable (¬ _))
  | .move _ _ _ => inferInstanceAs (Decidable (_ ≠ _))
  | .get target tier => inferInstanceAs (Decidable
      (if tier = rank ∧ target = inode then Current config rank inode store
        else target = inode → ∀ record ∈ store.storedRecord config tier target, ¬ record.onRank rank))

variable {config : StoreConfig} {rank : Int} {inode : UInt64} {store : PoolMetaStore}
  {fits : Option Record → Prop} {record : Record}

theorem spells_encode (current : record.version = recordVersion) (good : fits (some record)) :
    Spells fits (some record.encode) :=
  ⟨record, Record.decode_current current, good⟩

theorem cachePut_agrees (current : record.version = recordVersion) (good : fits (some record))
    (cache : InodeCache) :
    ∀ found, (cache.put inode record).get inode = some found → found.onRank rank →
      found.version = recordVersion ∧ fits (some found) := by
  intro found stored _
  rcases InodeCache.put_self cache inode record with fresh | ⟨_, absent, unchanged⟩
  · cases fresh.symm.trans stored
    exact ⟨current, good⟩
  · rw [unchanged, absent] at stored
    cases stored

theorem cachePut_away {target : UInt64} (holds : Holds config rank inode fits store)
    (away : target = inode → ¬ record.onRank rank) :
    ∀ found, (store.cache.put target record).get inode = some found → found.onRank rank →
      found.version = recordVersion ∧ fits (some found) := by
  intro found stored onRank
  by_cases same : target = inode
  · subst same
    rcases InodeCache.put_self store.cache target record with fresh | ⟨_, absent, unchanged⟩
    · cases fresh.symm.trans stored
      exact absurd onRank (away rfl)
    · rw [unchanged, absent] at stored
      cases stored
  · rw [InodeCache.put_other (Ne.symm same)] at stored
    exact holds.cached found stored onRank

theorem cachePutChanged_away {target : UInt64} (holds : Holds config rank inode fits store)
    (away : target = inode → ¬ record.onRank rank) :
    ∀ found, (store.cache.putIfPlacementChanged target record).get inode = some found → found.onRank rank →
      found.version = recordVersion ∧ fits (some found) := by
  intro found stored onRank
  by_cases same : target = inode
  · subst same
    rcases InodeCache.putIfPlacementChanged_self store.cache target record with
      ⟨kept, now, sameTier, _, _⟩ | ⟨_, absent, unchanged⟩
    · cases now.symm.trans stored
      rw [Record.onRank, sameTier] at onRank
      exact absurd onRank (away rfl)
    · rw [unchanged, absent] at stored
      cases stored
  · rw [InodeCache.putIfPlacementChanged_other (Ne.symm same)] at stored
    exact holds.cached found stored onRank

theorem cacheDel_agrees {target : UInt64} (holds : Holds config rank inode fits store) :
    ∀ found, (store.cache.del target).get inode = some found → found.onRank rank →
      found.version = recordVersion ∧ fits (some found) := by
  intro found stored onRank
  by_cases same : target = inode
  · subst same
    rw [InodeCache.del_self] at stored
    cases stored
  · rw [InodeCache.del_other (Ne.symm same)] at stored
    exact holds.cached found stored onRank

theorem holds_putBlocking (known : config.known rank = true) (current : record.version = recordVersion)
    (good : fits (some record)) :
    Holds config rank inode fits (store.putBlocking config inode rank record) where
  settles := by
    rw [putBlocking_settled, if_pos ⟨known, rfl, rfl⟩]
    exact spells_encode current good
  cached := by
    simp only [putBlocking, known, ↓reduceIte, withCache_cache]
    exact cachePut_agrees current good store.cache

theorem Holds.put (holds : Holds config rank inode fits store)
    (current : record.version = recordVersion) (good : fits (some record)) :
    Holds config rank inode fits (store.put config inode rank record).2 where
  settles := by
    rw [put_settled]
    split
    case isTrue => exact spells_encode current good
    case isFalse => exact holds.settles
  cached := by
    have entry : ∀ found, (store.cache.putIfPlacementChanged inode record).get inode = some found →
        found.onRank rank → found.version = recordVersion ∧ fits (some found) := by
      intro found stored onRank
      rcases InodeCache.putIfPlacementChanged_self store.cache inode record with
        ⟨kept, now, _, _, rfl | before⟩ | ⟨_, absent, unchanged⟩
      · cases now.symm.trans stored
        exact ⟨current, good⟩
      · cases now.symm.trans stored
        exact holds.cached _ before onRank
      · rw [unchanged, absent] at stored
        cases stored
    unfold PoolMetaStore.put
    split
    case isTrue => split <;> exact entry
    case isFalse => exact holds.cached

theorem Holds.get (holds : Holds config rank inode fits store) (known : config.known rank = true)
    (fresh : Current config rank inode store) :
    ∃ found, (store.get config inode rank).1 = .ok found ∧
      (∀ record ∈ found, record.version = recordVersion) ∧ fits found ∧
      Holds config rank inode fits (store.get config inode rank).2 := by
  rcases get_cases config store inode rank with
    ⟨cached, stored, onRank, answer⟩ | ⟨missed, answer⟩
  · obtain ⟨current, good⟩ := holds.cached cached stored onRank
    rw [answer]
    refine ⟨some cached, rfl, ?_, good, holds⟩
    rintro record ⟨⟩
    exact current
  · have idle : store.pending config rank inode = false := by
      rcases fresh with ⟨cached, stored, onRank⟩ | idle
      · exact absurd onRank (missed cached stored)
      · exact idle
    have onDisk := holds.settles
    rw [settled_of_not_pending idle] at onDisk
    change Spells fits ((store.shardFor config rank inode).get inode) at onDisk
    rw [answer]
    simp only [getStored, known, ↓reduceIte]
    cases read : (store.shardFor config rank inode).get inode with
    | none =>
      rw [read] at onDisk
      exact ⟨none, rfl, by simp, onDisk, holds⟩
    | some bytes =>
      rw [read] at onDisk
      obtain ⟨record, decoded, good⟩ := onDisk
      have current := decodeRecord_version decoded
      simp only [decoded]
      refine ⟨some record, rfl, ?_, good, holds.settles, cachePut_agrees current good store.cache⟩
      rintro found ⟨⟩
      exact current

theorem Holds.writer (holds : Holds config rank inode fits store) (tier : Int) (index : Nat)
    {step : Shard.WriterStep} (commits : step ≠ .flushFailed) :
    Holds config rank inode fits (store.writerStep tier index step) where
  settles := by
    rw [writerStep_settled index commits]
    exact holds.settles
  cached := holds.cached

theorem Holds.crash (holds : Holds config rank inode fits store)
    (idle : store.pending config rank inode = false) : Holds config rank inode fits store.crash where
  settles := by
    rw [crash_settled idle]
    exact holds.settles
  cached := fun _ stored => nomatch stored

theorem apply_settled_foreign {op : StoreOp} (foreign : Foreign config rank inode store op) :
    (store.apply config op).settled config rank inode = store.settled config rank inode := by
  cases op with
  | put target tier record =>
    have elsewhere : ¬ ((store.put config target tier record).1 = true ∧ rank = tier ∧ inode = target) :=
      fun same => foreign.1 ⟨same.2.1.symm, same.2.2.symm⟩
    rw [apply, put_settled, if_neg elsewhere]
  | putBlocking target tier record =>
    have elsewhere : ¬ (config.known tier = true ∧ rank = tier ∧ inode = target) :=
      fun same => foreign.1 ⟨same.2.1.symm, same.2.2.symm⟩
    rw [apply, putBlocking_settled, if_neg elsewhere]
  | delete target tier =>
    exact delete_settled_other fun same => foreign ⟨same.1.symm, same.2.symm⟩
  | get target tier => exact get_settled
  | move target fromRank toRank =>
    have apart : target ≠ inode := foreign
    simp only [apply]
    rcases move_cases config store target fromRank toRank with
      ⟨_, unchanged | onlyRead⟩ | ⟨moved, _, _, _, after⟩
    · rw [unchanged]
    · rw [onlyRead, get_settled]
    · rw [after, moveRecord_settled_other (fun same => absurd same.2.symm apart)
        fun same => apart same.2.symm, get_settled]

theorem Holds.get_elsewhere (holds : Holds config rank inode fits store) {other : Int} {target : UInt64}
    (away : target = inode → ∀ record ∈ store.storedRecord config other target, ¬ record.onRank rank) :
    Holds config rank inode fits (store.get config target other).2 where
  settles := by
    rw [get_settled]
    exact holds.settles
  cached := by
    rcases get_cases config store target other with
      ⟨_, _, _, answer⟩ | ⟨_, answer⟩
    · rw [answer]
      exact holds.cached
    · rw [answer]
      unfold getStored
      split
      case isFalse => exact holds.cached
      case isTrue =>
        cases read : (store.shardFor config other target).get target with
        | none => exact holds.cached
        | some bytes =>
          cases decoded : decodeRecord bytes with
          | error reason =>
            simp only [decoded]
            exact holds.cached
          | ok record =>
            simp only [decoded, withCache_cache]
            have onDisk : store.storedRecord config other target = some record := by
              simp only [storedRecord, stored, read, Option.map_some, decoded]
            exact cachePut_away holds fun same => away same record onDisk

theorem Holds.cached_foreign (holds : Holds config rank inode fits store) (known : config.known rank = true)
    {op : StoreOp} (foreign : Foreign config rank inode store op) :
    ∀ record, (store.apply config op).cache.get inode = some record → record.onRank rank →
      record.version = recordVersion ∧ fits (some record) := by
  cases op with
  | put target tier record =>
    simp only [PoolMetaStore.apply, PoolMetaStore.put]
    split
    case isTrue => split <;> exact cachePutChanged_away holds foreign.2
    case isFalse => exact holds.cached
  | putBlocking target tier record =>
    simp only [PoolMetaStore.apply, PoolMetaStore.putBlocking]
    split
    case isTrue => exact cachePut_away holds foreign.2
    case isFalse => exact holds.cached
  | delete target tier =>
    simp only [PoolMetaStore.apply, PoolMetaStore.delete]
    split
    case isTrue => exact cacheDel_agrees holds
    case isFalse => exact holds.cached
  | get target tier =>
    simp only [Foreign] at foreign
    split at foreign
    case isTrue same =>
      obtain ⟨rfl, rfl⟩ := same
      obtain ⟨_, _, _, _, after⟩ := holds.get known foreign
      exact after.cached
    case isFalse => exact (holds.get_elsewhere foreign).cached
  | move target fromRank toRank =>
    have read : Holds config rank inode fits (store.get config target fromRank).2 :=
      holds.get_elsewhere fun same => absurd same foreign
    simp only [PoolMetaStore.apply]
    rcases move_cases config store target fromRank toRank with
      ⟨_, unchanged | onlyRead⟩ | ⟨moved, _, _, _, after⟩
    · rw [unchanged]
      exact holds.cached
    · rw [onlyRead]
      exact read.cached
    · rw [after, PoolMetaStore.moveRecord_cache]
      exact cachePut_away read fun same => absurd same foreign

theorem Holds.foreign (holds : Holds config rank inode fits store) (known : config.known rank = true)
    {op : StoreOp} (foreign : Foreign config rank inode store op) :
    Holds config rank inode fits (store.apply config op) where
  settles := by
    rw [apply_settled_foreign foreign]
    exact holds.settles
  cached := holds.cached_foreign known foreign

end Tierd.Meta
