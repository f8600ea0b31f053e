import Tierd.Meta.Store

namespace Tierd.Meta.PoolMetaStore

open Tierd.Data

variable {config : StoreConfig} {store : PoolMetaStore}
  {rank other toRank : Int} {inode target : UInt64} {record : Record}

@[simp] theorem withCache_pending (cache : InodeCache) :
    (store.withCache cache).pending config rank inode = store.pending config rank inode := rfl

@[simp] theorem withCache_settled (cache : InodeCache) :
    (store.withCache cache).settled config rank inode = store.settled config rank inode := rfl

@[simp] theorem withCache_cache (cache : InodeCache) : (store.withCache cache).cache = cache := rfl

@[simp] theorem setShard_cache (index : Nat) (shard : Shard) :
    (store.setShard rank index shard).cache = store.cache := rfl

@[simp] theorem setShardFor_cache (shard : Shard) :
    (store.setShardFor config rank inode shard).cache = store.cache := rfl

theorem setShard_shards (index position : Nat) (shard : Shard) :
    (store.setShard rank index shard).shards other position =
      if other = rank ∧ position = index then shard else store.shards other position := by
  by_cases sameRank : other = rank
  · subst sameRank
    by_cases sameIndex : position = index <;> simp [setShard, sameIndex]
  · simp [setShard, sameRank]

@[simp] theorem setShardFor_shardFor_self (shard : Shard) :
    (store.setShardFor config rank inode shard).shardFor config rank inode = shard := by
  simp [setShardFor, shardFor, setShard_shards]

theorem shardFor_setShardFor (shard : Shard) :
    (store.setShardFor config rank inode shard).shardFor config other target =
      if other = rank ∧ config.shardIndex other target = config.shardIndex rank inode then shard
      else store.shardFor config other target := by
  simp only [setShardFor, shardFor, setShard_shards]

variable {shard : Shard}

theorem settled_setShardFor
    (untouched : ∀ key, key ≠ inode →
      shard.settled key = (store.shardFor config rank inode).settled key) :
    (store.setShardFor config rank inode shard).settled config other target =
      if other = rank ∧ target = inode then shard.settled inode
      else store.settled config other target := by
  unfold settled
  rw [shardFor_setShardFor]
  by_cases sameKey : other = rank ∧ target = inode
  · obtain ⟨rfl, rfl⟩ := sameKey
    simp
  · rw [if_neg sameKey]
    split
    · rename_i sameShard
      obtain ⟨rfl, sameIndex⟩ := sameShard
      have different : target ≠ inode := fun same => sameKey ⟨rfl, same⟩
      rw [untouched target different, shardFor, shardFor, sameIndex]
    · rfl

theorem pending_setShardFor
    (untouched : ∀ key, key ≠ inode →
      shard.pending key = true → (store.shardFor config rank inode).pending key = true)
    (busy : (store.setShardFor config rank inode shard).pending config other target = true) :
    if other = rank ∧ target = inode then shard.pending inode = true
    else store.pending config other target = true := by
  unfold pending at busy ⊢
  rw [shardFor_setShardFor] at busy
  by_cases sameKey : other = rank ∧ target = inode
  · obtain ⟨rfl, rfl⟩ := sameKey
    simpa using busy
  · rw [if_neg sameKey]
    split at busy
    · rename_i sameShard
      obtain ⟨rfl, sameIndex⟩ := sameShard
      have different : target ≠ inode := fun same => sameKey ⟨rfl, same⟩
      have before := untouched target different busy
      rwa [shardFor, ← sameIndex] at before
    · exact busy

theorem pending_setShardFor_same
    (same : ∀ key, shard.pending key = (store.shardFor config rank inode).pending key) :
    (store.setShardFor config rank inode shard).pending config other target =
      store.pending config other target := by
  unfold pending
  rw [shardFor_setShardFor]
  split
  · rename_i sameShard
    obtain ⟨rfl, sameIndex⟩ := sameShard
    rw [same, shardFor, shardFor, sameIndex]
  · rfl

/-- One step of the writer of one shard. -/
def writerStep (store : PoolMetaStore) (rank : Int) (index : Nat) (step : Shard.WriterStep) :
    PoolMetaStore :=
  store.setShard rank index ((store.shards rank index).writerStep step)

@[simp] theorem writerStep_cache (index : Nat) (step : Shard.WriterStep) :
    (store.writerStep rank index step).cache = store.cache := rfl

variable (config store other target) in
theorem writerStep_shardFor (rank : Int) (index : Nat) (step : Shard.WriterStep) :
    (store.writerStep rank index step).shardFor config other target =
        (store.shardFor config other target).writerStep step ∨
      (store.writerStep rank index step).shardFor config other target =
        store.shardFor config other target := by
  simp only [writerStep, shardFor, setShard_shards]
  split
  · rename_i same
    obtain ⟨rfl, rfl⟩ := same
    exact .inl rfl
  · exact .inr rfl

theorem writerStep_settled (index : Nat) {step : Shard.WriterStep} (commits : step ≠ .flushFailed) :
    (store.writerStep rank index step).settled config other target =
      store.settled config other target := by
  unfold settled
  rcases writerStep_shardFor config store other target rank index step with moved | same
  · rw [moved, Shard.writerStep_settled commits]
  · rw [same]

theorem writerStep_pending (index : Nat) {step : Shard.WriterStep}
    (busy : (store.writerStep rank index step).pending config other target = true) :
    store.pending config other target = true := by
  unfold pending at busy ⊢
  rcases writerStep_shardFor config store other target rank index step with moved | same
  · rw [moved] at busy
    exact Shard.writerStep_pending busy
  · rwa [same] at busy

theorem drainAll_stored : store.drainAll.stored config rank inode = store.settled config rank inode :=
  Journal.drain_disk

@[simp] theorem drainAll_settled :
    store.drainAll.settled config rank inode = store.settled config rank inode :=
  Journal.drain_settled

theorem drainAll_pending (config : StoreConfig) (store : PoolMetaStore) (rank : Int) (inode : UInt64) :
    store.drainAll.pending config rank inode = false := rfl

@[simp] theorem drainAll_cache : store.drainAll.cache = store.cache := rfl

theorem settled_of_not_pending (idle : store.pending config rank inode = false) :
    store.settled config rank inode = store.stored config rank inode :=
  Journal.settled_of_not_pending idle

theorem crash_settled (idle : store.pending config rank inode = false) :
    store.crash.settled config rank inode = store.settled config rank inode := by
  rw [settled_of_not_pending idle]
  rfl

theorem enqueue_accepted {after : Shard} {value : Bytes}
    (accepted : shard.enqueue inode value = some after) :
    after = Journal.enqueue shard inode value := by
  unfold Shard.enqueue at accepted
  split at accepted
  · exact (Option.some.inj accepted).symm
  · contradiction

theorem put_settled :
    (store.put config inode rank record).2.settled config other target =
      if (store.put config inode rank record).1 = true ∧ other = rank ∧ target = inode then
        some record.encode
      else store.settled config other target := by
  unfold put
  split
  · split
    · rename_i shard accepted
      cases enqueue_accepted accepted
      have untouched : ∀ key, key ≠ inode →
          (Journal.enqueue (store.shardFor config rank inode) inode record.encode).settled key =
            (store.shardFor config rank inode).settled key := by
        intro key different
        rw [Journal.settled_enqueue, if_neg (Ne.symm different)]
      simp only [withCache_settled, true_and, settled_setShardFor untouched, Journal.settled_enqueue,
        ↓reduceIte]
    · simp
  · simp

theorem putBlocking_settled :
    (store.putBlocking config inode rank record).settled config other target =
      if config.known rank = true ∧ other = rank ∧ target = inode then some record.encode
      else store.settled config other target := by
  unfold putBlocking
  split
  · rename_i known
    have untouched : ∀ key, key ≠ inode →
        ((store.shardFor config rank inode).enqueueBlocking inode record.encode).settled key =
          (store.shardFor config rank inode).settled key := by
      intro key different
      rw [Shard.enqueueBlocking, Journal.settled_enqueue, if_neg (Ne.symm different),
        Shard.awaitRoom_settled]
    simp only [withCache_settled, settled_setShardFor untouched, known, true_and]
    rw [Shard.enqueueBlocking, Journal.settled_enqueue, if_pos rfl]
  · rename_i unknown
    simp [unknown]

theorem enqueue_pending_other {value : Bytes} {key : UInt64} (different : key ≠ inode)
    (busy : (Journal.enqueue shard inode value).pending key = true) : shard.pending key = true := by
  rw [Journal.pending_enqueue] at busy
  simpa [Ne.symm different] using busy

theorem put_pending_other (different : ¬ (other = rank ∧ target = inode))
    (busy : (store.put config inode rank record).2.pending config other target = true) :
    store.pending config other target = true := by
  unfold put at busy
  split at busy
  · split at busy
    · rename_i shard accepted
      cases enqueue_accepted accepted
      have after := pending_setShardFor (fun key => enqueue_pending_other) busy
      rwa [if_neg different] at after
    · exact busy
  · exact busy

theorem putBlocking_pending_other (different : ¬ (other = rank ∧ target = inode))
    (busy : (store.putBlocking config inode rank record).pending config other target = true) :
    store.pending config other target = true := by
  unfold putBlocking at busy
  split at busy
  · have untouched : ∀ key, key ≠ inode →
        ((store.shardFor config rank inode).enqueueBlocking inode record.encode).pending key = true →
          (store.shardFor config rank inode).pending key = true :=
      fun key differs waiting => Shard.awaitRoom_pending (enqueue_pending_other differs waiting)
    have after := pending_setShardFor untouched busy
    rwa [if_neg different] at after
  · exact busy

theorem del_untouched {key : UInt64} (different : key ≠ inode) :
    (shard.del inode).settled key = shard.settled key :=
  Journal.settled_deleteNow_other (Ne.symm different)

theorem del_pending {key : UInt64} :
    (shard.del inode).pending key = shard.pending key := rfl

theorem delete_settled_other (different : ¬ (other = rank ∧ target = inode)) :
    (store.delete config inode rank).settled config other target =
      store.settled config other target := by
  unfold delete
  split
  · rw [withCache_settled, settled_setShardFor (fun key => del_untouched), if_neg different]
  · rfl

theorem delete_settled_iff (known : config.known rank = true) :
    (store.delete config inode rank).settled config rank inode = none ↔
      store.pending config rank inode = false := by
  simp only [delete, known, ↓reduceIte, withCache_settled,
    settled_setShardFor (fun key => del_untouched), and_self]
  exact Journal.settled_deleteNow_iff

@[simp] theorem delete_pending :
    (store.delete config inode rank).pending config other target =
      store.pending config other target := by
  unfold delete
  split
  · exact pending_setShardFor_same (fun _ => del_pending)
  · rfl

theorem getStored_settled :
    (store.getStored config inode rank).2.settled config other target =
      store.settled config other target := by
  unfold getStored
  split
  · split
    · rfl
    · split <;> rfl
  · rfl

theorem get_settled :
    (store.get config inode rank).2.settled config other target =
      store.settled config other target := by
  unfold get
  split
  · split
    · rfl
    · exact getStored_settled
  · exact getStored_settled

theorem getStored_shards : (store.getStored config inode rank).2.shards = store.shards := by
  unfold getStored
  split
  · split
    · rfl
    · split <;> rfl
  · rfl

theorem get_shards : (store.get config inode rank).2.shards = store.shards := by
  unfold get
  split
  · split
    · rfl
    · exact getStored_shards
  · exact getStored_shards

theorem get_pending :
    (store.get config inode rank).2.pending config other target =
      store.pending config other target := by
  simp only [pending, shardFor, get_shards]

theorem get_cases (config : StoreConfig) (store : PoolMetaStore) (inode : UInt64) (rank : Int) :
    (∃ cached, store.cache.get inode = some cached ∧ cached.onRank rank ∧
      store.get config inode rank = (.ok (some cached), store)) ∨
    ((∀ cached, store.cache.get inode = some cached → ¬ cached.onRank rank) ∧
      store.get config inode rank = store.getStored config inode rank) := by
  unfold get
  cases found : store.cache.get inode with
  | none => simp
  | some cached =>
    by_cases onRank : cached.onRank rank
    · exact .inl ⟨cached, rfl, onRank, by simp [onRank]⟩
    · refine .inr ⟨?_, by simp [onRank]⟩
      intro entry same
      cases same
      exact onRank

def drainSource (config : StoreConfig) (store : PoolMetaStore) (fromRank : Int) (inode : UInt64) :
    PoolMetaStore :=
  if config.known fromRank then
    store.setShardFor config fromRank inode (store.shardFor config fromRank inode).drainQueue
  else store

def writeDestination (config : StoreConfig) (store : PoolMetaStore) (toRank : Int) (inode : UInt64)
    (record : Record) : PoolMetaStore :=
  store.setShardFor config toRank inode
    ((store.shardFor config toRank inode).putSync inode record.encode)

theorem drainSource_settled :
    (drainSource config store rank inode).settled config other target =
      store.settled config other target := by
  have drained : ∀ key, key ≠ inode →
      (store.shardFor config rank inode).drainQueue.settled key =
        (store.shardFor config rank inode).settled key := fun _ _ => Journal.drain_settled
  unfold drainSource
  split
  · rw [settled_setShardFor drained]
    split
    · rename_i same
      obtain ⟨rfl, rfl⟩ := same
      exact Journal.drain_settled
    · rfl
  · rfl

theorem drainSource_pending (known : config.known rank = true) :
    (drainSource config store rank inode).pending config rank inode = false := by
  simp only [drainSource, known, ↓reduceIte, pending, setShardFor_shardFor_self]
  rfl

theorem drainSource_pending_other (different : other ≠ rank) :
    (drainSource config store rank inode).pending config other target =
      store.pending config other target := by
  unfold drainSource
  split
  · simp only [pending, shardFor_setShardFor, different, false_and, ↓reduceIte]
  · rfl

theorem writeDestination_settled_other (different : ¬ (other = toRank ∧ target = inode)) :
    (writeDestination config store toRank inode record).settled config other target =
      store.settled config other target := by
  have untouched : ∀ key, key ≠ inode →
      ((store.shardFor config toRank inode).putSync inode record.encode).settled key =
        (store.shardFor config toRank inode).settled key :=
    fun _ differs => Journal.settled_putNow_other (Ne.symm differs)
  rw [writeDestination, settled_setShardFor untouched, if_neg different]

theorem writeDestination_settled (idle : store.pending config toRank inode = false) :
    (writeDestination config store toRank inode record).settled config toRank inode =
      some record.encode := by
  simp only [writeDestination, settled, setShardFor_shardFor_self]
  exact Journal.settled_putNow idle

theorem writeDestination_pending :
    (writeDestination config store toRank inode record).pending config other target =
      store.pending config other target :=
  pending_setShardFor_same (fun _ => rfl)

theorem moveRecord_stages :
    store.moveRecord config inode rank toRank record =
      let written := writeDestination config (drainSource config store rank inode) toRank inode record
      let cached := written.withCache (written.cache.put inode record)
      if config.known rank then
        cached.setShardFor config rank inode ((cached.shardFor config rank inode).del inode)
      else cached := rfl

theorem moveRecord_settled_other
    (away : other = rank ∧ target = inode → config.known rank = false)
    (apart : ¬ (other = toRank ∧ target = inode)) :
    (store.moveRecord config inode rank toRank record).settled config other target =
      store.settled config other target := by
  rw [moveRecord_stages]
  dsimp only
  split
  · rename_i known
    have elsewhere : ¬ (other = rank ∧ target = inode) := fun same => by simp [away same] at known
    rw [settled_setShardFor (fun key => del_untouched), if_neg elsewhere, withCache_settled,
      writeDestination_settled_other apart, drainSource_settled]
  · rw [withCache_settled, writeDestination_settled_other apart, drainSource_settled]

theorem moveRecord_settled_source (known : config.known rank = true) :
    (store.moveRecord config inode rank toRank record).settled config rank inode = none := by
  rw [moveRecord_stages]
  dsimp only
  rw [if_pos known, settled_setShardFor (fun key => del_untouched), if_pos ⟨rfl, rfl⟩]
  refine Journal.settled_deleteNow_iff.mpr ?_
  have kept : (writeDestination config (drainSource config store rank inode) toRank inode
      record).pending config rank inode = false := by
    rw [writeDestination_pending, drainSource_pending known]
  exact kept

theorem moveRecord_settled_destination (different : rank ≠ toRank)
    (idle : store.pending config toRank inode = false) :
    (store.moveRecord config inode rank toRank record).settled config toRank inode =
      some record.encode := by
  have undisturbed : (drainSource config store rank inode).pending config toRank inode = false := by
    rw [drainSource_pending_other (Ne.symm different), idle]
  rw [moveRecord_stages]
  dsimp only
  split
  · have apart : ¬ (toRank = rank ∧ inode = inode) := fun same => different same.1.symm
    rw [settled_setShardFor (fun key => del_untouched), if_neg apart, withCache_settled,
      writeDestination_settled undisturbed]
  · rw [withCache_settled, writeDestination_settled undisturbed]

theorem moveRecord_pending_eq :
    (store.moveRecord config inode rank toRank record).pending config other target =
      (drainSource config store rank inode).pending config other target := by
  rw [moveRecord_stages]
  dsimp only
  split
  · rw [pending_setShardFor_same (fun _ => del_pending), withCache_pending, writeDestination_pending]
  · rw [withCache_pending, writeDestination_pending]

theorem moveRecord_pending_source (known : config.known rank = true) :
    (store.moveRecord config inode rank toRank record).pending config rank inode = false := by
  rw [moveRecord_pending_eq, drainSource_pending known]

theorem moveRecord_pending
    (busy : (store.moveRecord config inode rank toRank record).pending config other target = true) :
    store.pending config other target = true := by
  rw [moveRecord_pending_eq, drainSource] at busy
  have drained : ∀ key, (store.shardFor config rank inode).drainQueue.pending key = false :=
    fun _ => Journal.drain_pending
  split at busy
  · have after := pending_setShardFor (fun key _ waiting => by simp [drained key] at waiting) busy
    split at after
    · simp [drained inode] at after
    · exact after
  · exact busy

@[simp] theorem moveRecord_cache :
    (store.moveRecord config inode rank toRank record).cache = store.cache.put inode record := by
  rw [moveRecord_stages]
  dsimp only
  have unchanged : (drainSource config store rank inode).cache = store.cache := by
    unfold drainSource
    split <;> rfl
  split <;> simp [writeDestination, unchanged]

end Tierd.Meta.PoolMetaStore
