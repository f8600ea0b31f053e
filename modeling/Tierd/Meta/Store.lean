import Tierd.Meta.Cache
import Tierd.Meta.Shard

namespace Tierd.Meta

open Tierd.Data

/-- What `Open` fixes: the ranks with a store of their own, ascending, the shard
count of each, and the hash that spreads inodes over shards. -/
structure StoreConfig where
  ranks : List Int
  shardCount : Int → Nat
  sum64 : UInt64 → UInt64
  ascending : ranks.Pairwise (· < ·)
  shardCount_pos : ∀ rank, 0 < shardCount rank

namespace StoreConfig

variable (config : StoreConfig)

/-- `tierByRank` finds a store. -/
def known (rank : Int) : Bool := decide (rank ∈ config.ranks)

def shardIndex (rank : Int) (inode : UInt64) : Nat :=
  (config.sum64 inode).toNat % config.shardCount rank

/-- A pool with an NVMe tier of rank 1 and an HDD tier of rank 2, one shard each;
with a single shard the hash does not matter. -/
def twoTiers : StoreConfig where
  ranks := [1, 2]
  shardCount := fun _ => 1
  sum64 := id
  ascending := by decide
  shardCount_pos := fun _ => Nat.one_pos

end StoreConfig

structure PoolMetaStore where
  shards : Int → Nat → Shard
  cache : InodeCache

/-- `rec.TierIdx` names the rank: the test `Get` makes on a cached record. -/
def Record.onRank (record : Record) (rank : Int) : Prop := (record.tierIdx.toNat : Int) = rank
deriving Decidable

inductive MoveError where
  | decode (reason : DecodeError)
  | unknownDestination (rank : Int)
deriving DecidableEq, Repr

def MoveError.message : MoveError → String
  | .decode reason => reason.message
  | .unknownDestination rank => "meta: unknown destination tier rank " ++ toString rank

namespace PoolMetaStore

/-- `Open` on backings without any record. -/
def opened : PoolMetaStore where
  shards := fun _ _ => ⟨∅, [], []⟩
  cache := .newInodeCache defaultMaxCacheEntries

def setShard (store : PoolMetaStore) (rank : Int) (index : Nat) (shard : Shard) : PoolMetaStore :=
  { store with
    shards := Function.update store.shards rank (Function.update (store.shards rank) index shard) }

def withCache (store : PoolMetaStore) (cache : InodeCache) : PoolMetaStore := { store with cache }

/-- Every writer has worked off its queue. -/
def drainAll (store : PoolMetaStore) : PoolMetaStore :=
  { store with shards := fun rank index => (store.shards rank index).drainQueue }

/-- The process dies and the store is opened again: what was not committed and
what was cached is gone. -/
def crash (store : PoolMetaStore) : PoolMetaStore where
  shards := fun rank index => ⟨(store.shards rank index).disk, [], []⟩
  cache := .newInodeCache store.cache.max

variable (config : StoreConfig) (store : PoolMetaStore)

def shardFor (rank : Int) (inode : UInt64) : Shard := store.shards rank (config.shardIndex rank inode)

def setShardFor (rank : Int) (inode : UInt64) (shard : Shard) : PoolMetaStore :=
  store.setShard rank (config.shardIndex rank inode) shard

def put (inode : UInt64) (rank : Int) (record : Record) : Bool × PoolMetaStore :=
  if config.known rank then
    let cache := store.cache.putIfPlacementChanged inode record
    match (store.shardFor config rank inode).enqueue inode record.encode with
    | some shard => (true, (store.setShardFor config rank inode shard).withCache cache)
    | none => (false, store.withCache cache)
  else (false, store)

def putBlocking (inode : UInt64) (rank : Int) (record : Record) : PoolMetaStore :=
  if config.known rank then
    let shard := (store.shardFor config rank inode).enqueueBlocking inode record.encode
    (store.setShardFor config rank inode shard).withCache (store.cache.put inode record)
  else store

def delete (inode : UInt64) (rank : Int) : PoolMetaStore :=
  if config.known rank then
    let shard := (store.shardFor config rank inode).del inode
    (store.setShardFor config rank inode shard).withCache (store.cache.del inode)
  else store

/-- `Delete` when the database may refuse; then only the cache entry is gone. -/
def tryDelete (inode : UInt64) (rank : Int) (fails : Bool) : PoolMetaStore :=
  if fails then if config.known rank then store.withCache (store.cache.del inode) else store
  else store.delete config inode rank

/-- The part of `Get` after a cache miss: read the shard and fill the cache. -/
def getStored (inode : UInt64) (rank : Int) :
    Except DecodeError (Option Record) × PoolMetaStore :=
  if config.known rank then
    match (store.shardFor config rank inode).get inode with
    | none => (.ok none, store)
    | some bytes =>
      match decodeRecord bytes with
      | .error reason => (.error reason, store)
      | .ok record => (.ok (some record), store.withCache (store.cache.put inode record))
  else (.ok none, store)

def get (inode : UInt64) (rank : Int) : Except DecodeError (Option Record) × PoolMetaStore :=
  match store.cache.get inode with
  | some record => if record.onRank rank then (.ok (some record), store) else store.getStored config inode rank
  | none => store.getStored config inode rank

/-- The stores of a `Move` that found a record and knows its destination: drain
the source shard, write the destination, refresh the cache, delete the source. -/
def moveRecord (inode : UInt64) (fromRank toRank : Int) (record : Record) : PoolMetaStore :=
  let drained :=
    if config.known fromRank then
      store.setShardFor config fromRank inode (store.shardFor config fromRank inode).drainQueue
    else store
  let written := drained.setShardFor config toRank inode
    ((drained.shardFor config toRank inode).putSync inode record.encode)
  let cached := written.withCache (written.cache.put inode record)
  if config.known fromRank then
    cached.setShardFor config fromRank inode ((cached.shardFor config fromRank inode).del inode)
  else cached

def move (inode : UInt64) (fromRank toRank : Int) : Except MoveError Unit × PoolMetaStore :=
  if fromRank = toRank then (.ok (), store)
  else
    match store.get config inode fromRank with
    | (.error reason, store) => (.error (.decode reason), store)
    | (.ok none, store) => (.ok (), store)
    | (.ok (some record), store) =>
      if config.known toRank then
        let moved := { record with tierIdx := UInt8.ofInt toRank }
        (.ok (), store.moveRecord config inode fromRank toRank moved)
      else (.error (.unknownDestination toRank), store)

def iterateShard (rank : Int) (index : Nat) : List (UInt64 × Record) :=
  (store.shards rank index).iterate.filterMap fun (inode, bytes) =>
    match decodeRecord bytes with
    | .ok record => some (inode, record)
    | .error _ => none

/-- The rank `IterateAll` reports: the one inside the record when it names a
store, else the rank of the store being walked. -/
def recordRank (rank : Int) (record : Record) : Int :=
  let stored : Int := record.tierIdx.toNat
  if stored = 0 ∨ config.known stored = false then rank else stored

def pending (rank : Int) (inode : UInt64) : Bool := (store.shardFor config rank inode).pending inode

/-- The bytes on disk. -/
def stored (rank : Int) (inode : UInt64) : Option Bytes := (store.shardFor config rank inode).get inode

/-- The bytes on disk once the queue is drained. -/
def settled (rank : Int) (inode : UInt64) : Option Bytes :=
  (store.shardFor config rank inode).settled inode

end PoolMetaStore

end Tierd.Meta
