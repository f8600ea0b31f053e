import Tierd.Meta.Record

namespace Tierd.Meta

/-- `inodeCache`: records keyed by inode alone.  `count` is the counter the
source keeps beside its maps; a `max` of zero or less means no limit. -/
structure InodeCache where
  entries : UInt64 → Option Record
  max : Int
  count : Int

def defaultMaxCacheEntries : Int := 4700000

namespace InodeCache

def newInodeCache (max : Int) : InodeCache := ⟨fun _ => none, max, 0⟩

def get (cache : InodeCache) (inode : UInt64) : Option Record := cache.entries inode

/-- A full cache admits no new inode. -/
def full (cache : InodeCache) : Bool := decide (0 < cache.max ∧ cache.max ≤ cache.count)

def put (cache : InodeCache) (inode : UInt64) (record : Record) : InodeCache :=
  match cache.entries inode with
  | some _ => { cache with entries := Function.update cache.entries inode (some record) }
  | none =>
    if cache.full then cache
    else { cache with
      entries := Function.update cache.entries inode (some record)
      count := cache.count + 1 }

/-- A record that agrees with the cached one on tier and pin is not stored, so
the heat fields of a cached record may be old. -/
def putIfPlacementChanged (cache : InodeCache) (inode : UInt64) (record : Record) : InodeCache :=
  match cache.entries inode with
  | some cached =>
    if cached.tierIdx = record.tierIdx ∧ cached.pinState = record.pinState then cache
    else cache.put inode record
  | none => cache.put inode record

def del (cache : InodeCache) (inode : UInt64) : InodeCache :=
  match cache.entries inode with
  | some _ => { cache with
      entries := Function.update cache.entries inode none
      count := cache.count - 1 }
  | none => cache

variable {cache : InodeCache} {inode other : UInt64} {record : Record}

theorem put_other (different : other ≠ inode) :
    (cache.put inode record).get other = cache.get other := by
  unfold put get
  split
  · simp [different]
  · split <;> simp [different]

theorem putIfPlacementChanged_other (different : other ≠ inode) :
    (cache.putIfPlacementChanged inode record).get other = cache.get other := by
  unfold putIfPlacementChanged
  split
  · split
    · rfl
    · exact put_other different
  · exact put_other different

theorem del_other (different : other ≠ inode) : (cache.del inode).get other = cache.get other := by
  unfold del get
  split <;> simp [different]

@[simp] theorem del_self : (cache.del inode).get inode = none := by
  unfold del get
  split
  · simp
  · assumption

theorem put_self (cache : InodeCache) (inode : UInt64) (record : Record) :
    (cache.put inode record).get inode = some record ∨
      (cache.full = true ∧ cache.get inode = none ∧ cache.put inode record = cache) := by
  unfold put get
  split
  · simp
  · rename_i absent
    split
    · rename_i full
      exact .inr ⟨full, absent, rfl⟩
    · simp

theorem put_self_of_room (room : cache.full = true → cache.get inode ≠ none) :
    (cache.put inode record).get inode = some record := by
  rcases put_self cache inode record with stored | ⟨full, absent, _⟩
  · exact stored
  · exact absurd absent (room full)

theorem putIfPlacementChanged_self (cache : InodeCache) (inode : UInt64) (record : Record) :
    (∃ cached, (cache.putIfPlacementChanged inode record).get inode = some cached ∧
      cached.tierIdx = record.tierIdx ∧ cached.pinState = record.pinState ∧
      (cached = record ∨ cache.get inode = some cached)) ∨
      (cache.full = true ∧ cache.get inode = none ∧
        cache.putIfPlacementChanged inode record = cache) := by
  unfold putIfPlacementChanged
  split
  · rename_i cached found
    split
    · rename_i unchanged
      exact .inl ⟨cached, found, unchanged.1, unchanged.2, .inr found⟩
    · have stored : (cache.put inode record).get inode = some record :=
        put_self_of_room (fun _ => by simp [get, found])
      exact .inl ⟨record, stored, rfl, rfl, .inl rfl⟩
  · rcases put_self cache inode record with stored | refused
    · exact .inl ⟨record, stored, rfl, rfl, .inl rfl⟩
    · exact .inr refused

end InodeCache

end Tierd.Meta
