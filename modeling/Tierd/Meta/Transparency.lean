import Tierd.Meta.LastWrite

namespace Tierd.Meta

open Tierd.Data PoolMetaStore

/-- The fields `putIfPlacementChanged` compares. -/
def Record.placement (record : Record) : UInt8 × PinState := (record.tierIdx, record.pinState)

/-- A record the callers write under `rank`. -/
def Record.WrittenUnder (record : Record) (rank : Int) : Prop :=
  record.version = recordVersion ∧ record.onRank rank
deriving Decidable

/-- A store whose writes commit at once and which keeps no cache. -/
abbrev ImmediateStore := Int → UInt64 → Option Record

namespace ImmediateStore

def set (reference : ImmediateStore) (rank : Int) (inode : UInt64) (value : Option Record) :
    ImmediateStore :=
  fun other target => if other = rank ∧ target = inode then value else reference other target

def apply (config : StoreConfig) (reference : ImmediateStore) : StoreOp → ImmediateStore
  | .put inode rank record | .putBlocking inode rank record =>
    if config.known rank then reference.set rank inode (some record) else reference
  | .delete inode rank => if config.known rank then reference.set rank inode none else reference
  | .move inode fromRank toRank =>
    if fromRank = toRank ∨ config.known toRank = false then reference
    else
      match reference fromRank inode with
      | none => reference
      | some record =>
        (reference.set fromRank inode none).set toRank inode
          (some { record with tierIdx := UInt8.ofInt toRank })
  | .get _ _ => reference

end ImmediateStore

section

variable (config : StoreConfig)

def referenceStep (state : PoolMetaStore × ImmediateStore) (event : StoreEvent) :
    PoolMetaStore × ImmediateStore :=
  (state.1.step config event,
    match event with
    | .op op => state.2.apply config op
    | .writer _ _ _ => state.2)

/-- No write for the inode waits on another tier than `rank`. -/
def OthersIdle (store : PoolMetaStore) (rank : Int) (inode : UInt64) : Prop :=
  ∀ other ∈ config.ranks, other ≠ rank → store.pending config other inode = false
deriving Decidable

/-- The cache takes a record for the inode. -/
def Admits (store : PoolMetaStore) (inode : UInt64) : Prop :=
  store.cache.full = true → (store.cache.get inode).isSome = true
deriving Decidable

/-- The steps the cache keeps up with: puts are accepted and admitted to the
cache, and an operation that may replace the cache entry of an inode comes when
nothing for that inode is queued on another tier. -/
def CacheKeepsUp (store : PoolMetaStore) : StoreEvent → Prop
  | .op (.put inode rank record) =>
    (store.put config inode rank record).1 = true ∧ record.WrittenUnder rank ∧
      Admits store inode ∧ OthersIdle config store rank inode
  | .op (.putBlocking inode rank record) =>
    record.WrittenUnder rank ∧ Admits store inode ∧ OthersIdle config store rank inode
  | .op (.delete inode rank) => OthersIdle config store rank inode
  | .op (.move inode fromRank toRank) =>
    OthersIdle config store fromRank inode ∧ ((UInt8.ofInt toRank).toNat : Int) = toRank
  | .op (.get inode rank) => OthersIdle config store rank inode
  | .writer _ _ _ => True

instance CacheKeepsUp.decidable (store : PoolMetaStore) :
    ∀ event, Decidable (CacheKeepsUp config store event)
  | .op (.put _ _ _) => inferInstanceAs (Decidable (_ ∧ _))
  | .op (.putBlocking _ _ _) => inferInstanceAs (Decidable (_ ∧ _))
  | .op (.delete _ _) => inferInstanceAs (Decidable (OthersIdle _ _ _ _))
  | .op (.move _ _ _) => inferInstanceAs (Decidable (_ ∧ _))
  | .op (.get _ _) => inferInstanceAs (Decidable (OthersIdle _ _ _ _))
  | .writer _ _ _ => isTrue trivial

end

/-- The record a byte string on disk spells. -/
def recordIn (bytes : Option Bytes) : Option Record := bytes.bind fun value => (decodeRecord value).toOption

/-- Cached records, queues and disk together represent the reference. -/
structure Represents (config : StoreConfig) (store : PoolMetaStore) (reference : ImmediateStore) :
    Prop where
  /-- Only known ranks hold records. -/
  confined : ∀ rank inode, (reference rank inode).isSome = true → config.known rank = true
  /-- What the disk settles to decodes to a record written under its rank. -/
  readable : ∀ rank inode bytes, config.known rank = true →
    store.settled config rank inode = some bytes →
      ∃ record, decodeRecord bytes = .ok record ∧ record.WrittenUnder rank
  settles : ∀ rank inode, config.known rank = true →
    (recordIn (store.settled config rank inode)).map Record.placement =
      (reference rank inode).map Record.placement
  cached : ∀ inode record, store.cache.get inode = some record →
    ∃ rank last, config.known rank = true ∧ record.WrittenUnder rank ∧
      reference rank inode = some last ∧ record.placement = last.placement
  /-- A waiting write is visible through the cache. -/
  visible : ∀ rank inode, config.known rank = true → store.pending config rank inode = true →
    ∃ record, store.cache.get inode = some record ∧ record.onRank rank

namespace Represents

variable {config : StoreConfig} {store after : PoolMetaStore} {reference : ImmediateStore}
  {rank : Int} {inode : UInt64} {record : Record}

theorem recordIn_encode (written : record.WrittenUnder rank) :
    recordIn (some record.encode) = some record := by
  simp [recordIn, Record.decode_current written.1, Except.toOption]

theorem onRank_unique {other : Int} (here : record.onRank rank) (there : record.onRank other) :
    other = rank := there.symm.trans here

theorem onRank_of_placement {last : Record} (here : last.onRank rank)
    (agrees : record.placement = last.placement) : record.onRank rank := by
  have sameTier : record.tierIdx = last.tierIdx := congrArg Prod.fst agrees
  simpa only [Record.onRank, sameTier] using here

theorem write (represents : Represents config store reference)
    (known : config.known rank = true) (written : record.WrittenUnder rank)
    (idle : OthersIdle config store rank inode)
    (settledHere : after.settled config rank inode = some record.encode)
    (settledElsewhere : ∀ other target, ¬ (other = rank ∧ target = inode) →
      after.settled config other target = store.settled config other target)
    (cachedHere : ∃ cached : Record, after.cache.get inode = some cached ∧
      cached.WrittenUnder rank ∧ cached.placement = record.placement)
    (cachedElsewhere : ∀ target, target ≠ inode → after.cache.get target = store.cache.get target)
    (pendingElsewhere : ∀ other target, ¬ (other = rank ∧ target = inode) →
      after.pending config other target = true → store.pending config other target = true) :
    Represents config after (reference.set rank inode (some record)) := by
  obtain ⟨cached, found, cachedWritten, agrees⟩ := cachedHere
  constructor
  · intro other target present
    by_cases same : other = rank ∧ target = inode
    · rw [same.1]
      exact known
    · rw [ImmediateStore.set, if_neg same] at present
      exact represents.confined other target present
  · intro other target bytes otherKnown settled
    by_cases same : other = rank ∧ target = inode
    · obtain ⟨rfl, rfl⟩ := same
      rw [settledHere, Option.some.injEq] at settled
      subst settled
      exact ⟨record, Record.decode_current written.1, written⟩
    · rw [settledElsewhere other target same] at settled
      exact represents.readable other target bytes otherKnown settled
  · intro other target otherKnown
    by_cases same : other = rank ∧ target = inode
    · obtain ⟨rfl, rfl⟩ := same
      simp [settledHere, recordIn_encode written, ImmediateStore.set]
    · rw [settledElsewhere other target same, ImmediateStore.set, if_neg same]
      exact represents.settles other target otherKnown
  · intro target entry present
    by_cases same : target = inode
    · subst same
      rw [found, Option.some.injEq] at present
      subst present
      exact ⟨rank, record, known, cachedWritten, by simp [ImmediateStore.set], agrees⟩
    · rw [cachedElsewhere target same] at present
      obtain ⟨tier, last, tierKnown, entryWritten, lastWrite, placement⟩ :=
        represents.cached target entry present
      refine ⟨tier, last, tierKnown, entryWritten, ?_, placement⟩
      simp [ImmediateStore.set, same, lastWrite]
  · intro other target otherKnown busy
    by_cases sameInode : target = inode
    · subst sameInode
      by_cases sameRank : other = rank
      · exact ⟨cached, found, sameRank ▸ cachedWritten.2⟩
      · have waiting := pendingElsewhere other target (fun same => sameRank same.1) busy
        have quiet := idle other (by simpa [StoreConfig.known] using otherKnown) sameRank
        simp [quiet] at waiting
    · have waiting := pendingElsewhere other target (fun same => sameInode same.2) busy
      obtain ⟨entry, present, onRank⟩ := represents.visible other target otherKnown waiting
      exact ⟨entry, by rw [cachedElsewhere target sameInode, present], onRank⟩

theorem idle_of_uncached (represents : Represents config store reference)
    (known : config.known rank = true)
    (uncached : ∀ entry, store.cache.get inode = some entry → ¬ entry.onRank rank) :
    store.pending config rank inode = false := by
  by_contra busy
  obtain ⟨entry, present, onRank⟩ := represents.visible rank inode known (by simpa using busy)
  exact uncached entry present onRank

theorem settled_record (represents : Represents config store reference)
    (known : config.known rank = true) {bytes : Bytes}
    (settled : store.settled config rank inode = some bytes) :
    ∃ found last, decodeRecord bytes = .ok found ∧ found.WrittenUnder rank ∧
      reference rank inode = some last ∧ found.placement = last.placement := by
  obtain ⟨found, decoded, written⟩ := represents.readable rank inode bytes known settled
  have placement := represents.settles rank inode known
  rw [settled] at placement
  simp only [recordIn, Option.bind_some, decoded, Except.toOption, Option.map_some] at placement
  cases lastWrite : reference rank inode with
  | none => simp [lastWrite] at placement
  | some last =>
    simp only [lastWrite, Option.map_some, Option.some.injEq] at placement
    exact ⟨found, last, decoded, written, rfl, placement⟩

theorem get_result (represents : Represents config store reference) (inode : UInt64) (rank : Int) :
    ∃ result, (store.get config inode rank).1 = .ok result ∧
      result.map Record.placement = (reference rank inode).map Record.placement ∧
      ∀ found, result = some found → found.WrittenUnder rank ∧ config.known rank = true := by
  rcases get_cases config store inode rank with
    ⟨cached, present, onRank, answer⟩ | ⟨uncached, answer⟩
  · obtain ⟨tier, last, tierKnown, written, lastWrite, placement⟩ :=
      represents.cached inode cached present
    obtain rfl := onRank_unique onRank written.2
    refine ⟨some cached, by rw [answer], by simp [lastWrite, placement], ?_⟩
    rintro found ⟨⟩
    exact ⟨written, tierKnown⟩
  · rw [answer, getStored]
    by_cases known : config.known rank = true
    · have idle := represents.idle_of_uncached known uncached
      have disk : (store.shardFor config rank inode).get inode = store.settled config rank inode :=
        (settled_of_not_pending idle).symm
      simp only [known, ↓reduceIte, disk]
      cases settled : store.settled config rank inode with
      | none =>
        have placement := represents.settles rank inode known
        simp only [settled, recordIn, Option.bind_none, Option.map_none] at placement
        exact ⟨none, rfl, by simpa using placement, by simp⟩
      | some bytes =>
        obtain ⟨found, last, decoded, written, lastWrite, placement⟩ :=
          represents.settled_record known settled
        refine ⟨some found, by simp [decoded], by simp [lastWrite, placement], ?_⟩
        rintro record ⟨⟩
        exact ⟨written, trivial⟩
    · have absent : reference rank inode = none := by
        by_contra present
        exact known (represents.confined rank inode (Option.isSome_iff_ne_none.mpr present))
      exact ⟨none, by simp [known], by simp [absent], by simp⟩

theorem fill (represents : Represents config store reference) (known : config.known rank = true)
    (idle : OthersIdle config store rank inode)
    {last : Record} (written : record.WrittenUnder rank) (lastWrite : reference rank inode = some last)
    (placement : record.placement = last.placement) :
    Represents config (store.withCache (store.cache.put inode record)) reference := by
  rcases InodeCache.put_self store.cache inode record with stored | ⟨_, _, unchanged⟩
  · constructor
    · exact represents.confined
    · exact represents.readable
    · exact represents.settles
    · intro target entry present
      by_cases same : target = inode
      · subst same
        rw [withCache_cache, stored, Option.some.injEq] at present
        subst present
        exact ⟨rank, last, known, written, lastWrite, placement⟩
      · rw [withCache_cache, InodeCache.put_other same] at present
        exact represents.cached target entry present
    · intro other target otherKnown busy
      by_cases same : target = inode
      · subst same
        by_cases sameRank : other = rank
        · exact ⟨record, stored, sameRank ▸ written.2⟩
        · have quiet := idle other (by simpa [StoreConfig.known] using otherKnown) sameRank
          rw [withCache_pending, quiet] at busy
          contradiction
      · obtain ⟨entry, present, onRank⟩ := represents.visible other target otherKnown busy
        exact ⟨entry, by rw [withCache_cache, InodeCache.put_other same, present], onRank⟩
  · rw [unchanged]
    exact represents

theorem get (represents : Represents config store reference)
    (idle : OthersIdle config store rank inode) :
    Represents config (store.get config inode rank).2 reference := by
  rcases get_cases config store inode rank with
    ⟨cached, present, onRank, answer⟩ | ⟨uncached, answer⟩
  · rw [answer]
    exact represents
  · rw [answer, getStored]
    by_cases known : config.known rank = true
    · have quiet := represents.idle_of_uncached known uncached
      have disk : (store.shardFor config rank inode).get inode = store.settled config rank inode :=
        (settled_of_not_pending quiet).symm
      simp only [known, ↓reduceIte, disk]
      cases settled : store.settled config rank inode with
      | none => exact represents
      | some bytes =>
        obtain ⟨found, last, decoded, written, lastWrite, placement⟩ :=
          represents.settled_record known settled
        simp only [decoded]
        exact represents.fill known idle written lastWrite placement
    · simpa [known] using represents

theorem put (represents : Represents config store reference)
    (accepted : (store.put config inode rank record).1 = true)
    (written : record.WrittenUnder rank) (admits : Admits store inode)
    (idle : OthersIdle config store rank inode) :
    Represents config (store.put config inode rank record).2
      (reference.apply config (.put inode rank record)) := by
  have known : config.known rank = true := by
    by_contra unknown
    simp [PoolMetaStore.put, unknown] at accepted
  have cache : (store.put config inode rank record).2.cache =
      store.cache.putIfPlacementChanged inode record := by
    simp only [PoolMetaStore.put, known, ↓reduceIte]
    split <;> rfl
  simp only [ImmediateStore.apply, known, ↓reduceIte]
  refine represents.write known written idle ?_ ?_ ?_ ?_ ?_
  · simp [PoolMetaStore.put_settled, accepted]
  · intro other target different
    rw [PoolMetaStore.put_settled, if_neg (fun same => different same.2)]
  · rw [cache]
    rcases InodeCache.putIfPlacementChanged_self store.cache inode record with
      ⟨cached, found, sameTier, samePin, origin⟩ | ⟨full, absent, _⟩
    · have placement : cached.placement = record.placement := by
        simp only [Record.placement, sameTier, samePin]
      refine ⟨cached, found, ⟨?_, onRank_of_placement written.2 placement⟩, placement⟩
      rcases origin with rfl | old
      · exact written.1
      · obtain ⟨_, _, _, oldWritten, _, _⟩ := represents.cached inode cached old
        exact oldWritten.1
    · simpa [absent] using admits full
  · intro target different
    rw [cache, InodeCache.putIfPlacementChanged_other different]
  · intro other target different
    exact PoolMetaStore.put_pending_other different

theorem putBlocking (represents : Represents config store reference)
    (written : record.WrittenUnder rank) (admits : Admits store inode)
    (idle : OthersIdle config store rank inode) :
    Represents config (store.putBlocking config inode rank record)
      (reference.apply config (.putBlocking inode rank record)) := by
  by_cases known : config.known rank = true
  · have cache : (store.putBlocking config inode rank record).cache = store.cache.put inode record := by
      simp [PoolMetaStore.putBlocking, known]
    simp only [ImmediateStore.apply, known, ↓reduceIte]
    refine represents.write known written idle ?_ ?_ ?_ ?_ ?_
    · simp [PoolMetaStore.putBlocking_settled, known]
    · intro other target different
      rw [PoolMetaStore.putBlocking_settled, if_neg (fun same => different same.2)]
    · rw [cache]
      have room : store.cache.full = true → store.cache.get inode ≠ none :=
        fun full => Option.isSome_iff_ne_none.mp (admits full)
      exact ⟨record, InodeCache.put_self_of_room room, written, rfl⟩
    · intro target different
      rw [cache, InodeCache.put_other different]
    · intro other target different
      exact PoolMetaStore.putBlocking_pending_other different
  · simpa [PoolMetaStore.putBlocking, ImmediateStore.apply, known] using represents

theorem delete (represents : Represents config store reference)
    (inTurn : config.known rank = true → store.pending config rank inode = false)
    (idle : OthersIdle config store rank inode) :
    Represents config (store.delete config inode rank)
      (reference.apply config (.delete inode rank)) := by
  by_cases known : config.known rank = true
  · have quiet := inTurn known
    have gone := (PoolMetaStore.delete_settled_iff known).mpr quiet
    have cache : (store.delete config inode rank).cache = store.cache.del inode := by
      simp [PoolMetaStore.delete, known]
    simp only [ImmediateStore.apply, known, ↓reduceIte]
    constructor
    · intro other target present
      by_cases same : other = rank ∧ target = inode
      · rw [same.1]
        exact known
      · rw [ImmediateStore.set, if_neg same] at present
        exact represents.confined other target present
    · intro other target bytes otherKnown settled
      by_cases same : other = rank ∧ target = inode
      · obtain ⟨rfl, rfl⟩ := same
        simp [gone] at settled
      · rw [PoolMetaStore.delete_settled_other same] at settled
        exact represents.readable other target bytes otherKnown settled
    · intro other target otherKnown
      by_cases same : other = rank ∧ target = inode
      · obtain ⟨rfl, rfl⟩ := same
        simp [gone, recordIn, ImmediateStore.set]
      · rw [PoolMetaStore.delete_settled_other same, ImmediateStore.set, if_neg same]
        exact represents.settles other target otherKnown
    · intro target entry present
      by_cases same : target = inode
      · subst same
        simp [cache] at present
      · rw [cache, InodeCache.del_other same] at present
        obtain ⟨tier, last, tierKnown, written, lastWrite, placement⟩ :=
          represents.cached target entry present
        exact ⟨tier, last, tierKnown, written, by simp [ImmediateStore.set, same, lastWrite], placement⟩
    · intro other target otherKnown busy
      rw [PoolMetaStore.delete_pending] at busy
      by_cases same : target = inode
      · subst same
        by_cases sameRank : other = rank
        · simp [sameRank, quiet] at busy
        · simp [idle other (by simpa [StoreConfig.known] using otherKnown) sameRank] at busy
      · obtain ⟨entry, present, onRank⟩ := represents.visible other target otherKnown busy
        exact ⟨entry, by rw [cache, InodeCache.del_other same, present], onRank⟩
  · simpa [PoolMetaStore.delete, ImmediateStore.apply, known] using represents

theorem moveRecord {fromRank toRank : Int} {last : Record}
    (represents : Represents config store reference)
    (sourceKnown : config.known fromRank = true) (known : config.known toRank = true)
    (different : fromRank ≠ toRank) (idle : OthersIdle config store fromRank inode)
    (written : record.WrittenUnder toRank)
    (placement : record.placement = last.placement) :
    Represents config (store.moveRecord config inode fromRank toRank record)
      ((reference.set fromRank inode none).set toRank inode (some last)) := by
  have quiet : store.pending config toRank inode = false :=
    idle toRank (by simpa [StoreConfig.known] using known) (Ne.symm different)
  have arrived : (store.moveRecord config inode fromRank toRank record).settled config toRank inode =
      some record.encode := moveRecord_settled_destination different quiet
  have left : (store.moveRecord config inode fromRank toRank record).settled config fromRank inode =
      none := moveRecord_settled_source sourceKnown
  have reference_at : ∀ other target,
      ((reference.set fromRank inode none).set toRank inode (some last)) other target =
        if other = toRank ∧ target = inode then some last
        else if other = fromRank ∧ target = inode then none else reference other target :=
    fun _ _ => rfl
  constructor
  · intro other target present
    rw [reference_at] at present
    split at present
    · rename_i same
      rw [same.1]
      exact known
    · split at present
      · simp at present
      · exact represents.confined other target present
  · intro other target bytes otherKnown settled
    by_cases destination : other = toRank ∧ target = inode
    · obtain ⟨rfl, rfl⟩ := destination
      rw [arrived, Option.some.injEq] at settled
      subst settled
      exact ⟨record, Record.decode_current written.1, written⟩
    · by_cases source : other = fromRank ∧ target = inode
      · obtain ⟨rfl, rfl⟩ := source
        simp [left] at settled
      · rw [moveRecord_settled_other (fun same => absurd same source) destination]
          at settled
        exact represents.readable other target bytes otherKnown settled
  · intro other target otherKnown
    rw [reference_at]
    by_cases destination : other = toRank ∧ target = inode
    · obtain ⟨rfl, rfl⟩ := destination
      simp [arrived, recordIn_encode written, placement]
    · rw [if_neg destination]
      by_cases source : other = fromRank ∧ target = inode
      · obtain ⟨rfl, rfl⟩ := source
        simp [left, recordIn]
      · rw [moveRecord_settled_other (fun same => absurd same source) destination,
          if_neg source]
        exact represents.settles other target otherKnown
  · intro target entry present
    rw [moveRecord_cache] at present
    by_cases same : target = inode
    · subst same
      rcases InodeCache.put_self store.cache target record with stored | ⟨_, absent, unchanged⟩
      · rw [stored, Option.some.injEq] at present
        subst present
        exact ⟨toRank, last, known, written, by simp [reference_at], placement⟩
      · rw [unchanged, absent] at present
        contradiction
    · rw [InodeCache.put_other same] at present
      obtain ⟨tier, older, tierKnown, entryWritten, lastWrite, agrees⟩ :=
        represents.cached target entry present
      exact ⟨tier, older, tierKnown, entryWritten, by simp [reference_at, same, lastWrite], agrees⟩
  · intro other target otherKnown busy
    have before := moveRecord_pending busy
    by_cases same : target = inode
    · subst same
      by_cases source : other = fromRank
      · subst source
        rw [moveRecord_pending_source sourceKnown] at busy
        contradiction
      · simp [idle other (by simpa [StoreConfig.known] using otherKnown) source] at before
    · obtain ⟨entry, present, onRank⟩ := represents.visible other target otherKnown before
      exact ⟨entry, by rw [moveRecord_cache, InodeCache.put_other same, present], onRank⟩

theorem move {fromRank toRank : Int} (represents : Represents config store reference)
    (idle : OthersIdle config store fromRank inode)
    (fits : ((UInt8.ofInt toRank).toNat : Int) = toRank) :
    Represents config (store.move config inode fromRank toRank).2
      (reference.apply config (.move inode fromRank toRank)) := by
  have afterGet := represents.get idle
  obtain ⟨result, answer, placement, origin⟩ := represents.get_result inode fromRank
  simp only [PoolMetaStore.move, ImmediateStore.apply]
  by_cases same : fromRank = toRank
  · simpa [same] using represents
  · cases found : store.get config inode fromRank with
    | mk outcome next =>
      have stepped : (store.get config inode fromRank).2 = next := by rw [found]
      rw [found] at answer
      dsimp only at answer
      subst answer
      rw [stepped] at afterGet
      cases result with
      | none =>
        have absent : reference fromRank inode = none := by simpa using placement.symm
        simpa [same, absent] using afterGet
      | some record =>
        obtain ⟨written, sourceKnown⟩ := origin record rfl
        cases lastWrite : reference fromRank inode with
        | none => simp [lastWrite] at placement
        | some last =>
          simp only [lastWrite, Option.map_some, Option.some.injEq] at placement
          by_cases known : config.known toRank = true
          · have samePin : record.pinState = last.pinState := congrArg Prod.snd placement
            have idleNext : OthersIdle config next fromRank inode := by
              intro other member different
              rw [← stepped, PoolMetaStore.get_pending]
              exact idle other member different
            have carried : Represents config
                (next.moveRecord config inode fromRank toRank
                  { record with tierIdx := UInt8.ofInt toRank })
                ((reference.set fromRank inode none).set toRank inode
                  (some { last with tierIdx := UInt8.ofInt toRank })) :=
              afterGet.moveRecord sourceKnown known same idleNext ⟨written.1, fits⟩
                (by simp [Record.placement, samePin])
            simpa [same, known] using carried
          · simpa [same, known] using afterGet

theorem step (represents : Represents config store reference) {event : StoreEvent}
    (inTurn : InTurn config store event) (keepsUp : CacheKeepsUp config store event) :
    Represents config (referenceStep config (store, reference) event).1
      (referenceStep config (store, reference) event).2 := by
  cases event with
  | op op =>
    cases op with
    | put inode rank record =>
      exact represents.put keepsUp.1 keepsUp.2.1 keepsUp.2.2.1 keepsUp.2.2.2
    | putBlocking inode rank record =>
      exact represents.putBlocking keepsUp.1 keepsUp.2.1 keepsUp.2.2
    | delete inode rank => exact represents.delete inTurn keepsUp
    | move inode fromRank toRank => exact represents.move keepsUp.1 keepsUp.2
    | get inode rank => exact represents.get keepsUp
  | writer rank index step =>
    have settled : ∀ other target, (store.writerStep rank index step).settled config other target =
        store.settled config other target := fun _ _ => writerStep_settled index inTurn
    exact {
      confined := represents.confined
      readable := fun other target bytes known found =>
        represents.readable other target bytes known ((settled other target).symm.trans found)
      settles := fun other target known =>
        (congrArg _ (congrArg _ (settled other target))).trans (represents.settles other target known)
      cached := represents.cached
      visible := fun other target known busy =>
        represents.visible other target known (writerStep_pending index busy) }

end Represents

def PoolMetaStore.onDisk (config : StoreConfig) (store : PoolMetaStore) : ImmediateStore :=
  fun rank inode =>
    if config.known rank then recordIn (store.stored config rank inode) else none

/-- A store as `Open` leaves it: empty cache, empty queues, and on disk only
records written under their rank. -/
structure FreshlyOpened (config : StoreConfig) (store : PoolMetaStore) : Prop where
  cold : ∀ inode, store.cache.get inode = none
  idle : ∀ rank inode, store.pending config rank inode = false
  readable : ∀ rank inode bytes, config.known rank = true →
    store.stored config rank inode = some bytes →
      ∃ record, decodeRecord bytes = .ok record ∧ record.WrittenUnder rank

theorem FreshlyOpened.represents {config : StoreConfig} {store : PoolMetaStore}
    (fresh : FreshlyOpened config store) : Represents config store (store.onDisk config) where
  confined := by
    intro rank inode present
    by_contra unknown
    simp [onDisk, unknown] at present
  readable := by
    intro rank inode bytes known settled
    rw [settled_of_not_pending (fresh.idle rank inode)] at settled
    exact fresh.readable rank inode bytes known settled
  settles := by
    intro rank inode known
    rw [settled_of_not_pending (fresh.idle rank inode)]
    simp [onDisk, known]
  cached := by
    intro inode record present
    simp [fresh.cold inode] at present
  visible := by
    intro rank inode known busy
    simp [fresh.idle rank inode] at busy

def ReferenceAgrees (config : StoreConfig) (state : PoolMetaStore × ImmediateStore) : Prop :=
  Represents config state.1 state.2

/-- In every run in which the cache keeps up and no direct operation overtakes a
queued write, `Get` answers as a store without cache and queue would, up to the
heat fields: the same absence, the same tier, the same pin. -/
theorem get_shows_last_placement {config : StoreConfig} {store : PoolMetaStore}
    {events : List StoreEvent} (fresh : FreshlyOpened config store)
    (attended : Guarded (referenceStep config)
      (fun state event => InTurn config state.1 event ∧ CacheKeepsUp config state.1 event)
      (store, store.onDisk config) events) (inode : UInt64) (rank : Int) :
    ∃ result, ((run (referenceStep config) (store, store.onDisk config) events).1.get
        config inode rank).1 = .ok result ∧
      result.map Record.placement =
        ((run (referenceStep config) (store, store.onDisk config) events).2 rank inode).map
          Record.placement := by
  have preserved : ∀ state event, ReferenceAgrees config state →
      InTurn config state.1 event ∧ CacheKeepsUp config state.1 event →
        ReferenceAgrees config (referenceStep config state event) :=
    fun _ _ agrees allowed => agrees.step allowed.1 allowed.2
  have agrees := guarded_run_invariant preserved attended fresh.represents
  obtain ⟨result, answer, placement, _⟩ := agrees.get_result inode rank
  exact ⟨result, answer, placement⟩

theorem opened_fresh : FreshlyOpened .twoTiers .opened where
  cold := fun _ => rfl
  idle := fun _ _ => rfl
  readable := by
    intro rank inode bytes _ stored
    have absent : opened.stored .twoTiers rank inode = none :=
      Std.ExtTreeMap.getElem?_empty
    simp [absent] at stored

def hotterRecord : Record := { hotRecord with heatCounter := 4, lastAccessNS := 200 }

def coldRecord : Record := ⟨recordVersion, pinCold, 2, 9, 0, 50⟩

/-- The two tiers share inode 7; each write is flushed before the other tier is
touched, and both tiers answer with what was last written to them. -/
theorem get_shows_last_placement_shared_inode :
    ∃ result, ((run (referenceStep .twoTiers) (.opened, opened.onDisk .twoTiers)
        [.op (.putBlocking 7 1 hotRecord), .op (.put 7 1 hotterRecord), .writer 1 0 .receive,
          .writer 1 0 .receive, .writer 1 0 .flush, .op (.putBlocking 7 2 coldRecord)]).1.get
            .twoTiers 7 1).1 = .ok result ∧
      result.map Record.placement = some (1, pinHot) := by
  have attended : Guarded (referenceStep .twoTiers)
      (fun state event => InTurn .twoTiers state.1 event ∧ CacheKeepsUp .twoTiers state.1 event)
      (.opened, opened.onDisk .twoTiers)
      [.op (.putBlocking 7 1 hotRecord), .op (.put 7 1 hotterRecord), .writer 1 0 .receive,
        .writer 1 0 .receive, .writer 1 0 .flush, .op (.putBlocking 7 2 coldRecord)] := by
    decide
  obtain ⟨result, answer, placement⟩ := get_shows_last_placement opened_fresh attended 7 1
  exact ⟨result, answer, placement.trans (by decide)⟩

def fullCache : PoolMetaStore :=
  opened.withCache
    ⟨fun inode => if inode < 4700000 then some hotRecord else none, defaultMaxCacheEntries, 4700000⟩

/-- Three runs in which `Get` differs from the store without cache: a `Put` that
only changes heat stays invisible, a put for the same inode number on another
tier hides one that is still queued, and a full cache hides a queued put. -/
theorem get_differs_from_immediate_store :
    ((run (referenceStep .twoTiers) (.opened, opened.onDisk .twoTiers)
        [.op (.putBlocking 7 1 hotRecord), .op (.put 7 1 hotterRecord)]).1.get .twoTiers 7 1).1 =
          .ok (some hotRecord) ∧
    (run (referenceStep .twoTiers) (.opened, opened.onDisk .twoTiers)
        [.op (.putBlocking 7 1 hotRecord), .op (.put 7 1 hotterRecord)]).2 1 7 = some hotterRecord ∧
    ((run (referenceStep .twoTiers) (.opened, opened.onDisk .twoTiers)
        [.op (.putBlocking 7 1 hotRecord), .op (.putBlocking 7 2 coldRecord)]).1.get .twoTiers 7 1).1 =
          .ok none ∧
    (run (referenceStep .twoTiers) (.opened, opened.onDisk .twoTiers)
        [.op (.putBlocking 7 1 hotRecord), .op (.putBlocking 7 2 coldRecord)]).2 1 7 = some hotRecord ∧
    ((run (referenceStep .twoTiers) (fullCache, fullCache.onDisk .twoTiers)
        [.op (.putBlocking 5000000 1 hotRecord)]).1.get .twoTiers 5000000 1).1 = .ok none ∧
    (run (referenceStep .twoTiers) (fullCache, fullCache.onDisk .twoTiers)
        [.op (.putBlocking 5000000 1 hotRecord)]).2 1 5000000 = some hotRecord := by
  decide

end Tierd.Meta
