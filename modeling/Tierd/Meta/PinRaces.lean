import Tierd.Meta.Holds

namespace Tierd.Meta

open Tierd.Data

/-- What `Get` hands to callers that drop its error. -/
def foundRecord : Except DecodeError (Option Record) → Option Record
  | .ok found => found
  | .error _ => none

/-- `walkTier`, for one file: a current record is left alone. -/
def walkedRecord (namespaceID : UInt64) (rank : Int) : Option Record → Option Record
  | some existing =>
    if existing.namespaceID = namespaceID ∧ existing.version = recordVersion then none
    else some ⟨recordVersion, existing.pinState, UInt8.ofInt rank, namespaceID,
      existing.heatCounter, existing.lastAccessNS⟩
  | none => some ⟨recordVersion, pinNone, UInt8.ofInt rank, namespaceID, 0, 0⟩

/-- `SetObjectPinStateByPath`: only the pin of an existing record changes. -/
def pinnedRecord (namespaceID : UInt64) (rank : Int) (pin : PinState) : Option Record → Record
  | some record => { record with pinState := pin }
  | none => ⟨recordVersion, pin, UInt8.ofInt rank, namespaceID, 0, 0⟩

/-- `recordObjectAccess`: a saturating heat tick; a record without version counts
as absent. -/
def accessedRecord (namespaceID : UInt64) (rank : Int) (now : UInt64) (found : Option Record) : Record :=
  let given := found.getD .zero
  let record := if given.version = 0 then ⟨recordVersion, pinNone, 0, namespaceID, 0, 0⟩ else given
  { record with
    tierIdx := UInt8.ofInt rank
    heatCounter := if record.heatCounter < 0xffffffff then record.heatCounter + 1 else record.heatCounter
    lastAccessNS := now }

/-- `decayAllHeat`, for one record of the iteration. -/
def decayedRecord (record : Record) : Option Record :=
  if record.heatCounter = 0 then none else some { record with heatCounter := record.heatCounter / 2 }

inductive Rewriter where
  | setPin (pin : PinState)
  | access
  | decay
  | walk
deriving DecidableEq, Repr

/-- A call between its read and its write: the record it will write and where.
`epoch` counts the pins that were set before its read. -/
structure Rewrite where
  caller : Rewriter
  rank : Int
  record : Record
  epoch : Nat
deriving DecidableEq, Repr

structure PinRace where
  store : PoolMetaStore
  calls : List Rewrite
  epoch : Nat
  pin : PinState

inductive RaceEvent where
  | readPin (pin : PinState)
  | readAccess (now : UInt64)
  | readDecay
  | readWalk
  | write (index : Nat)
  | writer (rank : Int) (index : Nat) (step : Shard.WriterStep)
  | other (op : StoreOp)
deriving DecidableEq, Repr

section Race

variable (config : StoreConfig) (namespaceID : UInt64) (rank : Int) (inode : UInt64)

def PinRace.begin (race : PinRace) (store : PoolMetaStore) (call : Option Rewrite) : PinRace :=
  { race with store, calls := race.calls ++ call.toList }

def Rewrite.perform (call : Rewrite) (store : PoolMetaStore) : PoolMetaStore :=
  match call.caller with
  | .access => (store.put config inode call.rank call.record).2
  | _ => store.putBlocking config inode call.rank call.record

/-- The record of the file in the iteration's snapshot of the database; the cache
is not asked. -/
def decayRewrite (race : PinRace) : Option Rewrite :=
  match race.store.stored config rank inode with
  | none => none
  | some bytes =>
    match decodeRecord bytes with
    | .error _ => none
    | .ok record => (decayedRecord record).map fun decayed =>
      ⟨.decay, PoolMetaStore.recordRank config rank record, decayed, race.epoch⟩

def raceStep (race : PinRace) : RaceEvent → PinRace
  | .readPin pin =>
    match race.store.get config inode rank with
    | (.error _, store) => { race with store }
    | (.ok found, store) =>
      race.begin store (some ⟨.setPin pin, rank, pinnedRecord namespaceID rank pin found, race.epoch⟩)
  | .readAccess now =>
    let (result, store) := race.store.get config inode rank
    race.begin store
      (some ⟨.access, rank, accessedRecord namespaceID rank now (foundRecord result), race.epoch⟩)
  | .readDecay => race.begin race.store (decayRewrite config rank inode race)
  | .readWalk =>
    let (result, store) := race.store.get config inode rank
    race.begin store ((walkedRecord namespaceID rank (foundRecord result)).map
      fun record => ⟨.walk, rank, record, race.epoch⟩)
  | .write index =>
    match race.calls[index]? with
    | none => race
    | some call =>
      let written := { race with
        store := call.perform config inode race.store
        calls := race.calls.eraseIdx index }
      match call.caller with
      | .setPin pin => { written with pin, epoch := race.epoch + 1 }
      | _ => written
  | .writer tier index step => { race with store := race.store.writerStep tier index step }
  | .other op => { race with store := race.store.apply config op }

end Race

/-- The record has the pin; no record means no pin. -/
def HasPin (pin : PinState) : Option Record → Prop
  | none => pin = pinNone
  | some record => record.pinState = pin

abbrev HoldsPin (config : StoreConfig) (rank : Int) (inode : UInt64) (store : PoolMetaStore)
    (pin : PinState) : Prop :=
  Holds config rank inode (HasPin pin) store

section Guard

variable (config : StoreConfig) (rank : Int) (inode : UInt64)

/-- Reads see the last write, no pin is set between the read and the write of
another call, and no commit fails. -/
def Undisturbed (race : PinRace) : RaceEvent → Prop
  | .readPin _ | .readAccess _ | .readWalk => Current config rank inode race.store
  | .readDecay => race.store.pending config rank inode = false
  | .write index => ∀ call ∈ race.calls[index]?,
      (∃ pin, call.caller = .setPin pin) ∨ call.epoch = race.epoch
  | .writer _ _ step => step ≠ .flushFailed
  | .other op => Foreign config rank inode race.store op

end Guard

variable {config : StoreConfig} {namespaceID : UInt64} {rank : Int} {inode : UInt64}

structure Rewrite.Carries (rank : Int) (race : PinRace) (call : Rewrite) : Prop where
  current : call.record.version = recordVersion
  past : call.epoch ≤ race.epoch
  home : call.rank = rank ∨ ((∀ pin, call.caller ≠ .setPin pin) ∧ ¬ call.record.onRank rank)
  setPin : ∀ pin, call.caller = .setPin pin → call.record.pinState = pin
  others : (∀ pin, call.caller ≠ .setPin pin) → call.epoch = race.epoch → call.record.pinState = race.pin

structure KeepsPin (config : StoreConfig) (rank : Int) (inode : UInt64) (race : PinRace) : Prop where
  holds : HoldsPin config rank inode race.store race.pin
  calls : ∀ call ∈ race.calls, call.Carries rank race

theorem KeepsPin.begin {race : PinRace} (keeps : KeepsPin config rank inode race) {store : PoolMetaStore}
    (holds : HoldsPin config rank inode store race.pin) {started : Option Rewrite}
    (carries : ∀ call ∈ started, call.Carries rank race) :
    KeepsPin config rank inode (race.begin store started) where
  holds := holds
  calls := by
    intro call member
    rcases List.mem_append.mp member with earlier | new
    · have before := keeps.calls call earlier
      exact ⟨before.current, before.past, before.home, before.setPin, before.others⟩
    · have now := carries call (by simpa using new)
      exact ⟨now.current, now.past, now.home, now.setPin, now.others⟩

theorem pinnedRecord_current {pin : PinState} {found : Option Record}
    (current : ∀ record ∈ found, record.version = recordVersion) :
    (pinnedRecord namespaceID rank pin found).version = recordVersion := by
  cases found with
  | none => rfl
  | some record => exact current record rfl

theorem pinnedRecord_pin (pin : PinState) (found : Option Record) :
    (pinnedRecord namespaceID rank pin found).pinState = pin := by
  cases found <;> rfl

theorem accessedRecord_keeps (namespaceID : UInt64) (rank : Int) (now : UInt64) {found : Option Record}
    {pin : PinState} (current : ∀ record ∈ found, record.version = recordVersion) (same : HasPin pin found) :
    (accessedRecord namespaceID rank now found).version = recordVersion ∧
      (accessedRecord namespaceID rank now found).pinState = pin := by
  cases found with
  | none => exact ⟨rfl, Eq.symm same⟩
  | some record =>
    have versioned : record.version ≠ 0 := by
      rw [current record rfl]
      decide
    simp only [accessedRecord, Option.getD_some, versioned, ↓reduceIte]
    exact ⟨current record rfl, same⟩

theorem walkedRecord_keeps {found : Option Record} {pin : PinState} {walked : Record}
    (same : HasPin pin found) (written : walkedRecord namespaceID rank found = some walked) :
    walked.version = recordVersion ∧ walked.pinState = pin := by
  cases found with
  | none =>
    cases written
    exact ⟨rfl, Eq.symm same⟩
  | some record =>
    simp only [walkedRecord] at written
    split at written
    case isTrue => cases written
    case isFalse =>
      cases written
      exact ⟨rfl, same⟩

theorem recordRank_home (config : StoreConfig) (record : Record) :
    PoolMetaStore.recordRank config rank record = rank ∨ ¬ record.onRank rank := by
  by_cases onRank : record.onRank rank
  · left
    simp only [PoolMetaStore.recordRank]
    split
    case isTrue => rfl
    case isFalse => exact onRank
  · exact .inr onRank

section Step

variable {race : PinRace} (keeps : KeepsPin config rank inode race) (known : config.known rank = true)

include keeps

include known in
theorem KeepsPin.readPin (pin : PinState) (fresh : Current config rank inode race.store) :
    KeepsPin config rank inode (raceStep config namespaceID rank inode race (.readPin pin)) := by
  obtain ⟨found, answer, current, _, holds⟩ := keeps.holds.get known fresh
  simp only [raceStep]
  cases read : race.store.get config inode rank with
  | mk result store =>
    rw [read] at answer holds
    cases answer
    refine keeps.begin holds ?_
    rintro call ⟨⟩
    exact {
      current := pinnedRecord_current current
      past := le_refl _
      home := .inl rfl
      setPin := fun chosen setting => by
        cases setting
        exact pinnedRecord_pin pin found
      others := fun never => absurd rfl (never pin) }

include known in
theorem KeepsPin.readAccess (now : UInt64) (fresh : Current config rank inode race.store) :
    KeepsPin config rank inode (raceStep config namespaceID rank inode race (.readAccess now)) := by
  obtain ⟨found, answer, versions, same, holds⟩ := keeps.holds.get known fresh
  simp only [raceStep]
  refine keeps.begin holds ?_
  rintro call ⟨⟩
  rw [answer]
  obtain ⟨current, samePin⟩ := accessedRecord_keeps namespaceID rank now versions same
  exact {
    current := current
    past := le_refl _
    home := .inl rfl
    setPin := fun _ setting => by cases setting
    others := fun _ _ => samePin }

include known in
theorem KeepsPin.readWalk (fresh : Current config rank inode race.store) :
    KeepsPin config rank inode (raceStep config namespaceID rank inode race .readWalk) := by
  obtain ⟨found, answer, _, same, holds⟩ := keeps.holds.get known fresh
  simp only [raceStep]
  refine keeps.begin holds ?_
  intro call started
  rw [answer] at started
  obtain ⟨walked, written, rfl⟩ := Option.map_eq_some_iff.mp (Option.mem_def.mp started)
  obtain ⟨current, samePin⟩ := walkedRecord_keeps same written
  exact {
    current := current
    past := le_refl _
    home := .inl rfl
    setPin := fun _ setting => by cases setting
    others := fun _ _ => samePin }

theorem KeepsPin.readDecay (idle : race.store.pending config rank inode = false) :
    KeepsPin config rank inode (raceStep config namespaceID rank inode race .readDecay) := by
  have onDisk := keeps.holds.settles
  rw [PoolMetaStore.settled_of_not_pending idle] at onDisk
  refine keeps.begin keeps.holds ?_
  intro call started
  simp only [decayRewrite] at started
  cases read : race.store.stored config rank inode with
  | none => simp [read] at started
  | some bytes =>
    rw [read] at onDisk
    obtain ⟨record, decoded, samePin⟩ := onDisk
    simp only [read, decoded] at started
    obtain ⟨decayed, halved, rfl⟩ := Option.map_eq_some_iff.mp (Option.mem_def.mp started)
    unfold decayedRecord at halved
    split at halved
    case isTrue => cases halved
    case isFalse =>
      cases halved
      have current : record.version = recordVersion := decodeRecord_version decoded
      have notPin : ∀ pin, Rewriter.decay ≠ .setPin pin := fun _ setting => nomatch setting
      exact {
        current := current
        past := le_refl _
        home := (recordRank_home config record).imp id fun away => ⟨notPin, away⟩
        setPin := fun pin setting => absurd setting (notPin pin)
        others := fun _ _ => samePin }

include known in
theorem KeepsPin.perform {call : Rewrite} (carries : call.Carries rank race) :
    ((∀ pin, call.caller ≠ .setPin pin) → call.epoch = race.epoch →
      HoldsPin config rank inode (call.perform config inode race.store) race.pin) ∧
    (∀ pin, call.caller = .setPin pin →
      HoldsPin config rank inode (call.perform config inode race.store) pin) := by
  constructor
  · intro notPin sameEpoch
    have samePin := carries.others notPin sameEpoch
    by_cases home : call.rank = rank
    · unfold Rewrite.perform
      rw [home, ← samePin]
      cases caller : call.caller with
      | setPin pin => exact absurd caller (notPin pin)
      | access => exact (samePin ▸ keeps.holds).put carries.current rfl
      | decay => exact holds_putBlocking known carries.current rfl
      | walk => exact holds_putBlocking known carries.current rfl
    · have away := (carries.home.resolve_left home).2
      have apart : ¬ (call.rank = rank ∧ inode = inode) := fun same => home same.1
      have blocking : Foreign config rank inode race.store (.putBlocking inode call.rank call.record) :=
        ⟨apart, fun _ => away⟩
      have dropping : Foreign config rank inode race.store (.put inode call.rank call.record) :=
        ⟨apart, fun _ => away⟩
      unfold Rewrite.perform
      cases call.caller with
      | setPin pin => exact keeps.holds.foreign known blocking
      | access => exact keeps.holds.foreign known dropping
      | decay => exact keeps.holds.foreign known blocking
      | walk => exact keeps.holds.foreign known blocking
  · intro pin setting
    have home : call.rank = rank := by
      rcases carries.home with home | ⟨notPin, _⟩
      · exact home
      · exact absurd setting (notPin pin)
    rw [Rewrite.perform, setting, ← carries.setPin pin setting, home]
    exact holds_putBlocking known carries.current rfl

include known in
theorem KeepsPin.write {index : Nat}
    (undisturbed : ∀ call ∈ race.calls[index]?, (∃ pin, call.caller = .setPin pin) ∨ call.epoch = race.epoch) :
    KeepsPin config rank inode (raceStep config namespaceID rank inode race (.write index)) := by
  simp only [raceStep]
  cases found : race.calls[index]? with
  | none => exact keeps
  | some call =>
    have carries := keeps.calls call (List.mem_of_getElem? found)
    obtain ⟨keepsPin, setsPin⟩ := keeps.perform known carries
    have remaining : ∀ other ∈ race.calls.eraseIdx index, other.Carries rank race :=
      fun other member => keeps.calls other (List.mem_of_mem_eraseIdx member)
    have ordinary : (∀ pin, call.caller ≠ .setPin pin) →
        KeepsPin config rank inode { race with
          store := call.perform config inode race.store
          calls := race.calls.eraseIdx index } := by
      intro notPin
      have sameEpoch := (undisturbed call found).resolve_left fun ⟨pin, setting⟩ => notPin pin setting
      exact ⟨keepsPin notPin sameEpoch, fun other member =>
        have before := remaining other member
        ⟨before.current, before.past, before.home, before.setPin, before.others⟩⟩
    cases caller : call.caller with
    | setPin pin =>
      simp only [caller]
      refine ⟨setsPin pin caller, fun other member => ?_⟩
      have before := remaining other member
      have earlier : other.epoch ≠ race.epoch + 1 := by
        have := before.past
        omega
      exact ⟨before.current, before.past.trans (Nat.le_succ _), before.home, before.setPin,
        fun _ now => absurd now earlier⟩
    | access =>
      simp only [caller]
      exact ordinary fun _ setting => by simp [caller] at setting
    | decay =>
      simp only [caller]
      exact ordinary fun _ setting => by simp [caller] at setting
    | walk =>
      simp only [caller]
      exact ordinary fun _ setting => by simp [caller] at setting

include known in
theorem KeepsPin.other {op : StoreOp} (foreign : Foreign config rank inode race.store op) :
    KeepsPin config rank inode (raceStep config namespaceID rank inode race (.other op)) := by
  refine ⟨keeps.holds.foreign known foreign, fun call member => ?_⟩
  have before := keeps.calls call member
  exact ⟨before.current, before.past, before.home, before.setPin, before.others⟩

end Step

theorem KeepsPin.step {race : PinRace} {event : RaceEvent} (known : config.known rank = true)
    (keeps : KeepsPin config rank inode race) (undisturbed : Undisturbed config rank inode race event) :
    KeepsPin config rank inode (raceStep config namespaceID rank inode race event) := by
  cases event with
  | readPin pin => exact keeps.readPin known pin undisturbed
  | readAccess now => exact keeps.readAccess known now undisturbed
  | readDecay => exact keeps.readDecay undisturbed
  | readWalk => exact keeps.readWalk known undisturbed
  | write index => exact keeps.write known undisturbed
  | writer tier index step =>
    exact ⟨keeps.holds.writer tier index undisturbed, fun call member =>
      have before := keeps.calls call member
      ⟨before.current, before.past, before.home, before.setPin, before.others⟩⟩
  | other op => exact keeps.other known undisturbed

def pinIn (bytes : Option Bytes) : PinState :=
  match bytes.map decodeRecord with
  | some (.ok record) => record.pinState
  | _ => pinNone

theorem pinIn_of_spells {bytes : Option Bytes} {pin : PinState} (spells : Spells (HasPin pin) bytes) :
    pinIn bytes = pin := by
  cases bytes with
  | none => exact Eq.symm spells
  | some value =>
    obtain ⟨record, decoded, rfl⟩ := spells
    simp [pinIn, decoded]

/-- A run that starts with no call in flight. -/
def PinRace.start (store : PoolMetaStore) (pin : PinState) : PinRace := ⟨store, [], 0, pin⟩

/-- In every undisturbed run on a file that stays on its tier, the drained store
holds the pin set by the last completed call, or the one it started with. -/
theorem drained_pin_is_last_set (known : config.known rank = true) {store : PoolMetaStore}
    {pin : PinState} (initially : HoldsPin config rank inode store pin) {events : List RaceEvent}
    (undisturbed : Guarded (raceStep config namespaceID rank inode) (Undisturbed config rank inode)
      (.start store pin) events) :
    pinIn ((run (raceStep config namespaceID rank inode) (.start store pin) events).store.drainAll.stored
        config rank inode) =
      (run (raceStep config namespaceID rank inode) (.start store pin) events).pin := by
  have started : KeepsPin config rank inode (.start store pin) := ⟨initially, by simp [PinRace.start]⟩
  have keeps := guarded_run_invariant (fun _ _ keeps undisturbed => KeepsPin.step known keeps undisturbed)
    undisturbed started
  rw [PoolMetaStore.drainAll_stored]
  exact pinIn_of_spells keeps.holds.settles

theorem opened_holdsNoPin : HoldsPin .twoTiers 1 7 .opened pinNone where
  settles := by
    have absent : PoolMetaStore.opened.settled .twoTiers 1 7 = none := by decide
    rw [absent]
    rfl
  cached := fun _ stored => nomatch stored

/-- An access, a pin and a decay one after the other keep the pin. -/
theorem pin_kept_between_calls :
    pinIn ((run (raceStep .twoTiers 9 1 7) (.start .opened pinNone)
      [.readAccess 100, .write 0, .readPin pinHot, .write 0, .writer 1 0 .receive, .writer 1 0 .receive,
        .writer 1 0 .flush, .readDecay, .write 0]).store.drainAll.stored .twoTiers 1 7) = pinHot := by
  have undisturbed : Guarded (raceStep .twoTiers 9 1 7) (Undisturbed .twoTiers 1 7)
      (.start .opened pinNone)
      [.readAccess 100, .write 0, .readPin pinHot, .write 0, .writer 1 0 .receive, .writer 1 0 .receive,
        .writer 1 0 .flush, .readDecay, .write 0] := by
    refine ⟨?_, ?_, ?_, ?_, ?_, ?_, ?_, ?_, ?_, trivial⟩
    · change Current .twoTiers 1 7 _
      decide
    · rintro call ⟨⟩
      exact .inr rfl
    · change Current .twoTiers 1 7 _
      decide
    · rintro call ⟨⟩
      exact .inl ⟨pinHot, rfl⟩
    · exact (by decide : Shard.WriterStep.receive ≠ .flushFailed)
    · exact (by decide : Shard.WriterStep.receive ≠ .flushFailed)
    · exact (by decide : Shard.WriterStep.flush ≠ .flushFailed)
    · change PoolMetaStore.pending .twoTiers _ 1 7 = false
      decide
    · rintro call ⟨⟩
      exact .inr rfl
  exact (drained_pin_is_last_set (by decide) opened_holdsNoPin undisturbed).trans (by decide)

/-- An access that read before the pin was set writes the file back without it. -/
theorem access_overwrites_pin :
    (run (raceStep .twoTiers 9 1 7) (.start .opened pinNone)
      [.readAccess 100, .readPin pinHot, .write 1, .write 0]).pin = pinHot ∧
    pinIn ((run (raceStep .twoTiers 9 1 7) (.start .opened pinNone)
      [.readAccess 100, .readPin pinHot, .write 1, .write 0]).store.drainAll.stored .twoTiers 1 7) =
        pinNone := by
  decide

end Tierd.Meta
