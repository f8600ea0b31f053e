import Tierd.Meta.Holds
import Tierd.Placement.MoveSafety

namespace Tierd.Placement

open Tierd.Data Tierd.Meta FileSystem

/-- A file on its way: the move at hand, the inode under which the file started
it, and the state of the two tiers and the store. -/
structure Relocation where
  job : MoveJob
  srcIno : UInt64
  move : MoveState

/-- A call of the move, a step of a shard writer, somebody else's operation on the
store, a crash of the process, another attempt, or another move of the file; its
destination is a tier in whatever state. -/
inductive HandoverEvent where
  | call (answer : Answer)
  | writer (rank : Int) (index : Nat) (step : Shard.WriterStep)
  | other (op : StoreOp)
  | crash
  | retry
  | next (following : MoveJob) (dst : FileSystem)

/-- The next move starts where the file is. -/
def Relocation.next (config : StoreConfig) (state : Relocation) (following : MoveJob) (dst : FileSystem) :
    Relocation :=
  let job := { following with metaStore := some config }
  match state.move.src.lookup state.job.rel, state.move.dst.lookup state.job.rel with
  | some (.file _), _ =>
    if job.rel = state.job.rel ∧ job.srcRank = state.job.srcRank then
      { state with job, move := { state.move with dst, pc := .mountSource } }
    else state
  | _, some (.file ino) =>
    if job.rel = state.job.rel ∧ job.srcRank = state.job.destRank then
      ⟨job, ino, ⟨state.move.dst, dst, state.move.store, .mountSource⟩⟩
    else state
  | _, _ => state

def handoverStep (config : StoreConfig) (state : Relocation) : HandoverEvent → Relocation
  | .call answer => { state with move := moveStep state.job state.move answer }
  | .writer rank index step => { state with
      move := { state.move with store := state.move.store.writerStep rank index step } }
  | .other op => { state with move := { state.move with store := state.move.store.apply config op } }
  | .crash => { state with move := { state.move with store := state.move.store.crash, pc := .mountSource } }
  | .retry => if state.move.pc.idle then { state with move := state.move.restart } else state
  | .next following dst => if state.move.pc.idle then state.next config following dst else state

def MovePc.handing : MovePc → Bool
  | .statDest _ | .putRecord _ _ | .deleteRecord _ => true
  | _ => false

/-- A move between two tiers that both have a store. -/
def BetweenTiers (config : StoreConfig) (job : MoveJob) : Prop :=
  config.known job.srcRank = true ∧ config.known job.destRank = true ∧ job.srcRank ≠ job.destRank
deriving Decidable

structure Attached (config : StoreConfig) (job : MoveJob) : Prop where
  store : job.metaStore = some config
  tiers : BetweenTiers config job

namespace Attached

variable {config : StoreConfig} {job : MoveJob} (attached : Attached config job)

include attached

theorem source : config.known job.srcRank = true := attached.tiers.1

theorem dest : config.known job.destRank = true := attached.tiers.2.1

theorem apart : job.srcRank ≠ job.destRank := attached.tiers.2.2

end Attached

/-- The record is read when the read sees the last write, the destination can be
examined, and the source record is deleted when no write to it is waiting. -/
def CarefulCall (config : StoreConfig) (job : MoveJob) (srcIno : UInt64) (move : MoveState)
    (answer : Answer) : Prop :=
  match move.pc with
  | .getStalled _ | .getRecord _ => Current config job.srcRank srcIno move.store
  | .statDest _ => answer.fails = false
  | .deleteRecord _ => answer.fails = false ∧ move.store.pending config job.srcRank srcIno = false
  | _ => True

def Careful (config : StoreConfig) (state : Relocation) : HandoverEvent → Prop
  | .call answer => CarefulCall config state.job state.srcIno state.move answer
  | .writer _ _ step => step ≠ .flushFailed
  | .other op =>
    Foreign config state.job.srcRank state.srcIno state.move.store op ∧
      ∀ ino, state.move.dst.lookup state.job.rel = some (.file ino) →
        Foreign config state.job.destRank ino state.move.store op
  | .crash =>
    state.move.pc.handing = false ∧
      state.move.store.pending config state.job.srcRank state.srcIno = false ∧
      (NoSource state.job state.move →
        ∀ ino, state.move.dst.lookup state.job.rel = some (.file ino) →
          state.move.store.pending config state.job.destRank ino = false)
  | .retry => True
  | .next following _ => BetweenTiers config following

instance (config : StoreConfig) (job : MoveJob) (srcIno : UInt64) (move : MoveState) (answer : Answer) :
    Decidable (CarefulCall config job srcIno move answer) := by
  unfold CarefulCall
  split <;> infer_instance

instance (fs : FileSystem) (path : Path) (holds : UInt64 → Prop) [∀ ino, Decidable (holds ino)] :
    Decidable (∀ ino, fs.lookup path = some (.file ino) → holds ino) :=
  match found : fs.lookup path with
  | some (.file ino) => decidable_of_iff (holds ino) ⟨fun good _ same => by cases same; exact good,
      fun all => all ino rfl⟩
  | none => isTrue fun _ same => by cases same
  | some .dir => isTrue fun _ same => by cases same
  | some .other => isTrue fun _ same => by cases same

instance Careful.decidable (config : StoreConfig) (state : Relocation) :
    ∀ event, Decidable (Careful config state event)
  | .call _ => inferInstanceAs (Decidable (CarefulCall ..))
  | .writer _ _ _ => inferInstanceAs (Decidable (_ ≠ _))
  | .other _ => inferInstanceAs (Decidable (_ ∧ ∀ _, _ → _))
  | .crash =>
    have : Decidable (NoSource state.job state.move) := inferInstanceAs (Decidable (_ = _))
    inferInstanceAs (Decidable (_ ∧ _ ∧ (_ → ∀ _, _ → _)))
  | .retry => isTrue trivial
  | .next _ _ => inferInstanceAs (Decidable (BetweenTiers ..))

def Carries (pin : PinState) (heat : UInt32) (found : Option Record) : Prop :=
  ∃ record, found = some record ∧ record.pinState = pin ∧ record.heatCounter = heat

section Invariant

variable (config : StoreConfig) (pin : PinState) (heat : UInt32) (job : MoveJob) (srcIno : UInt64)
  (state : MoveState)

/-- The move has read the record of the file. -/
def Carried (source : SourceStat) : Prop := source.ino = srcIno ∧ Carries pin heat source.record

def DestFile : Prop := ∃ ino, state.dst.lookup job.rel = some (.file ino)

def TmpFile : Prop := ∃ ino, state.dst.lookup (tmpPath job.rel) = some (.file ino)

def WaitingStage : Prop :=
  match state.pc with
  | .mountSource | .mountDest | .mkdirParent | .lstatDest | .statSource | .rollback | .dropTmp _
  | .done (.error _) => True
  | .statStalled _ => DestFile job state
  | .openStalled source | .readStalledSource source _ _ _ | .readStalledDest source _ _ _ _ _
  | .getStalled source => DestFile job state ∧ source.ino = srcIno
  | .clearTmp source | .getRecord source => source.ino = srcIno
  | .openSource source | .createTmp source _ => Carried pin heat srcIno source
  | .copyChunk source _ _ _ | .closeTmp source | .chtimes source | .linkDest source =>
    TmpFile job state ∧ Carried pin heat srcIno source
  | .unlinkStalled source | .unlinkTmp source | .unlinkSource source =>
    DestFile job state ∧ Carried pin heat srcIno source
  | _ => False

def HandingStage (ino : UInt64) : Prop :=
  match state.pc with
  | .statDest source => Carried pin heat srcIno source
  | .putRecord source dstIno => Carried pin heat srcIno source ∧ dstIno = ino
  | .deleteRecord source =>
    Carried pin heat srcIno source ∧
      Holds config job.destRank ino (Carries pin heat) state.store
  | _ => False

/-- How far an attempt gets that finds no source. -/
def MovedStage : Prop :=
  match state.pc with
  | .mountSource | .mountDest | .mkdirParent | .lstatDest | .statStalled _ | .done _ => True
  | _ => False

/-- The record is with the file on the source, on its way, or with the file on the
destination and nowhere else. -/
inductive Follows : Prop where
  | waiting (named : state.src.lookup job.rel = some (.file srcIno))
      (holds : Holds config job.srcRank srcIno (Carries pin heat) state.store)
      (stage : WaitingStage pin heat job srcIno state)
  | handing (ino : UInt64) (gone : NoSource job state)
      (named : state.dst.lookup job.rel = some (.file ino))
      (stage : HandingStage config pin heat job srcIno state ino)
  | moved (ino : UInt64) (gone : NoSource job state)
      (named : state.dst.lookup job.rel = some (.file ino))
      (holds : Holds config job.destRank ino (Carries pin heat) state.store)
      (forgotten : state.store.settled config job.srcRank srcIno = none)
      (stage : MovedStage state)

end Invariant

variable {config : StoreConfig} {pin : PinState} {heat : UInt32} {job : MoveJob} {srcIno : UInt64}
  {state : MoveState} {answer : Answer}

theorem readRecord_carries (attached : Attached config job)
    (holds : Holds config job.srcRank srcIno (Carries pin heat) state.store)
    (fresh : Current config job.srcRank srcIno state.store) :
    Carries pin heat (readRecord job state.store srcIno).1 ∧
      Holds config job.srcRank srcIno (Carries pin heat) (readRecord job state.store srcIno).2 := by
  obtain ⟨found, answer, _, good, after⟩ := holds.get attached.source fresh
  simp only [readRecord, attached.store]
  cases read : state.store.get config srcIno job.srcRank with
  | mk result store =>
    rw [read] at answer after
    cases answer
    exact ⟨good, after⟩

theorem handoff_follows {source : SourceStat} (attached : Attached config job) (dest : DestFile job state)
    (carried : Carried pin heat srcIno source) :
    Follows config pin heat job srcIno
      (handoff job { state with src := state.src.unlink job.rel } source) := by
  obtain ⟨ino, named⟩ := dest
  simp only [handoff, attached.store]
  exact .handing ino lookup_unlink_self named carried

section Waiting

variable {src dst : FileSystem} {store : PoolMetaStore} (named : src.lookup job.rel = some (.file srcIno))
  (holds : Holds config job.srcRank srcIno (Carries pin heat) store)

include named holds

theorem waiting_lstatDest :
    Follows config pin heat job srcIno (moveStep job ⟨src, dst, store, .lstatDest⟩ answer) := by
  simp only [moveStep, lstatDest]
  split
  · exact .waiting named holds trivial
  · split
    · exact .waiting named holds trivial
    · rename_i ino found
      exact .waiting named holds ⟨ino, found⟩
    · exact .waiting named holds trivial

/-- A file under the name on the destination is compared with the source. -/
theorem waiting_stalled {pc : MovePc}
    (comparing : (∃ size, pc = .statStalled size) ∨ (∃ source, pc = .openStalled source) ∨
      ∃ source srcFile dstFile offset bytes ending,
        pc = .readStalledDest source srcFile dstFile offset bytes ending)
    (stage : WaitingStage pin heat job srcIno ⟨src, dst, store, pc⟩) :
    Follows config pin heat job srcIno (moveStep job ⟨src, dst, store, pc⟩ answer) := by
  rcases comparing with ⟨size, rfl⟩ | ⟨source, rfl⟩ | ⟨source, srcFile, dstFile, offset, bytes, ending, rfl⟩
  · simp only [moveStep, statStalled, named]
    repeat' split
    · exact .waiting named holds trivial
    · exact .waiting named holds ⟨stage, rfl⟩
    · exact .waiting named holds trivial
  · simp only [moveStep, openStalled]
    repeat' split
    · exact .waiting named holds trivial
    · exact .waiting named holds stage
    · exact .waiting named holds trivial
  · simp only [moveStep, readStalledDest]
    split
    · exact .waiting named holds trivial
    · exact .waiting named holds stage
    · exact .waiting named holds trivial
    · exact .waiting named holds stage

theorem waiting_createTmp {source : SourceStat} {srcFile : UInt64} (carried : Carried pin heat srcIno source) :
    Follows config pin heat job srcIno (moveStep job ⟨src, dst, store, .createTmp source srcFile⟩ answer) := by
  simp only [moveStep, createTmp]
  split
  · rename_i created
    split
    · exact .waiting named holds trivial
    · refine .waiting named holds ⟨⟨answer.ino, ?_⟩, carried⟩
      simp [create_eq_some created, lookup_setNode]
  · exact .waiting named holds trivial

theorem waiting_copyChunk {source : SourceStat} {srcFile tmpFile : UInt64} {offset : Nat}
    (stage : WaitingStage pin heat job srcIno ⟨src, dst, store, .copyChunk source srcFile tmpFile offset⟩) :
    Follows config pin heat job srcIno
      (moveStep job ⟨src, dst, store, .copyChunk source srcFile tmpFile offset⟩ answer) := by
  simp only [moveStep, copyChunk]
  repeat' split
  · exact .waiting named holds trivial
  · exact .waiting named holds stage
  · exact .waiting named holds stage

/-- The copy takes the file's name and drops its own. -/
theorem waiting_install {source : SourceStat} {pc : MovePc}
    (installing : pc = .linkDest source ∨ pc = .unlinkTmp source)
    (stage : WaitingStage pin heat job srcIno ⟨src, dst, store, pc⟩) :
    Follows config pin heat job srcIno (moveStep job ⟨src, dst, store, pc⟩ answer) := by
  rcases installing with rfl | rfl
  · simp only [moveStep, linkDest]
    split
    · rename_i linked _
      obtain ⟨⟨ino, copied⟩, carried⟩ := stage
      exact .waiting named holds ⟨⟨ino, (lookup_link linked).trans copied⟩, carried⟩
    · exact .waiting named holds trivial
  · simp only [moveStep, unlinkTmp]
    split
    · exact .waiting named holds trivial
    · obtain ⟨⟨ino, installed⟩, carried⟩ := stage
      refine .waiting named holds ⟨⟨ino, ?_⟩, carried⟩
      exact (lookup_unlink_other (tmpPath_ne job.rel).symm).trans installed

theorem waiting_unlink (attached : Attached config job) {source : SourceStat} {pc : MovePc}
    (unlinking : pc = .unlinkStalled source ∨ pc = .unlinkSource source)
    (stage : WaitingStage pin heat job srcIno ⟨src, dst, store, pc⟩) :
    Follows config pin heat job srcIno (moveStep job ⟨src, dst, store, pc⟩ answer) := by
  have dest : DestFile job ⟨src, dst, store, pc⟩ := by rcases unlinking with rfl | rfl <;> exact stage.1
  have carried : Carried pin heat srcIno source := by rcases unlinking with rfl | rfl <;> exact stage.2
  rcases unlinking with rfl | rfl
  all_goals
    simp only [moveStep]
    split
    · exact .waiting named holds trivial
    · exact handoff_follows attached dest carried

end Waiting

theorem waiting_step (attached : Attached config job)
    (named : state.src.lookup job.rel = some (.file srcIno))
    (holds : Holds config job.srcRank srcIno (Carries pin heat) state.store)
    (stage : WaitingStage pin heat job srcIno state)
    (careful : CarefulCall config job srcIno state answer) :
    Follows config pin heat job srcIno (moveStep job state answer) := by
  obtain ⟨src, dst, store, pc⟩ := state
  simp only at named holds
  cases pc with
  | mountSource | mountDest | mkdirParent =>
    simp only [moveStep]
    split <;> exact .waiting named holds trivial
  | lstatDest => exact waiting_lstatDest named holds
  | statStalled size => exact waiting_stalled named holds (.inl ⟨size, rfl⟩) stage
  | openStalled source => exact waiting_stalled named holds (.inr (.inl ⟨source, rfl⟩)) stage
  | readStalledSource => exact .waiting named holds stage
  | readStalledDest => exact waiting_stalled named holds (.inr (.inr ⟨_, _, _, _, _, _, rfl⟩)) stage
  | getStalled source =>
    obtain ⟨dest, rfl⟩ := stage
    obtain ⟨carries, after⟩ := readRecord_carries attached holds careful
    exact .waiting named after ⟨dest, rfl, carries⟩
  | statSource =>
    simp only [moveStep, statSource, named]
    split
    · exact .waiting named holds trivial
    · exact .waiting named holds rfl
  | clearTmp => exact .waiting named holds stage
  | getRecord source =>
    obtain rfl : source.ino = srcIno := stage
    obtain ⟨carries, after⟩ := readRecord_carries attached holds careful
    exact .waiting named after ⟨rfl, carries⟩
  | openSource =>
    simp only [moveStep, openSource, named]
    split
    · exact .waiting named holds trivial
    · exact .waiting named holds stage
  | createTmp => exact waiting_createTmp named holds stage
  | copyChunk => exact waiting_copyChunk named holds stage
  | closeTmp =>
    simp only [moveStep]
    split
    · exact .waiting named holds trivial
    · exact .waiting named holds stage
  | chtimes =>
    simp only [moveStep, chtimes]
    split <;> exact .waiting named holds stage
  | linkDest => exact waiting_install named holds (.inl rfl) stage
  | unlinkTmp => exact waiting_install named holds (.inr rfl) stage
  | unlinkStalled => exact waiting_unlink named holds attached (.inl rfl) stage
  | unlinkSource => exact waiting_unlink named holds attached (.inr rfl) stage
  | rollback | dropTmp => exact .waiting named holds trivial
  | done result =>
    cases result with
    | ok => exact stage.elim
    | error => exact .waiting named holds trivial
  | statDest | putRecord | deleteRecord => exact stage.elim

theorem handedRecord_carries {source : SourceStat} (carried : Carried pin heat srcIno source) (now : Int) :
    Carries pin heat (some (handedRecord job source now)) := by
  obtain ⟨_, record, found, samePin, sameHeat⟩ := carried
  refine ⟨handedRecord job source now, rfl, ?_, ?_⟩
  · simp [handedRecord, found, samePin]
  · simp [handedRecord, found, sameHeat]

theorem handing_step {ino : UInt64} (attached : Attached config job) (gone : NoSource job state)
    (named : state.dst.lookup job.rel = some (.file ino))
    (stage : HandingStage config pin heat job srcIno state ino)
    (careful : CarefulCall config job srcIno state answer) :
    Follows config pin heat job srcIno (moveStep job state answer) := by
  obtain ⟨src, dst, store, pc⟩ := state
  simp only at named
  cases pc with
  | statDest source =>
    have works : answer.fails = false := careful
    simp only [moveStep, statDest, named, works]
    exact .handing ino gone named ⟨stage, rfl⟩
  | putRecord source dstIno =>
    obtain ⟨carried, rfl⟩ := stage
    simp only [moveStep, attached.store]
    exact .handing dstIno gone named
      ⟨carried, holds_putBlocking attached.dest rfl (handedRecord_carries carried answer.now)⟩
  | deleteRecord source =>
    obtain ⟨⟨rfl, _⟩, holds⟩ := stage
    obtain ⟨works, idle⟩ := careful
    have elsewhere : Foreign config job.destRank ino store (.delete source.ino job.srcRank) :=
      fun same => attached.apart same.1
    simp only [moveStep, attached.store, PoolMetaStore.tryDelete, works, Bool.false_eq_true, if_false]
    exact .moved ino gone named (holds.foreign attached.dest elsewhere)
      ((PoolMetaStore.delete_settled_iff attached.source).mpr idle) trivial
  | _ => exact stage.elim

theorem moved_step {ino : UInt64} (gone : NoSource job state)
    (named : state.dst.lookup job.rel = some (.file ino))
    (holds : Holds config job.destRank ino (Carries pin heat) state.store)
    (forgotten : state.store.settled config job.srcRank srcIno = none) (stage : MovedStage state) :
    Follows config pin heat job srcIno (moveStep job state answer) := by
  obtain ⟨src, dst, store, pc⟩ := state
  have absent : src.lookup job.rel = none := gone
  simp only at named
  cases pc with
  | mountSource | mountDest =>
    simp only [moveStep]
    split <;> exact .moved ino gone named holds forgotten trivial
  | mkdirParent =>
    simp only [moveStep]
    split
    · rename_i made _
      have same := (mkdirAll_frame made).2 _ (rel_not_mem_parents job.rel)
      exact .moved ino gone (same.trans named) holds forgotten trivial
    · exact .moved ino gone named holds forgotten trivial
  | lstatDest =>
    simp only [moveStep, lstatDest, named]
    split <;> exact .moved ino gone named holds forgotten trivial
  | statStalled =>
    simp only [moveStep, statStalled, absent]
    split <;> exact .moved ino gone named holds forgotten trivial
  | done => exact .moved ino gone named holds forgotten trivial
  | _ => exact stage.elim

theorem Follows.withStore (follows : Follows config pin heat job srcIno state) {store : PoolMetaStore}
    (source : Holds config job.srcRank srcIno (Carries pin heat) state.store →
      Holds config job.srcRank srcIno (Carries pin heat) store)
    (dest : ∀ ino, state.dst.lookup job.rel = some (.file ino) →
      Holds config job.destRank ino (Carries pin heat) state.store →
      Holds config job.destRank ino (Carries pin heat) store)
    (settled : store.settled config job.srcRank srcIno = state.store.settled config job.srcRank srcIno) :
    Follows config pin heat job srcIno { state with store } := by
  cases follows with
  | waiting named holds stage => exact .waiting named (source holds) stage
  | handing ino gone named stage =>
    refine .handing ino gone named ?_
    obtain ⟨src, dst, before, pc⟩ := state
    cases pc with
    | deleteRecord => exact ⟨stage.1, dest ino named stage.2⟩
    | _ => exact stage
  | moved ino gone named holds forgotten stage =>
    exact .moved ino gone named (dest ino named holds) (settled.trans forgotten) stage

theorem HandingStage.handing {ino : UInt64} (stage : HandingStage config pin heat job srcIno state ino) :
    state.pc.handing = true ∧ state.pc.idle = false := by
  obtain ⟨src, dst, store, pc⟩ := state
  cases pc with
  | statDest | putRecord | deleteRecord => exact ⟨rfl, rfl⟩
  | _ => exact stage.elim

structure Follows.Between (config : StoreConfig) (pin : PinState) (heat : UInt32) (state : Relocation) :
    Prop where
  attached : Attached config state.job
  follows : Follows config pin heat state.job state.srcIno state.move

namespace Follows.Between

variable {state : Relocation} (between : Follows.Between config pin heat state)

include between

theorem call (careful : CarefulCall config state.job state.srcIno state.move answer) :
    Follows.Between config pin heat (handoverStep config state (.call answer)) := by
  refine ⟨between.attached, ?_⟩
  cases between.follows with
  | waiting named holds stage => exact waiting_step between.attached named holds stage careful
  | handing ino gone named stage => exact handing_step between.attached gone named stage careful
  | moved ino gone named holds forgotten stage => exact moved_step gone named holds forgotten stage

theorem writer (rank : Int) (index : Nat) {step : Shard.WriterStep} (commits : step ≠ .flushFailed) :
    Follows.Between config pin heat (handoverStep config state (.writer rank index step)) :=
  ⟨between.attached, between.follows.withStore (fun holds => holds.writer rank index commits)
    (fun _ _ holds => holds.writer rank index commits) (PoolMetaStore.writerStep_settled index commits)⟩

theorem other {op : StoreOp}
    (source : Foreign config state.job.srcRank state.srcIno state.move.store op)
    (dest : ∀ ino, state.move.dst.lookup state.job.rel = some (.file ino) →
      Foreign config state.job.destRank ino state.move.store op) :
    Follows.Between config pin heat (handoverStep config state (.other op)) :=
  ⟨between.attached, between.follows.withStore (fun holds => holds.foreign between.attached.source source)
    (fun ino named holds => holds.foreign between.attached.dest (dest ino named))
    (apply_settled_foreign source)⟩

theorem crash (settled : state.move.pc.handing = false)
    (source : state.move.store.pending config state.job.srcRank state.srcIno = false)
    (dest : NoSource state.job state.move → ∀ ino, state.move.dst.lookup state.job.rel = some (.file ino) →
      state.move.store.pending config state.job.destRank ino = false) :
    Follows.Between config pin heat (handoverStep config state .crash) := by
  refine ⟨between.attached, ?_⟩
  cases between.follows with
  | waiting named holds stage => exact .waiting named (holds.crash source) trivial
  | handing ino gone named stage => simp [stage.handing.1] at settled
  | moved ino gone named holds forgotten stage =>
    exact .moved ino gone named (holds.crash (dest gone ino named))
      ((PoolMetaStore.crash_settled source).trans forgotten) trivial

theorem retry : Follows.Between config pin heat (handoverStep config state .retry) := by
  simp only [handoverStep]
  split
  · rename_i idle
    refine ⟨between.attached, ?_⟩
    cases between.follows with
    | waiting named holds stage => exact .waiting named holds trivial
    | handing ino gone named stage => simp [stage.handing.2] at idle
    | moved ino gone named holds forgotten stage => exact .moved ino gone named holds forgotten trivial
  · exact between

theorem next {following : MoveJob} (tiers : BetweenTiers config following) (tier : FileSystem) :
    Follows.Between config pin heat (handoverStep config state (.next following tier)) := by
  have attached : Attached config { following with metaStore := some config } := ⟨rfl, tiers⟩
  simp only [handoverStep]
  split
  · rename_i idle
    cases between.follows with
    | waiting named holds stage =>
      simp only [Relocation.next, named]
      split
      · rename_i same
        refine ⟨attached, .waiting ?_ ?_ trivial⟩
        · simpa only [same.1] using named
        · simpa only [same.2] using holds
      · exact between
    | handing ino gone named stage => simp [stage.handing.2] at idle
    | moved ino gone named holds forgotten stage =>
      simp only [Relocation.next, show state.move.src.lookup state.job.rel = none from gone, named]
      split
      · rename_i same
        refine ⟨attached, .waiting ?_ ?_ trivial⟩
        · simpa only [same.1] using named
        · simpa only [same.2] using holds
      · exact between
  · exact between

theorem step {event : HandoverEvent} (careful : Careful config state event) :
    Follows.Between config pin heat (handoverStep config state event) := by
  cases event with
  | call answer => exact between.call careful
  | writer rank index step => exact between.writer rank index careful
  | other op => exact between.other careful.1 careful.2
  | crash => exact between.crash careful.1 careful.2.1 careful.2.2
  | retry => exact between.retry
  | next following tier => exact between.next careful tier

theorem found (settled : state.move.pc.handing = false) (gone : NoSource state.job state.move)
    {ino : UInt64} (named : state.move.dst.lookup state.job.rel = some (.file ino)) :
    (∃ record, (state.move.store.drainAll.get config ino state.job.destRank).1 = .ok (some record) ∧
      record.pinState = pin ∧ record.heatCounter = heat) ∧
      state.move.store.drainAll.stored config state.job.srcRank state.srcIno = none := by
  cases between.follows with
  | waiting there => simp [NoSource, there] at gone
  | handing ino gone named stage => simp [stage.handing.1] at settled
  | moved dstIno _ there holds forgotten _ =>
    cases there.symm.trans named
    have drained : Holds config state.job.destRank ino (Carries pin heat) state.move.store.drainAll :=
      ⟨by simpa using holds.settles, holds.cached⟩
    obtain ⟨found, answer, _, ⟨record, rfl, samePin, sameHeat⟩, _⟩ :=
      drained.get between.attached.dest (.inr (PoolMetaStore.drainAll_pending ..))
    refine ⟨⟨record, answer, samePin, sameHeat⟩, ?_⟩
    rw [PoolMetaStore.drainAll_stored]
    exact forgotten

end Follows.Between

/-- Through any number of careful moves, crashes and retries: when the file is
found only on the destination and no move is between unlinking the source and
returning, `Get` on the drained store answers its pin and heat there, and its old
record is gone. -/
theorem record_follows_file (config : StoreConfig) (job : MoveJob) (attached : Attached config job)
    (pin : PinState) (heat : UInt32) (srcIno : UInt64) (src dst : FileSystem) (store : PoolMetaStore)
    (named : src.lookup job.rel = some (.file srcIno))
    (holds : Holds config job.srcRank srcIno (Carries pin heat) store) (events : List HandoverEvent)
    (careful : Guarded (handoverStep config) (Careful config) ⟨job, srcIno, ⟨src, dst, store, .mountSource⟩⟩
      events) :
    let final := run (handoverStep config) ⟨job, srcIno, ⟨src, dst, store, .mountSource⟩⟩ events
    final.move.pc.handing = false → final.move.src.lookup final.job.rel = none →
      ∀ ino, final.move.dst.lookup final.job.rel = some (.file ino) →
        (∃ record, (final.move.store.drainAll.get config ino final.job.destRank).1 = .ok (some record) ∧
          record.pinState = pin ∧ record.heatCounter = heat) ∧
        final.move.store.drainAll.stored config final.job.srcRank final.srcIno = none := by
  intro final settled gone ino there
  have initially : Follows.Between config pin heat ⟨job, srcIno, ⟨src, dst, store, .mountSource⟩⟩ :=
    ⟨attached, .waiting named holds trivial⟩
  have preserved : ∀ state event, Follows.Between config pin heat state → Careful config state event →
      Follows.Between config pin heat (handoverStep config state event) :=
    fun _ _ between careful => between.step careful
  have between : Follows.Between config pin heat final := guarded_run_invariant preserved careful initially
  exact between.found settled gone there

def pinnedStore : PoolMetaStore :=
  (PoolMetaStore.opened.putBlocking .twoTiers 7 2 ⟨recordVersion, pinHot, 2, 1, 5, 0⟩).drainAll

theorem pinnedStore_holds : Holds .twoTiers 2 7 (Carries pinHot 5) pinnedStore := by
  have queued : Holds .twoTiers 2 7 (Carries pinHot 5)
      (PoolMetaStore.opened.putBlocking .twoTiers 7 2 ⟨recordVersion, pinHot, 2, 1, 5, 0⟩) :=
    holds_putBlocking (by decide) rfl ⟨_, rfl, rfl, rfl⟩
  exact ⟨by simpa [pinnedStore] using queued.settles, queued.cached⟩

def committedBeforeCrash : List HandoverEvent :=
  List.replicate 22 (.call workingCall) ++
    [.writer 1 0 .receive, .writer 1 0 .flush, .crash, .retry] ++ List.replicate 6 (.call workingCall)

theorem committed_record_follows :
    let final := run (handoverStep .twoTiers)
      ⟨promotion, 7, ⟨oneFile [1, 2, 3], emptyTier, pinnedStore, .mountSource⟩⟩ committedBeforeCrash
    (∃ record, (final.move.store.drainAll.get .twoTiers 9 final.job.destRank).1 = .ok (some record) ∧
      record.pinState = pinHot ∧ record.heatCounter = 5) ∧
      final.move.store.drainAll.stored .twoTiers final.job.srcRank final.srcIno = none := by
  have attached : Attached .twoTiers promotion := ⟨rfl, by decide⟩
  have follows := record_follows_file .twoTiers promotion attached pinHot 5 7 (oneFile [1, 2, 3]) emptyTier
    pinnedStore (by decide) pinnedStore_holds committedBeforeCrash (by decide +kernel)
  exact follows (by decide +kernel) (by decide +kernel) 9 (by decide +kernel)

/-- A crash right after the source is unlinked: the retry finds no source and gives
up, the destination has no record, and the old one is still there. -/
theorem crash_after_unlink_loses_record :
    let final := run (handoverStep .twoTiers)
      ⟨promotion, 7, ⟨oneFile [1, 2, 3], emptyTier, pinnedStore, .mountSource⟩⟩
      (List.replicate 17 (.call workingCall) ++ [.crash, .retry] ++ List.replicate 6 (.call workingCall))
    final.move.pc = .done (.error .destExists) ∧ final.move.src.lookup ["a"] = none ∧
      final.move.dst.lookup ["a"] = some (.file 9) ∧
      (final.move.store.drainAll.get .twoTiers 9 1).1 = .ok none ∧
      (final.move.store.drainAll.stored .twoTiers 2 7).isSome = true := by
  decide +kernel

end Tierd.Placement
