import Tierd.Data.Journal
import Tierd.Data.Runs
import Tierd.Meta.Record

namespace Tierd.Meta

open Tierd.Data

def shardWriteQueueCap : Nat := 4096

def shardBatchMax : Nat := 256

/-- One bbolt database with its writer goroutine: the bucket, the batch the
writer holds, and the channel in front of it.  Keys are inodes; `InodeKey` only
renders them as bytes. -/
abbrev Shard := Journal UInt64 Bytes

namespace Shard

/-- `enqueue`: refused when the channel is full. -/
def enqueue (shard : Shard) (key : UInt64) (val : Bytes) : Option Shard :=
  if shard.queue.length < shardWriteQueueCap then some (Journal.enqueue shard key val) else none

/-- What the writer does by itself: take one write off the channel while its
batch has room, commit the batch, or lose it to a failed commit. -/
inductive WriterStep where
  | receive
  | flush
  | flushFailed
deriving DecidableEq, Repr

def writerStep (shard : Shard) : WriterStep → Shard
  | .receive => if shard.batch.length < shardBatchMax then Journal.receive shard else shard
  | .flush => Journal.flush shard
  | .flushFailed => Journal.dropBatch shard

/-- A sender blocked on a full channel resumes when the writer frees a slot. -/
def awaitRoom (shard : Shard) : Shard :=
  if shard.queue.length < shardWriteQueueCap then shard
  else if shard.batch.length < shardBatchMax then writerStep shard .receive
  else writerStep (writerStep shard .flush) .receive

def enqueueBlocking (shard : Shard) (key : UInt64) (val : Bytes) : Shard :=
  Journal.enqueue (awaitRoom shard) key val

def del (shard : Shard) (key : UInt64) : Shard := Journal.deleteNow shard key

def putSync (shard : Shard) (key : UInt64) (val : Bytes) : Shard := Journal.putNow shard key val

/-- `drainQueue` returns once the writer has passed the barrier it enqueues. -/
def drainQueue (shard : Shard) : Shard := Journal.drain shard

def get (shard : Shard) (key : UInt64) : Option Bytes := shard.disk[key]?

/-- The pairs `iterate` hands to its callback, in inode order. -/
def iterate (shard : Shard) : List (UInt64 × Bytes) := shard.disk.toList

variable {shard : Shard} {key : UInt64}

theorem writerStep_settled {step : WriterStep} (commits : step ≠ .flushFailed) :
    (writerStep shard step).settled key = shard.settled key := by
  cases step with
  | receive =>
    simp only [writerStep]
    split
    · exact Journal.settled_receive
    · rfl
  | flush => exact Journal.settled_flush
  | flushFailed => contradiction

theorem writerStep_pending {step : WriterStep} (busy : (writerStep shard step).pending key = true) :
    shard.pending key = true := by
  cases step with
  | receive =>
    simp only [writerStep] at busy
    split at busy
    · rwa [Journal.pending_receive] at busy
    · exact busy
  | flush => exact Journal.pending_of_pending_flush busy
  | flushFailed => exact Journal.pending_of_pending_flush busy

theorem awaitRoom_settled : (awaitRoom shard).settled key = shard.settled key := by
  unfold awaitRoom
  split
  · rfl
  · split
    · exact writerStep_settled (by decide)
    · rw [writerStep_settled (by decide), writerStep_settled (by decide)]

theorem awaitRoom_pending (busy : (awaitRoom shard).pending key = true) :
    shard.pending key = true := by
  unfold awaitRoom at busy
  split at busy
  · exact busy
  · split at busy
    · exact writerStep_pending busy
    · exact writerStep_pending (writerStep_pending busy)

/-- What is committed, taken and queued together does not change by the writer's steps, unless a
commit fails. -/
theorem writerStep_commit {step : WriterStep} (commits : step ≠ .flushFailed) :
    commit (writerStep shard step).disk ((writerStep shard step).batch ++ (writerStep shard step).queue) =
      commit shard.disk (shard.batch ++ shard.queue) := by
  obtain ⟨disk, batch, queue⟩ := shard
  cases step with
  | receive =>
    simp only [writerStep]
    split
    · cases queue with
      | nil => rfl
      | cons write rest => simp [Journal.receive]
    · rfl
  | flush => simp only [writerStep, Journal.flush, List.nil_append, commit_append]
  | flushFailed => contradiction

theorem run_writerStep_commit {steps : List WriterStep} (commits : .flushFailed ∉ steps) (shard : Shard) :
    commit (run writerStep shard steps).disk
      ((run writerStep shard steps).batch ++ (run writerStep shard steps).queue) =
      commit shard.disk (shard.batch ++ shard.queue) := by
  induction steps generalizing shard with
  | nil => rfl
  | cons step rest ih =>
    rw [List.mem_cons, not_or] at commits
    rw [run_cons, ih commits.2, writerStep_commit (Ne.symm commits.1)]

theorem exists_writer_run (shard : Shard) :
    ∃ steps, .flushFailed ∉ steps ∧ run writerStep shard steps = drainQueue shard := by
  obtain ⟨disk, batch, queue⟩ := shard
  induction queue generalizing disk batch with
  | nil => exact ⟨[.flush], by decide, by simp [writerStep, drainQueue, Journal.flush, Journal.drain]⟩
  | cons write rest ih =>
    obtain ⟨steps, commits, drained⟩ := ih (commit disk batch) [write]
    refine ⟨.flush :: .receive :: steps, by simpa using commits, ?_⟩
    have taken : writerStep (writerStep ⟨disk, batch, write :: rest⟩ .flush) .receive =
        ⟨commit disk batch, [write], rest⟩ := by
      simp [writerStep, Journal.flush, Journal.receive, shardBatchMax]
    rw [run_cons, run_cons, taken, drained]
    simp only [drainQueue, Journal.drain, ← commit_append, List.singleton_append]

/-- The writer can reach the state that `drainQueue` leaves by receiving and committing, and every
way in which it empties batch and queue without a failed commit ends there. -/
theorem drainQueue_is_writer_run (shard : Shard) :
    (∃ steps, .flushFailed ∉ steps ∧ run writerStep shard steps = drainQueue shard) ∧
    ∀ steps, .flushFailed ∉ steps → (run writerStep shard steps).batch = [] → (run writerStep shard steps).queue = [] →
      run writerStep shard steps = drainQueue shard := by
  refine ⟨exists_writer_run shard, fun steps commits noBatch noQueue => ?_⟩
  have kept := run_writerStep_commit commits shard
  rw [noBatch, noQueue] at kept
  have disk : (run writerStep shard steps).disk = commit shard.disk (shard.batch ++ shard.queue) := kept
  unfold drainQueue Journal.drain
  rw [← disk]
  cases final : run writerStep shard steps with
  | mk onDisk batch queue =>
    rw [final] at noBatch noQueue
    cases noBatch
    cases noQueue
    rfl

end Shard

end Tierd.Meta
