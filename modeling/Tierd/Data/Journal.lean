import Mathlib

namespace Tierd.Data

section Writes

variable {κ ν : Type} [DecidableEq κ]

/-- The value of the last write to `key` in a list of writes. -/
def lastWrite (key : κ) (writes : List (κ × ν)) : Option ν :=
  writes.reverse.lookup key

theorem lastWrite_append (key : κ) (first second : List (κ × ν)) :
    lastWrite key (first ++ second) = (lastWrite key second).or (lastWrite key first) := by
  simp only [lastWrite, List.reverse_append, List.lookup_append]

theorem lastWrite_singleton (key : κ) (write : κ × ν) :
    lastWrite key [write] = if write.1 = key then some write.2 else none := by
  obtain ⟨other, value⟩ := write
  by_cases same : other = key
  · simp [lastWrite, same]
  · have different : (key == other) = false := by simpa using Ne.symm same
    simp [lastWrite, List.lookup, same, different]

theorem lastWrite_cons (key : κ) (write : κ × ν) (rest : List (κ × ν)) :
    lastWrite key (write :: rest) =
      (lastWrite key rest).or (if write.1 = key then some write.2 else none) := by
  rw [← List.singleton_append, lastWrite_append, lastWrite_singleton]

end Writes

set_option linter.unusedSectionVars false

variable {κ ν : Type} [Ord κ] [Std.TransOrd κ] [Std.LawfulEqOrd κ] [DecidableEq κ]

/-- Commit a batch of writes, in order. -/
def commit (disk : Std.ExtTreeMap κ ν) (writes : List (κ × ν)) : Std.ExtTreeMap κ ν :=
  writes.foldl (fun disk write => disk.insert write.1 write.2) disk

theorem commit_append (disk : Std.ExtTreeMap κ ν) (first second : List (κ × ν)) :
    commit disk (first ++ second) = commit (commit disk first) second :=
  List.foldl_append

theorem commit_getElem? (disk : Std.ExtTreeMap κ ν) (writes : List (κ × ν)) (key : κ) :
    (commit disk writes)[key]? = (lastWrite key writes).or disk[key]? := by
  induction writes generalizing disk with
  | nil => rfl
  | cons write rest ih =>
    have step : commit disk (write :: rest) = commit (disk.insert write.1 write.2) rest := rfl
    rw [step, ih, lastWrite_cons, Std.ExtTreeMap.getElem?_insert, Option.or_assoc]
    by_cases same : write.1 = key
    · simp [same]
    · simp [same]

/-- An ordered map on disk with a queue of accepted writes in front of it. -/
structure Journal (κ ν : Type) [Ord κ] where
  disk : Std.ExtTreeMap κ ν
  batch : List (κ × ν)
  queue : List (κ × ν)

namespace Journal

/-- Accept a write: it waits at the end of the queue. -/
def enqueue (journal : Journal κ ν) (key : κ) (value : ν) : Journal κ ν :=
  { journal with queue := journal.queue ++ [(key, value)] }

def receive (journal : Journal κ ν) : Journal κ ν :=
  match journal.queue with
  | [] => journal
  | write :: rest => { journal with batch := journal.batch ++ [write], queue := rest }

/-- The writer commits its batch. -/
def flush (journal : Journal κ ν) : Journal κ ν :=
  { journal with disk := commit journal.disk journal.batch, batch := [] }

/-- The commit of a batch failed and the batch is lost. -/
def dropBatch (journal : Journal κ ν) : Journal κ ν :=
  { journal with batch := [] }

/-- Delete directly on disk, past the queue. -/
def deleteNow (journal : Journal κ ν) (key : κ) : Journal κ ν :=
  { journal with disk := journal.disk.erase key }

/-- Write directly to disk, past the queue. -/
def putNow (journal : Journal κ ν) (key : κ) (value : ν) : Journal κ ν :=
  { journal with disk := journal.disk.insert key value }

/-- Commit everything accepted so far. -/
def drain (journal : Journal κ ν) : Journal κ ν where
  disk := commit journal.disk (journal.batch ++ journal.queue)
  batch := []
  queue := []

def waiting (journal : Journal κ ν) : List (κ × ν) := journal.batch ++ journal.queue

/-- A write to `key` is still waiting. -/
def pending (journal : Journal κ ν) (key : κ) : Bool :=
  (lastWrite key journal.waiting).isSome

/-- What the disk holds for `key` once everything accepted is committed. -/
def settled (journal : Journal κ ν) (key : κ) : Option ν :=
  (lastWrite key journal.waiting).or journal.disk[key]?

variable {journal : Journal κ ν} {key other : κ} {value : ν}

theorem drain_disk : journal.drain.disk[key]? = journal.settled key :=
  commit_getElem? _ _ _

@[simp] theorem drain_pending : journal.drain.pending key = false := rfl

@[simp] theorem drain_settled : journal.drain.settled key = journal.settled key :=
  drain_disk

theorem settled_of_not_pending (idle : journal.pending key = false) :
    journal.settled key = journal.disk[key]? := by
  simp only [pending, Option.isSome_eq_false_iff, Option.isNone_iff_eq_none] at idle
  simp only [settled, idle, Option.none_or]

theorem waiting_enqueue : (journal.enqueue key value).waiting = journal.waiting ++ [(key, value)] := by
  simp only [waiting, enqueue, List.append_assoc]

theorem settled_enqueue :
    (journal.enqueue key value).settled other =
      if key = other then some value else journal.settled other := by
  simp only [settled, waiting_enqueue, lastWrite_append, lastWrite_singleton]
  by_cases same : key = other
  · simp [same]
  · simp only [same, ↓reduceIte, Option.none_or]
    rfl

theorem pending_enqueue :
    (journal.enqueue key value).pending other = (decide (key = other) || journal.pending other) := by
  simp only [pending, waiting_enqueue, lastWrite_append, lastWrite_singleton]
  by_cases same : key = other <;> simp [same]

@[simp] theorem waiting_receive : journal.receive.waiting = journal.waiting := by
  cases queued : journal.queue <;> simp [receive, waiting, queued]

@[simp] theorem disk_receive : journal.receive.disk = journal.disk := by
  cases queued : journal.queue <;> simp [receive, queued]

@[simp] theorem settled_receive : journal.receive.settled key = journal.settled key := by
  simp only [settled, waiting_receive, disk_receive]

@[simp] theorem pending_receive : journal.receive.pending key = journal.pending key := by
  simp only [pending, waiting_receive]

@[simp] theorem settled_flush : journal.flush.settled key = journal.settled key := by
  simp only [settled, flush, waiting, commit_getElem?, List.nil_append, lastWrite_append,
    Option.or_assoc]

theorem pending_of_pending_flush (busy : journal.flush.pending key = true) :
    journal.pending key = true := by
  obtain ⟨last, found⟩ := Option.isSome_iff_exists.mp busy
  have queued : lastWrite key journal.queue = some last := found
  simp [pending, waiting, lastWrite_append, queued]

theorem settled_deleteNow_other (different : key ≠ other) :
    (journal.deleteNow key).settled other = journal.settled other := by
  simp [settled, deleteNow, waiting, Std.ExtTreeMap.getElem?_erase, different]

@[simp] theorem pending_deleteNow : (journal.deleteNow key).pending other = journal.pending other := rfl

@[simp] theorem pending_putNow : (journal.putNow key value).pending other = journal.pending other := rfl

theorem settled_deleteNow_iff :
    (journal.deleteNow key).settled key = none ↔ journal.pending key = false := by
  simp [settled, deleteNow, pending, waiting]

theorem settled_putNow_other (different : key ≠ other) :
    (journal.putNow key value).settled other = journal.settled other := by
  simp [settled, putNow, waiting, Std.ExtTreeMap.getElem?_insert, different]

theorem settled_putNow (idle : journal.pending key = false) :
    (journal.putNow key value).settled key = some value := by
  rw [settled_of_not_pending (by simpa using idle)]
  simp [putNow]

end Journal

end Tierd.Data
