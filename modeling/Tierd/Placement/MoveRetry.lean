import Tierd.Placement.MoveSafety

namespace Tierd.Placement

open Tierd.Data Tierd.Meta FileSystem List

variable {job : MoveJob} {content other : Bytes} {state : MoveState} {answer : Answer}

theorem readFull_of_works (works : answer.fails = false) (bytes : Bytes) (offset : Nat) :
    readFull bytes offset answer =
      ((bytes.drop offset).take compareChunkSize,
        if ((bytes.drop offset).take compareChunkSize).length < compareChunkSize then .eof else .full) := by
  simp [readFull, works]

theorem readFull_works_of_ending {bytes : Bytes} {offset : Nat}
    (ended : (readFull bytes offset answer).2 ≠ .failed) : answer.fails = false := by
  by_contra failing
  simp [readFull, Bool.eq_true_of_not_eq_false failing] at ended

theorem readFull_ending_of_works (works : answer.fails = false) (bytes : Bytes) (offset : Nat) :
    (readFull bytes offset answer).2 ≠ .failed := by
  rw [readFull_of_works works]
  simp only
  split <;> decide

theorem readFull_eof {bytes : Bytes} {offset : Nat} (ended : (readFull bytes offset answer).2 = .eof) :
    (readFull bytes offset answer).1 = bytes.drop offset := by
  have works := readFull_works_of_ending (by rw [ended]; decide)
  rw [readFull_of_works works] at ended ⊢
  simp only [ite_eq_left_iff, reduceCtorEq, imp_false, not_not, length_take] at ended
  exact take_of_length_le (by omega)

theorem readFull_full {bytes : Bytes} {offset : Nat} (filled : (readFull bytes offset answer).2 = .full) :
    (readFull bytes offset answer).1 = (bytes.drop offset).take compareChunkSize ∧
      offset + compareChunkSize ≤ bytes.length := by
  have works := readFull_works_of_ending (by rw [filled]; decide)
  rw [readFull_of_works works] at filled ⊢
  simp only [ite_eq_right_iff, reduceCtorEq, imp_false, not_lt, length_take, length_drop] at filled
  have positive : 0 < compareChunkSize := by decide
  exact ⟨rfl, by omega⟩

theorem compareReads_same {a b : Bytes × ReadEnd} (same : compareReads a b = .same) :
    a.1 = b.1 ∧ a.2 = .eof ∧ b.2 = .eof := by
  unfold compareReads at same
  split_ifs at same with different ended equal
  refine ⟨not_not.mp different, ?_⟩
  rcases ended with first | second
  · exact ⟨first, equal ▸ first⟩
  · exact ⟨equal ▸ second, second⟩

theorem compareReads_more {a b : Bytes × ReadEnd} (more : compareReads a b = .more) :
    a.1 = b.1 ∧ a.2 = .full ∧ b.2 = .full := by
  unfold compareReads at more
  split_ifs at more with different ended equal failed
  rw [not_or] at ended failed
  refine ⟨not_not.mp different, ?_, ?_⟩
  · cases ending : a.2 <;> simp_all
  · cases ending : b.2 <;> simp_all

theorem compareReads_equal {first second : Answer} (bytes : Bytes) (offset : Nat)
    (firstWorks : first.fails = false) (secondWorks : second.fails = false) :
    compareReads (readFull bytes offset first) (readFull bytes offset second) = .same ∨
      compareReads (readFull bytes offset first) (readFull bytes offset second) = .more := by
  rw [readFull_of_works firstWorks, readFull_of_works secondWorks]
  unfold compareReads
  split_ifs <;> simp_all

def callFails (job : MoveJob) (state : MoveState) (answer : Answer) : Bool :=
  answer.fails ||
    match state.pc with
    | .mkdirParent => (state.dst.mkdirAll (parents job.rel)).isNone
    | .createTmp _ _ => (state.dst.create (tmpPath job.rel) answer.ino answer.now).isNone
    | .linkDest _ => (state.dst.link (tmpPath job.rel) job.rel).isNone
    | .unlinkTmp _ => (state.dst.lookup (tmpPath job.rel)).isNone
    | _ => false

/-- Where a run without failures can be. -/
def OnCourse (job : MoveJob) (state : MoveState) : Prop :=
  match state.pc with
  | .dropTmp _ | .rollback => False
  | .readStalledDest _ _ _ _ _ ending => ending ≠ .failed
  | .done _ => NoSource job state
  | _ => True

theorem works_of_callFails (works : callFails job state answer = false) : answer.fails = false := by
  simp only [callFails, Bool.or_eq_false_iff] at works
  exact works.1

theorem exists_of_not_fails {α : Type} {fails : Bool} {result : Option α}
    (works : (fails || result.isNone) = false) : ∃ value, result = some value := by
  rw [Bool.or_eq_false_iff, Option.isNone_eq_false_iff] at works
  exact Option.isSome_iff_exists.mp works.2

theorem Safe.lookup_dest (safe : Safe job content state) :
    NoDest job state ∨ ∃ ino, state.dst.lookup job.rel = some (.file ino) := by
  rcases safe with ⟨_, absent | dest⟩ | ⟨_, dest⟩
  · exact .inl absent
  all_goals
    obtain ⟨ino, named, _⟩ := contentAt_eq_some.mp dest
    exact .inr ⟨ino, named⟩

theorem Safe.lookup_source (safe : Safe job content state) :
    NoSource job state ∨ ∃ ino, state.src.lookup job.rel = some (.file ino) ∧
      (state.src.files ino).content = content := by
  rcases safe with ⟨source, _⟩ | ⟨absent, _⟩
  · exact .inr (contentAt_eq_some.mp source)
  · exact .inl absent

theorem readStalledDest_onCourse {src dst : FileSystem} {store : PoolMetaStore} {source : SourceStat}
    {srcFile dstFile : UInt64} {offset : Nat} {bytes : Bytes} {ending : ReadEnd} (going : ending ≠ .failed)
    (underway : Underway job content ⟨src, dst, store, .readStalledDest source srcFile dstFile offset bytes ending⟩)
    (answered : answer.fails = false) :
    OnCourse job
      (moveStep job ⟨src, dst, store, .readStalledDest source srcFile dstFile offset bytes ending⟩ answer) := by
  obtain ⟨_, ⟨_, opened⟩, earlier, read⟩ := underway
  have earlierWorks : earlier.fails = false := readFull_works_of_ending (by rw [read]; exact going)
  have outcome := compareReads_equal content offset earlierWorks answered
  rw [read] at outcome
  simp only at opened
  rcases outcome with same | more
  · simp [moveStep, readStalledDest, opened, same, MoveState.goto, OnCourse]
  · simp [moveStep, readStalledDest, opened, more, MoveState.goto, OnCourse]

theorem OnCourse.step (course : OnCourse job state) (underway : Underway job content state)
    (works : callFails job state answer = false) : OnCourse job (moveStep job state answer) := by
  have answered := works_of_callFails works
  obtain ⟨src, dst, store, pc⟩ := state
  cases pc with
  | mountSource | mountDest | closeTmp => simp [moveStep, answered, MoveState.goto, OnCourse]
  | mkdirParent =>
    obtain ⟨made, created⟩ := exists_of_not_fails works
    simp [moveStep, created, answered, OnCourse]
  | lstatDest =>
    rcases Safe.lookup_dest underway with absent | ⟨ino, named⟩
    · simp only [NoDest] at absent
      simp [moveStep, lstatDest, answered, absent, MoveState.goto, OnCourse]
    · simp only at named
      simp [moveStep, lstatDest, answered, named, MoveState.goto, OnCourse]
  | statStalled dstSize =>
    obtain ⟨safe, _, size⟩ := underway
    rcases safe.lookup_source with absent | ⟨ino, named, held⟩
    · have gone : src.lookup job.rel = none := absent
      simp [moveStep, statStalled, answered, gone, MoveState.goto, MoveState.fail, OnCourse, NoSource]
    · simp only at named held
      simp [moveStep, statStalled, answered, named, held, size, MoveState.goto, OnCourse]
  | openStalled source =>
    obtain ⟨srcFile, srcNamed, _⟩ := contentAt_eq_some.mp underway.1
    obtain ⟨dstFile, dstNamed, _⟩ := contentAt_eq_some.mp underway.2
    simp only at srcNamed dstNamed
    simp [moveStep, openStalled, answered, srcNamed, dstNamed, MoveState.goto, OnCourse]
  | readStalledSource source srcFile dstFile offset => exact readFull_ending_of_works answered _ _
  | readStalledDest => exact readStalledDest_onCourse course underway answered
  | unlinkStalled | unlinkSource =>
    simp only [moveStep, answered, Bool.false_eq_true, if_false, handoff]
    split
    · trivial
    · exact lookup_unlink_self
  | statSource =>
    obtain ⟨ino, named, _⟩ := contentAt_eq_some.mp underway.1
    simp only at named
    simp [moveStep, statSource, answered, named, MoveState.goto, OnCourse]
  | openSource =>
    obtain ⟨ino, named, _⟩ := contentAt_eq_some.mp underway.1
    simp only at named
    simp [moveStep, openSource, answered, named, MoveState.goto, OnCourse]
  | createTmp =>
    obtain ⟨made, created⟩ := exists_of_not_fails works
    simp [moveStep, createTmp, created, answered, OnCourse]
  | copyChunk =>
    simp only [moveStep, copyChunk, answered, Bool.false_eq_true, if_false]
    split <;> trivial
  | chtimes =>
    simp only [moveStep, chtimes]
    split <;> trivial
  | linkDest =>
    obtain ⟨made, linked⟩ := exists_of_not_fails works
    simp [moveStep, linkDest, linked, answered, OnCourse]
  | unlinkTmp =>
    obtain ⟨node, named⟩ := exists_of_not_fails works
    simp [moveStep, unlinkTmp, named, answered, OnCourse]
  | statDest =>
    simp only [moveStep, statDest]
    split <;> trivial
  | putRecord =>
    simp only [moveStep]
    split <;> trivial
  | deleteRecord =>
    simp only [moveStep]
    split <;> exact underway.1
  | getStalled | clearTmp | getRecord => trivial
  | rollback | dropTmp => exact course.elim
  | done => exact course

/-- The calls still to be made are bounded by this number: the two copies are
read at most once each. -/
def remainingCalls (job : MoveJob) (state : MoveState) : Nat :=
  let srcSize := ((state.src.contentAt job.rel).getD []).length
  let dstSize := ((state.dst.contentAt job.rel).getD []).length
  match state.pc with
  | .mountSource => 18 + srcSize + 2 * dstSize
  | .mountDest => 17 + srcSize + 2 * dstSize
  | .mkdirParent => 16 + srcSize + 2 * dstSize
  | .lstatDest => 15 + srcSize + 2 * dstSize
  | .statStalled _ => 9 + 2 * dstSize
  | .openStalled _ => 8 + 2 * dstSize
  | .readStalledSource _ _ dstFile offset => 7 + 2 * ((state.dst.files dstFile).content.length - offset)
  | .readStalledDest _ _ dstFile offset _ _ => 6 + 2 * ((state.dst.files dstFile).content.length - offset)
  | .statSource => 14 + srcSize
  | .clearTmp _ => 13 + srcSize
  | .getRecord _ => 12 + srcSize
  | .openSource _ => 11 + srcSize
  | .createTmp _ srcFile => 10 + (state.src.files srcFile).content.length
  | .copyChunk _ srcFile _ offset => 9 + ((state.src.files srcFile).content.length - offset)
  | .closeTmp _ => 8
  | .chtimes _ => 7
  | .linkDest _ => 6
  | .getStalled _ | .unlinkTmp _ => 5
  | .unlinkStalled _ | .unlinkSource _ => 4
  | .statDest _ => 3
  | .putRecord _ _ => 2
  | .deleteRecord _ | .dropTmp _ | .rollback => 1
  | .done _ => 0

def Finished (state : MoveState) : Prop := ∃ result, state.pc = .done result

theorem Finished.step (finished : Finished state) : Finished (moveStep job state answer) := by
  obtain ⟨result, stopped⟩ := finished
  exact ⟨result, by simp only [moveStep, stopped]⟩

section Remaining

variable {src dst : FileSystem} {store : PoolMetaStore} {source : SourceStat} {srcFile dstFile tmpFile : UInt64}
  {offset : Nat}

theorem remainingCalls_mkdirParent :
    remainingCalls job (moveStep job ⟨src, dst, store, .mkdirParent⟩ answer) <
      remainingCalls job ⟨src, dst, store, .mkdirParent⟩ := by
  simp only [moveStep]
  split
  · rename_i made _
    obtain ⟨sameFiles, sameNames⟩ := mkdirAll_frame made
    have sameContent := contentAt_congr (sameNames _ (rel_not_mem_parents job.rel))
      fun _ _ => by rw [sameFiles]
    simp [remainingCalls, sameContent]
  · simp [remainingCalls, MoveState.goto, MoveState.fail]

theorem remainingCalls_lstatDest :
    remainingCalls job (lstatDest job ⟨src, dst, store, .lstatDest⟩ answer) <
      remainingCalls job ⟨src, dst, store, .lstatDest⟩ := by
  unfold lstatDest
  repeat' split
  all_goals simp [remainingCalls, MoveState.goto, MoveState.fail]
  all_goals omega

/-- The first half of the comparison: what is left to read is the file behind the name. -/
theorem remainingCalls_openStalled :
    remainingCalls job (openStalled job ⟨src, dst, store, .openStalled source⟩ answer source) <
      remainingCalls job ⟨src, dst, store, .openStalled source⟩ := by
  unfold openStalled
  repeat' split
  all_goals simp_all [remainingCalls, MoveState.goto, MoveState.fail, contentAt]

theorem remainingCalls_readStalledDest {bytes : Bytes} {ending : ReadEnd} :
    remainingCalls job (readStalledDest ⟨src, dst, store, .readStalledDest source srcFile dstFile offset bytes ending⟩
        answer source srcFile dstFile offset bytes ending) <
      remainingCalls job ⟨src, dst, store, .readStalledDest source srcFile dstFile offset bytes ending⟩ := by
  simp only [readStalledDest]
  split
  · simp [remainingCalls, MoveState.goto, MoveState.fail]
  · simp only [remainingCalls, MoveState.goto]
    omega
  · simp [remainingCalls, MoveState.goto, MoveState.fail]
  · rename_i more
    have within := (readFull_full (compareReads_more more).2.2).2
    have positive : 0 < compareChunkSize := by decide
    simp only [remainingCalls, MoveState.goto]
    omega

theorem remainingCalls_openSource :
    remainingCalls job (openSource job ⟨src, dst, store, .openSource source⟩ answer source) <
      remainingCalls job ⟨src, dst, store, .openSource source⟩ := by
  unfold openSource
  repeat' split
  all_goals simp_all [remainingCalls, MoveState.goto, contentAt]
  all_goals omega

theorem remainingCalls_createTmp :
    remainingCalls job (createTmp job ⟨src, dst, store, .createTmp source srcFile⟩ answer source srcFile) <
      remainingCalls job ⟨src, dst, store, .createTmp source srcFile⟩ := by
  unfold createTmp
  repeat' split
  all_goals simp [remainingCalls, MoveState.goto]
  all_goals omega

theorem remainingCalls_copyChunk :
    remainingCalls job
        (copyChunk ⟨src, dst, store, .copyChunk source srcFile tmpFile offset⟩ answer source srcFile tmpFile offset) <
      remainingCalls job ⟨src, dst, store, .copyChunk source srcFile tmpFile offset⟩ := by
  simp only [copyChunk]
  split
  · simp only [remainingCalls, MoveState.goto]
    omega
  · split
    · simp only [remainingCalls, MoveState.goto]
      omega
    · rename_i unread
      rw [take_eq_nil_iff, drop_eq_nil_iff, not_or] at unread
      simp only [remainingCalls, length_take, length_drop]
      omega

end Remaining

theorem remainingCalls_step (unfinished : ¬ Finished state) :
    remainingCalls job (moveStep job state answer) < remainingCalls job state := by
  obtain ⟨src, dst, store, pc⟩ := state
  cases pc with
  | mkdirParent => exact remainingCalls_mkdirParent
  | lstatDest => exact remainingCalls_lstatDest
  | openStalled => exact remainingCalls_openStalled
  | readStalledDest => exact remainingCalls_readStalledDest
  | openSource => exact remainingCalls_openSource
  | createTmp => exact remainingCalls_createTmp
  | copyChunk => exact remainingCalls_copyChunk
  | getStalled | clearTmp | getRecord | rollback | dropTmp | readStalledSource =>
    simp [moveStep, remainingCalls, MoveState.goto]
  | mountSource | mountDest | closeTmp | statStalled | unlinkStalled | unlinkSource | statSource | chtimes | linkDest |
    unlinkTmp | statDest | putRecord | deleteRecord =>
      simp only [moveStep, statStalled, handoff, statSource, chtimes, linkDest, unlinkTmp, statDest]
      repeat' split
      all_goals simp [remainingCalls, MoveState.goto, MoveState.fail]
  | done result => exact absurd ⟨result, rfl⟩ unfinished

variable {answers : List Answer}

theorem run_finishes (enough : remainingCalls job state < answers.length) :
    Finished (run (moveStep job) state answers) :=
  run_terminates (remainingCalls job) (fun _ _ finished => finished.step)
    (fun _ _ unfinished => remainingCalls_step unfinished) enough

def Conflicting (job : MoveJob) (content other : Bytes) (state : MoveState) : Prop :=
  (HoldsSource job content state ∧ HoldsDest job other state) ∧
    match state.pc with
    | .mountSource | .mountDest | .mkdirParent | .lstatDest | .statStalled _ | .openStalled _ => True
    | .readStalledSource _ srcFile dstFile offset =>
      ((state.src.files srcFile).content = content ∧ (state.dst.files dstFile).content = other) ∧
        content.take offset = other.take offset
    | .readStalledDest _ srcFile dstFile offset bytes ending =>
      ((state.src.files srcFile).content = content ∧ (state.dst.files dstFile).content = other) ∧
        content.take offset = other.take offset ∧
        ∃ answer, readFull content offset answer = (bytes, ending)
    | .done (.error _) => True
    | _ => False

theorem eq_of_compared {first second : Answer} {offset : Nat}
    (soFar : content.take offset = other.take offset)
    (same : compareReads (readFull content offset first) (readFull other offset second) = .same) :
    content = other := by
  obtain ⟨equal, firstEnd, secondEnd⟩ := compareReads_same same
  rw [readFull_eof firstEnd, readFull_eof secondEnd] at equal
  rw [← take_append_drop offset content, soFar, equal, take_append_drop]

theorem take_eq_of_compared {first second : Answer} {offset : Nat}
    (soFar : content.take offset = other.take offset)
    (more : compareReads (readFull content offset first) (readFull other offset second) = .more) :
    content.take (offset + compareChunkSize) = other.take (offset + compareChunkSize) := by
  obtain ⟨equal, firstFull, secondFull⟩ := compareReads_more more
  rw [(readFull_full firstFull).1, (readFull_full secondFull).1] at equal
  rw [take_add, take_add, soFar, equal]

theorem Conflicting.readStalledDest {source : SourceStat} {srcFile dstFile : UInt64} {offset : Nat}
    {bytes : Bytes} {ending : ReadEnd} (different : content ≠ other)
    (held : HoldsSource job content state ∧ HoldsDest job other state)
    (opened : (state.src.files srcFile).content = content ∧ (state.dst.files dstFile).content = other)
    (soFar : content.take offset = other.take offset)
    (read : ∃ answer, readFull content offset answer = (bytes, ending)) :
    Conflicting job content other
      (readStalledDest state answer source srcFile dstFile offset bytes ending) := by
  obtain ⟨earlier, earlierRead⟩ := read
  unfold Placement.readStalledDest
  rw [opened.2, ← earlierRead]
  split
  · exact ⟨held, trivial⟩
  · rename_i same
    exact absurd (eq_of_compared soFar same) different
  · exact ⟨held, trivial⟩
  · rename_i more
    exact ⟨held, opened, take_eq_of_compared soFar more⟩

theorem Conflicting.step (different : content ≠ other) (conflict : Conflicting job content other state)
    (answer : Answer) : Conflicting job content other (moveStep job state answer) := by
  obtain ⟨src, dst, store, pc⟩ := state
  obtain ⟨held, stage⟩ := conflict
  cases pc with
  | mountSource | mountDest =>
    simp only [moveStep]
    split <;> exact ⟨held, trivial⟩
  | mkdirParent =>
    simp only [moveStep]
    split
    · rename_i made _
      obtain ⟨sameFiles, sameNames⟩ := mkdirAll_frame made
      have sameContent := contentAt_congr (sameNames _ (rel_not_mem_parents job.rel))
        fun _ _ => by rw [sameFiles]
      exact ⟨⟨held.1, sameContent.trans held.2⟩, trivial⟩
    · exact ⟨held, trivial⟩
  | lstatDest =>
    obtain ⟨ino, named, _⟩ := contentAt_eq_some.mp held.2
    simp only at named
    simp only [moveStep, lstatDest, named]
    split <;> exact ⟨held, trivial⟩
  | statStalled =>
    simp only [moveStep, statStalled]
    repeat' split
    all_goals exact ⟨held, trivial⟩
  | openStalled =>
    simp only [moveStep, openStalled]
    split
    · exact ⟨held, trivial⟩
    · split
      · rename_i srcNamed dstNamed
        exact ⟨held, ⟨content_of_contentAt held.1 srcNamed, content_of_contentAt held.2 dstNamed⟩, rfl⟩
      · exact ⟨held, trivial⟩
  | readStalledSource =>
    obtain ⟨opened, soFar⟩ := stage
    exact ⟨held, opened, soFar, answer, by rw [← opened.1]⟩
  | readStalledDest =>
    exact Conflicting.readStalledDest different held stage.1 stage.2.1 stage.2.2
  | done => exact ⟨held, stage⟩
  | _ => exact stage.elim

theorem Conflicting.attempt (different : content ≠ other) (conflict : Conflicting job content other state)
    (event : AttemptEvent) : Conflicting job content other (attemptStep job state event) := by
  cases event with
  | call answer => exact conflict.step different answer
  | retry store => exact ⟨conflict.1, trivial⟩

theorem Conflicting.result (conflict : Conflicting job content other state)
    {result : Except MoveFailure Unit} (stopped : state.pc = .done result) :
    ∃ failure, result = .error failure := by
  have stage := conflict.2
  rw [stopped] at stage
  cases result with
  | ok => exact stage.elim
  | error failure => exact ⟨failure, rfl⟩

/-- No call of the run fails. -/
def NoCallFails (job : MoveJob) (state : MoveState) (answers : List Answer) : Prop :=
  Guarded (moveStep job) (fun state answer => callFails job state answer = false) state answers
deriving Decidable

theorem run_onCourse (underway : Underway job content state)
    (course : OnCourse job state) (works : NoCallFails job state answers) :
    Underway job content (run (moveStep job) state answers) ∧
      OnCourse job (run (moveStep job) state answers) := by
  have preserved : ∀ before answer, Underway job content before ∧ OnCourse job before →
      callFails job before answer = false →
      Underway job content (moveStep job before answer) ∧ OnCourse job (moveStep job before answer) :=
    fun _ answer invariant works => ⟨invariant.1.step answer, invariant.2.step invariant.1 works⟩
  exact guarded_run_invariant preserved works ⟨underway, course⟩

/-- An attempt that finds the destination name taken does not touch the temporary name. -/
def Reconciling (job : MoveJob) (kept : Option Bytes) (state : MoveState) : Prop :=
  (state.dst.contentAt (tmpPath job.rel) = kept ∧ ∃ content, HoldsDest job content state) ∧
    match state.pc with
    | .statSource | .clearTmp _ | .getRecord _ | .openSource _ | .createTmp _ _ | .copyChunk .. | .closeTmp _
    | .chtimes _ | .linkDest _ | .unlinkTmp _ | .unlinkSource _ | .rollback | .dropTmp _ => False
    | _ => True

theorem Reconciling.step {kept : Option Bytes} (reconciling : Reconciling job kept state) (answer : Answer) :
    Reconciling job kept (moveStep job state answer) := by
  obtain ⟨src, dst, store, pc⟩ := state
  obtain ⟨names, stage⟩ := reconciling
  cases pc with
  | mkdirParent =>
    simp only [moveStep]
    split
    · rename_i made _
      obtain ⟨sameFiles, sameNames⟩ := mkdirAll_frame made
      obtain ⟨tmp, held, dest⟩ := names
      have sameTmp := contentAt_congr (sameNames _ (tmpPath_not_mem_parents job.rel)) fun _ _ => by rw [sameFiles]
      have sameDest := contentAt_congr (sameNames _ (rel_not_mem_parents job.rel)) fun _ _ => by rw [sameFiles]
      exact ⟨⟨sameTmp.trans tmp, held, sameDest.trans dest⟩, trivial⟩
    · exact ⟨names, trivial⟩
  | lstatDest =>
    obtain ⟨held, dest⟩ := names.2
    obtain ⟨ino, named, _⟩ := contentAt_eq_some.mp dest
    simp only at named
    simp only [moveStep, lstatDest, named]
    split <;> exact ⟨names, trivial⟩
  | mountSource | mountDest | statStalled | openStalled | readStalledSource | readStalledDest | getStalled |
    unlinkStalled | statDest | putRecord | deleteRecord | done =>
      simp only [moveStep, statStalled, openStalled, readStalledDest, handoff, statDest]
      repeat' split
      all_goals exact ⟨names, trivial⟩
  | _ => exact stage.elim

/-- An attempt that finds the destination name free removes the temporary name before it goes on. -/
def Installing (job : MoveJob) (state : MoveState) : Prop :=
  match state.pc with
  | .statStalled _ | .openStalled _ | .readStalledSource .. | .readStalledDest .. | .getStalled _ | .unlinkStalled _ =>
    False
  | .unlinkTmp _ | .dropTmp _ | .rollback => True
  | .unlinkSource _ | .statDest _ | .putRecord _ _ | .deleteRecord _ => state.dst.lookup (tmpPath job.rel) = none
  | .done _ => NoDest job state ∨ state.dst.lookup (tmpPath job.rel) = none
  | _ => NoDest job state

theorem Installing.step (installing : Installing job state) (course : OnCourse job state)
    (works : callFails job state answer = false) : Installing job (moveStep job state answer) := by
  have answered := works_of_callFails works
  obtain ⟨src, dst, store, pc⟩ := state
  cases pc with
  | mkdirParent =>
    simp only [moveStep]
    split
    · rename_i made _
      exact ((mkdirAll_frame made).2 _ (rel_not_mem_parents job.rel)).trans installing
    · exact .inl installing
  | lstatDest =>
    have free : dst.lookup job.rel = none := installing
    simp only [moveStep, lstatDest, free]
    split
    · exact .inl installing
    · exact installing
  | clearTmp =>
    simp only [moveStep, removeName, answered, Bool.false_eq_true, if_false]
    exact (lookup_unlink_other (tmpPath_ne job.rel).symm).trans installing
  | createTmp =>
    obtain ⟨made, created⟩ := exists_of_not_fails works
    simp only [moveStep, createTmp, created, answered, Bool.false_eq_true, if_false]
    exact (lookup_create_other created (tmpPath_ne job.rel).symm).trans installing
  | linkDest =>
    simp only [moveStep, linkDest]
    split <;> trivial
  | unlinkTmp =>
    obtain ⟨node, named⟩ := exists_of_not_fails works
    simp only [moveStep, unlinkTmp, named, answered, Bool.false_eq_true, reduceCtorEq, or_self, if_false]
    exact lookup_unlink_self
  | unlinkSource =>
    simp only [moveStep, answered, Bool.false_eq_true, if_false, handoff]
    split
    · exact installing
    · exact .inr installing
  | deleteRecord =>
    simp only [moveStep]
    split <;> exact .inr installing
  | mountSource | mountDest | statSource =>
    simp only [moveStep, statSource]
    repeat' split
    all_goals first | exact installing | exact .inl installing
  | openSource | copyChunk | closeTmp | chtimes | getRecord | statDest | putRecord =>
    simp only [moveStep, openSource, copyChunk, chtimes, statDest]
    repeat' split
    all_goals first | exact installing | trivial
  | rollback | dropTmp => exact course.elim
  | done => exact installing
  | _ => exact installing.elim

theorem retry_finishes (safe : Safe job content state)
    (atStart : state.pc = .mountSource) (enough : remainingCalls job state < answers.length)
    (works : NoCallFails job state answers) :
    Finished (run (moveStep job) state answers) ∧ NoSource job (run (moveStep job) state answers) ∧
      HoldsDest job content (run (moveStep job) state answers) := by
  have underway : Underway job content state := by simpa only [Underway, atStart] using safe
  have course : OnCourse job state := by simp only [OnCourse, atStart]
  obtain ⟨later, onCourse⟩ := run_onCourse underway course works
  obtain ⟨result, stopped⟩ := run_finishes enough
  have gone : NoSource job (run (moveStep job) state answers) := by
    simpa only [OnCourse, stopped] using onCourse
  refine ⟨⟨result, stopped⟩, gone, ?_⟩
  rcases later.safe with ⟨source, _⟩ | ⟨_, dest⟩
  · exact absurd gone source.not_absent
  · exact dest

theorem run_installing (underway : Underway job content state) (course : OnCourse job state)
    (installing : Installing job state) (works : NoCallFails job state answers) :
    Installing job (run (moveStep job) state answers) := by
  have preserved : ∀ before answer, (Underway job content before ∧ OnCourse job before) ∧ Installing job before →
      callFails job before answer = false →
      (Underway job content (moveStep job before answer) ∧ OnCourse job (moveStep job before answer)) ∧
        Installing job (moveStep job before answer) := by
    rintro before answer ⟨held, stage⟩ works
    exact ⟨⟨held.1.step answer, held.2.step held.1 works⟩, stage.step held.2 works⟩
  exact (guarded_run_invariant preserved works ⟨⟨underway, course⟩, installing⟩).2

/-- What an attempt without failing calls leaves under the temporary name. -/
theorem retry_tmp (safe : Safe job content state) (atStart : state.pc = .mountSource)
    (enough : remainingCalls job state < answers.length) (works : NoCallFails job state answers) :
    (run (moveStep job) state answers).dst.contentAt (tmpPath job.rel) =
      if state.dst.lookup job.rel = none then none else state.dst.contentAt (tmpPath job.rel) := by
  split
  case isTrue free =>
    have underway : Underway job content state := by simpa only [Underway, atStart] using safe
    have course : OnCourse job state := by simp only [OnCourse, atStart]
    have installing : Installing job state := by
      simp only [Installing, atStart]
      exact free
    obtain ⟨⟨result, stopped⟩, _, dest⟩ := retry_finishes safe atStart enough works
    have stage := run_installing underway course installing works
    simp only [Installing, stopped] at stage
    exact contentAt_of_absent (stage.resolve_left dest.not_absent)
  case isFalse taken =>
    have reconciling : Reconciling job (state.dst.contentAt (tmpPath job.rel)) state :=
      ⟨⟨rfl, content, safe.dest_of_present taken⟩, by simp only [atStart]⟩
    exact (run_invariant (fun _ answer before => before.step answer) answers reconciling).1.1

/-- Cut off, failed or retried any number of times, a move keeps the file readable in full on one of
the two tiers and never shows a partial copy under its name, and an attempt in which no call fails
leaves it on the destination tier. It is the only copy exactly when that attempt does not find both
the destination name and a copy under the temporary one. When the destination holds another file,
both stay as they are and the move fails. -/
theorem move_survives_failures (job : MoveJob) (content : Bytes) (src dst : FileSystem)
    (store : PoolMetaStore) (source : src.contentAt job.rel = some content)
    (events : List AttemptEvent) :
    let left := run (attemptStep job) ⟨src, dst, store, .mountSource⟩ events
    (dst.lookup job.rel = none ∨ dst.contentAt job.rel = some content →
      (left.src.contentAt job.rel = some content ∨ left.dst.contentAt job.rel = some content) ∧
      (left.dst.lookup job.rel = none ∨ left.dst.contentAt job.rel = some content) ∧
      ∀ (later : PoolMetaStore) (answers : List Answer),
        let again := attemptStep job left (.retry later)
        let final := run (moveStep job) again answers
        remainingCalls job again < answers.length → NoCallFails job again answers →
          (Finished final ∧ final.src.lookup job.rel = none ∧ final.dst.contentAt job.rel = some content) ∧
          (final.dst.contentAt (tmpPath job.rel) ≠ some content ↔
            ¬ (left.dst.lookup job.rel ≠ none ∧ left.dst.contentAt (tmpPath job.rel) = some content))) ∧
    ∀ other, other ≠ content → dst.contentAt job.rel = some other →
      left.src.contentAt job.rel = some content ∧ left.dst.contentAt job.rel = some other ∧
      (∀ result, left.pc = .done result → ∃ failure, result = .error failure) ∧
      ∀ answers : List Answer, remainingCalls job left < answers.length →
        ∃ failure, (run (moveStep job) left answers).pc = .done (.error failure) := by
  intro left
  constructor
  · intro dest
    have initially : Underway job content ⟨src, dst, store, .mountSource⟩ := .inl ⟨source, dest⟩
    have underway : Underway job content left := run_attempts_underway initially events
    refine ⟨?_, ?_, ?_⟩
    · rcases underway.safe with ⟨held, _⟩ | ⟨_, held⟩
      · exact .inl held
      · exact .inr held
    · rcases underway.safe with ⟨_, held⟩ | ⟨_, held⟩
      · exact held
      · exact .inr held
    · intro later answers again final enough works
      have safe : Safe job content again := (underway.attempt (.retry later)).safe
      refine ⟨retry_finishes safe rfl enough works, ?_⟩
      rw [retry_tmp safe rfl enough works]
      by_cases free : left.dst.lookup job.rel = none
      · simp [again, attemptStep, free]
      · simp [again, attemptStep, free]
  · intro other different dest
    have conflict : Conflicting job content other left :=
      run_invariant (fun _ event before => before.attempt different.symm event) events
        ⟨⟨source, dest⟩, trivial⟩
    refine ⟨conflict.1.1, conflict.1.2, fun result stopped => conflict.result stopped, ?_⟩
    intro answers enough
    obtain ⟨result, stopped⟩ := run_finishes enough
    have later : Conflicting job content other (run (moveStep job) left answers) :=
      run_invariant (fun _ answer before => before.step different.symm answer) answers conflict
    obtain ⟨failure, rfl⟩ := later.result stopped
    exact ⟨failure, stopped⟩

/-- Cut off before the copy is linked, the move is finished by a second attempt; where another file
stands in the way it fails. -/
theorem interrupted_promotion_recovers :
    let left := run (attemptStep promotion) ⟨oneFile [1, 2, 3], emptyTier, .opened, .mountSource⟩
      (List.replicate 14 (.call workingCall))
    let final := run (moveStep promotion) (attemptStep promotion left (.retry .opened))
      (List.replicate 30 workingCall)
    (Finished final ∧ final.src.lookup ["a"] = none ∧ final.dst.contentAt ["a"] = some [1, 2, 3]) ∧
      final.dst.contentAt ["a.tierd-move"] ≠ some [1, 2, 3] ∧
      ∃ failure, (run (moveStep promotion) ⟨oneFile [1, 2, 3], oneFile [1, 2, 4], .opened, .mountSource⟩
        (List.replicate 30 workingCall)).pc = .done (.error failure) := by
  have attempt := move_survives_failures promotion [1, 2, 3] (oneFile [1, 2, 3]) emptyTier .opened
    (by decide) (List.replicate 14 (.call workingCall))
  have conflict := move_survives_failures promotion [1, 2, 3] (oneFile [1, 2, 3]) (oneFile [1, 2, 4])
    .opened (by decide) []
  obtain ⟨_, _, again⟩ := attempt.1 (.inl (by decide))
  obtain ⟨finished, alone⟩ := again .opened (List.replicate 30 workingCall) (by decide +kernel) (by decide +kernel)
  obtain ⟨_, _, _, refused⟩ := conflict.2 [1, 2, 4] (by decide) (by decide)
  exact ⟨finished, alone.mpr (by decide +kernel), refused (List.replicate 30 workingCall) (by decide +kernel)⟩

/-- Cut off between linking the copy and removing its temporary name, the move is finished by a
second attempt, and the destination tier keeps the file under both names. -/
theorem temporary_name_stays :
    let left := run (attemptStep promotion) ⟨oneFile [1, 2, 3], emptyTier, .opened, .mountSource⟩
      (List.replicate 15 (.call workingCall))
    let final := run (moveStep promotion) (attemptStep promotion left (.retry .opened))
      (List.replicate 30 workingCall)
    NoCallFails promotion (attemptStep promotion left (.retry .opened)) (List.replicate 30 workingCall) ∧
      final.pc = .done (.ok ()) ∧ final.src.lookup ["a"] = none ∧ final.dst.contentAt ["a"] = some [1, 2, 3] ∧
      final.dst.contentAt ["a.tierd-move"] = some [1, 2, 3] := by
  decide +kernel

end Tierd.Placement
