import Tierd.Placement.Move

namespace Tierd.Placement

open Tierd.Data Tierd.Meta FileSystem

variable {job : MoveJob} {content : Bytes} {state : MoveState}

theorem tmpPath_ne (rel : Path) : tmpPath rel ≠ rel := by
  intro same
  rcases List.eq_nil_or_concat rel with rfl | ⟨front, last, rfl⟩
  · simp [tmpPath] at same
  · simp [tmpPath] at same

theorem rel_not_mem_parents (rel : Path) : rel ∉ parents rel := fun listed =>
  Nat.lt_irrefl _ (length_of_mem_parents listed)

theorem tmpPath_not_mem_parents (rel : Path) : tmpPath rel ∉ parents rel := by
  intro listed
  have shorter := length_of_mem_parents listed
  simp only [tmpPath, List.length_append, List.length_dropLast, List.length_singleton] at shorter
  omega

section Names

variable (job : MoveJob) (content : Bytes) (state : MoveState)

def HoldsSource : Prop := state.src.contentAt job.rel = some content

def HoldsDest : Prop := state.dst.contentAt job.rel = some content

def NoSource : Prop := state.src.lookup job.rel = none

def NoDest : Prop := state.dst.lookup job.rel = none

/-- The source holds the file and the destination holds it as well or not at
all, or the destination alone holds it. -/
def Safe : Prop :=
  HoldsSource job content state ∧ (NoDest job state ∨ HoldsDest job content state) ∨
    NoSource job state ∧ HoldsDest job content state

/-- The temporary name holds the finished copy. -/
def HoldsTmp : Prop := state.dst.contentAt (tmpPath job.rel) = some content

/-- The files a comparison reads. -/
def OpensBoth (srcFile dstFile : UInt64) : Prop :=
  (state.src.files srcFile).content = content ∧ (state.dst.files dstFile).content = content

def Copied (srcFile tmpFile : UInt64) (offset : Nat) : Prop :=
  (state.src.files srcFile).content = content ∧
    state.dst.lookup (tmpPath job.rel) = some (.file tmpFile) ∧
    (state.dst.files tmpFile).content = content.take offset

/-- The invariant of a run that moves `content`. -/
def Underway : Prop :=
  match state.pc with
  | .mountSource | .mountDest | .mkdirParent | .lstatDest | .dropTmp _ | .done _ =>
    Safe job content state
  | .statStalled dstSize =>
    Safe job content state ∧ HoldsDest job content state ∧ dstSize = content.length
  | .openStalled _ | .getStalled _ | .unlinkStalled _ =>
    HoldsSource job content state ∧ HoldsDest job content state
  | .readStalledSource _ srcFile dstFile _ =>
    (HoldsSource job content state ∧ HoldsDest job content state) ∧
      OpensBoth content state srcFile dstFile
  | .readStalledDest _ srcFile dstFile offset bytes ending =>
    (HoldsSource job content state ∧ HoldsDest job content state) ∧
      OpensBoth content state srcFile dstFile ∧
      ∃ answer, readFull content offset answer = (bytes, ending)
  | .statSource | .clearTmp _ | .getRecord _ | .openSource _ =>
    HoldsSource job content state ∧ NoDest job state
  | .createTmp _ srcFile =>
    (HoldsSource job content state ∧ NoDest job state) ∧
      (state.src.files srcFile).content = content
  | .copyChunk _ srcFile tmpFile offset =>
    (HoldsSource job content state ∧ NoDest job state) ∧
      Copied job content state srcFile tmpFile offset
  | .closeTmp _ | .chtimes _ | .linkDest _ =>
    (HoldsSource job content state ∧ NoDest job state) ∧ HoldsTmp job content state
  | .unlinkTmp _ | .unlinkSource _ | .rollback =>
    HoldsSource job content state ∧ HoldsDest job content state
  | .statDest _ | .putRecord _ _ | .deleteRecord _ =>
    NoSource job state ∧ HoldsDest job content state

end Names

theorem safe_of_both (held : HoldsSource job content state ∧ HoldsDest job content state) :
    Safe job content state := .inl ⟨held.1, .inr held.2⟩

theorem safe_of_source (held : HoldsSource job content state ∧ NoDest job state) :
    Safe job content state := .inl ⟨held.1, .inl held.2⟩

theorem HoldsDest.not_absent (held : HoldsDest job content state) : ¬ NoDest job state := by
  intro absent
  simp [HoldsDest, contentAt_of_absent absent] at held

theorem HoldsSource.not_absent (held : HoldsSource job content state) : ¬ NoSource job state := by
  intro absent
  simp [HoldsSource, contentAt_of_absent absent] at held

theorem Safe.source_of_noDest (safe : Safe job content state) (absent : NoDest job state) :
    HoldsSource job content state := by
  rcases safe with ⟨source, _⟩ | ⟨_, dest⟩
  · exact source
  · exact absurd absent dest.not_absent

theorem Safe.dest_of_present (safe : Safe job content state) (present : ¬ NoDest job state) :
    HoldsDest job content state := by
  rcases safe with ⟨_, absent | dest⟩ | ⟨_, dest⟩
  · exact absurd absent present
  · exact dest
  · exact dest

theorem Safe.source_of_present (safe : Safe job content state) (present : ¬ NoSource job state) :
    HoldsSource job content state := by
  rcases safe with ⟨source, _⟩ | ⟨absent, _⟩
  · exact source
  · exact absurd absent present

theorem Underway.safe (underway : Underway job content state) : Safe job content state := by
  obtain ⟨src, dst, store, pc⟩ := state
  cases pc with
  | mountSource | mountDest | mkdirParent | lstatDest | dropTmp | done => exact underway
  | statStalled => exact underway.1
  | openStalled | getStalled | unlinkStalled | unlinkTmp | unlinkSource | rollback =>
    exact safe_of_both underway
  | readStalledSource | readStalledDest => exact safe_of_both underway.1
  | statSource | clearTmp | getRecord | openSource => exact safe_of_source underway
  | createTmp | copyChunk | closeTmp | chtimes | linkDest => exact safe_of_source underway.1
  | statDest | putRecord | deleteRecord => exact .inr underway

section Calls

variable {answer : Answer} {source : SourceStat} {srcFile dstFile tmpFile ino : UInt64} {offset : Nat}

theorem mkdirParent_safe {dst : FileSystem} {pc : MovePc} (safe : Safe job content state)
    (made : state.dst.mkdirAll (parents job.rel) = some dst) :
    Safe job content { state with dst, pc } := by
  obtain ⟨sameFiles, sameNames⟩ := mkdirAll_frame made
  have sameName : dst.lookup job.rel = state.dst.lookup job.rel :=
    sameNames _ (rel_not_mem_parents job.rel)
  have sameContent : dst.contentAt job.rel = state.dst.contentAt job.rel :=
    contentAt_congr sameName fun _ _ => by rw [sameFiles]
  simpa only [Safe, HoldsSource, HoldsDest, NoSource, NoDest, sameName, sameContent] using safe

theorem lstatDest_underway (safe : Safe job content state) :
    Underway job content (lstatDest job state answer) := by
  unfold lstatDest
  split
  · exact safe
  · split
    · rename_i absent
      exact ⟨safe.source_of_noDest absent, absent⟩
    · rename_i ino named
      have dest : HoldsDest job content state :=
        safe.dest_of_present fun absent => by simp [NoDest, named] at absent
      exact ⟨safe, dest, congrArg List.length (content_of_contentAt dest named)⟩
    · exact safe

theorem statStalled_underway {dstSize : Nat} (safe : Safe job content state)
    (dest : HoldsDest job content state) :
    Underway job content (statStalled job state answer dstSize) := by
  unfold statStalled
  split
  · exact safe
  · split
    · rename_i ino named
      have source : HoldsSource job content state :=
        safe.source_of_present fun absent => by simp [NoSource, named] at absent
      simp only
      split
      · exact ⟨source, dest⟩
      · exact safe
    · exact safe

theorem openStalled_underway (held : HoldsSource job content state ∧ HoldsDest job content state) :
    Underway job content (openStalled job state answer source) := by
  unfold openStalled
  split
  · exact safe_of_both held
  · split
    · rename_i srcFile dstFile srcNamed dstNamed
      exact ⟨held, content_of_contentAt held.1 srcNamed, content_of_contentAt held.2 dstNamed⟩
    · exact safe_of_both held

theorem readStalledDest_underway {bytes : Bytes} {ending : ReadEnd}
    (held : HoldsSource job content state ∧ HoldsDest job content state)
    (opened : OpensBoth content state srcFile dstFile) :
    Underway job content (readStalledDest state answer source srcFile dstFile offset bytes ending) := by
  unfold readStalledDest
  split
  · exact safe_of_both held
  · exact held
  · exact safe_of_both held
  · exact ⟨held, opened⟩

theorem statSource_underway (held : HoldsSource job content state ∧ NoDest job state) :
    Underway job content (statSource job state answer) := by
  unfold statSource
  split
  · exact safe_of_source held
  · split
    · exact held
    · exact safe_of_source held

theorem openSource_underway (held : HoldsSource job content state ∧ NoDest job state) :
    Underway job content (openSource job state answer source) := by
  unfold openSource
  split
  · exact safe_of_source held
  · split
    · rename_i srcFile named
      exact ⟨held, content_of_contentAt held.1 named⟩
    · exact safe_of_source held

theorem copied_of_create {dst : FileSystem} {pc : MovePc}
    (opened : (state.src.files srcFile).content = content)
    (created : state.dst.create (tmpPath job.rel) ino answer.now = some dst) :
    Copied job content { state with dst, pc } srcFile ino 0 := by
  refine ⟨opened, ?_, ?_⟩
  · simp [create_eq_some created, lookup_setNode]
  · simp [create_eq_some created, setFile]

theorem createTmp_underway (held : HoldsSource job content state ∧ NoDest job state)
    (opened : (state.src.files srcFile).content = content) :
    Underway job content (createTmp job state answer source srcFile) := by
  unfold createTmp
  split
  · rename_i dst created
    split
    · exact safe_of_source held
    · refine ⟨⟨held.1, ?_⟩, copied_of_create opened created⟩
      exact (lookup_create_other created (tmpPath_ne job.rel).symm).trans held.2
  · exact safe_of_source held

theorem Copied.next (copied : Copied job content state srcFile tmpFile offset) (count : Nat) (now : Int)
    (pc : MovePc) :
    let bytes := (content.drop offset).take count
    Copied job content { state with dst := state.dst.append tmpFile bytes now, pc } srcFile tmpFile
      (offset + bytes.length) := by
  obtain ⟨opened, named, soFar⟩ := copied
  refine ⟨opened, named, ?_⟩
  simp only [append, setFile, Function.update_self, soFar]
  exact take_append_chunk content offset count

theorem Copied.complete (copied : Copied job content state srcFile tmpFile offset) {count : Nat}
    (ended : (content.drop offset).take (max 1 count) = []) : HoldsTmp job content state := by
  obtain ⟨_, named, soFar⟩ := copied
  rw [List.take_eq_nil_iff, List.drop_eq_nil_iff] at ended
  have complete : content.take offset = content :=
    List.take_of_length_le (ended.resolve_left (by omega))
  exact contentAt_eq_some.mpr ⟨tmpFile, named, soFar.trans complete⟩

theorem copyChunk_underway (held : HoldsSource job content state ∧ NoDest job state)
    (copied : Copied job content state srcFile tmpFile offset) :
    Underway job content (copyChunk state answer source srcFile tmpFile offset) := by
  unfold copyChunk
  split
  · exact safe_of_source held
  · simp only [copied.1]
    split
    · rename_i ended
      exact ⟨held, copied.complete ended⟩
    · exact ⟨held, copied.next _ _ _⟩

theorem chtimes_underway (held : HoldsSource job content state ∧ NoDest job state)
    (copied : HoldsTmp job content state) :
    Underway job content (chtimes job state answer source) := by
  unfold chtimes
  split
  · exact ⟨held, contentAt_chtimes.trans copied⟩
  · exact ⟨held, copied⟩

theorem linkDest_underway (held : HoldsSource job content state ∧ NoDest job state)
    (copied : HoldsTmp job content state) :
    Underway job content (linkDest job state answer source) := by
  unfold linkDest
  split
  · rename_i linked _
    exact ⟨held.1, (contentAt_link linked).trans copied⟩
  · exact safe_of_source held

theorem unlinkTmp_underway (held : HoldsSource job content state ∧ HoldsDest job content state) :
    Underway job content (unlinkTmp job state answer source) := by
  unfold unlinkTmp
  split
  · exact safe_of_both held
  · exact ⟨held.1, (contentAt_unlink_other (tmpPath_ne job.rel).symm).trans held.2⟩

theorem handoff_underway (dest : HoldsDest job content state) :
    Underway job content (handoff job { state with src := state.src.unlink job.rel } source) := by
  unfold handoff
  split
  · exact ⟨lookup_unlink_self, dest⟩
  · exact .inr ⟨lookup_unlink_self, dest⟩

theorem rollback_underway (held : HoldsSource job content state ∧ HoldsDest job content state) :
    Safe job content { state with
      dst := removeName state.dst job.rel answer
      pc := .done (.error .unlinkSource) } := by
  unfold removeName
  split
  · exact safe_of_both held
  · exact safe_of_source ⟨held.1, lookup_unlink_self⟩

theorem removeTmp_safe {pc : MovePc} (safe : Safe job content state) :
    Safe job content { state with dst := removeName state.dst (tmpPath job.rel) answer, pc } := by
  have different := (tmpPath_ne job.rel).symm
  unfold removeName
  split
  · exact safe
  · simpa only [Safe, HoldsSource, HoldsDest, NoSource, NoDest, lookup_unlink_other different,
      contentAt_unlink_other different] using safe

theorem statDest_underway (handed : NoSource job state ∧ HoldsDest job content state) :
    Underway job content (statDest job state answer source) := by
  unfold statDest
  split <;> exact handed

end Calls

theorem Underway.step (underway : Underway job content state) (answer : Answer) :
    Underway job content (moveStep job state answer) := by
  obtain ⟨src, dst, store, pc⟩ := state
  cases pc with
  | mountSource | mountDest =>
    simp only [moveStep]
    split <;> exact underway
  | mkdirParent =>
    simp only [moveStep]
    split
    · rename_i made _
      exact mkdirParent_safe underway made
    · exact underway
  | lstatDest => exact lstatDest_underway underway
  | statStalled => exact statStalled_underway underway.1 underway.2.1
  | openStalled => exact openStalled_underway underway
  | readStalledSource =>
    obtain ⟨held, opened⟩ := underway
    exact ⟨held, opened, answer, by rw [← opened.1]⟩
  | readStalledDest => exact readStalledDest_underway underway.1 underway.2.1
  | getStalled => exact underway
  | unlinkStalled source =>
    simp only [moveStep]
    split
    · exact safe_of_both underway
    · have dest : HoldsDest job content ⟨src, dst, store, .unlinkStalled source⟩ := underway.2
      exact handoff_underway dest
  | statSource => exact statSource_underway underway
  | clearTmp =>
    refine ⟨underway.1, ?_⟩
    simp only [NoDest, moveStep, removeName]
    split
    · exact underway.2
    · exact (lookup_unlink_other (tmpPath_ne job.rel).symm).trans underway.2
  | getRecord => exact underway
  | openSource => exact openSource_underway underway
  | createTmp => exact createTmp_underway underway.1 underway.2
  | copyChunk => exact copyChunk_underway underway.1 underway.2
  | closeTmp =>
    simp only [moveStep]
    split
    · exact safe_of_source underway.1
    · exact underway
  | chtimes => exact chtimes_underway underway.1 underway.2
  | linkDest => exact linkDest_underway underway.1 underway.2
  | unlinkTmp => exact unlinkTmp_underway underway
  | unlinkSource source =>
    simp only [moveStep]
    split
    · exact underway
    · have dest : HoldsDest job content ⟨src, dst, store, .unlinkSource source⟩ := underway.2
      exact handoff_underway dest
  | rollback => exact rollback_underway underway
  | dropTmp => exact removeTmp_safe underway
  | statDest => exact statDest_underway underway
  | putRecord =>
    simp only [moveStep]
    split <;> exact underway
  | deleteRecord =>
    simp only [moveStep]
    split <;> exact .inr underway
  | done => exact underway

/-- A call, or a new attempt: after a crash or an error `moveForPlacement` starts
over, on whatever metadata store it then finds. -/
inductive AttemptEvent where
  | call (answer : Answer)
  | retry (store : PoolMetaStore)

def attemptStep (job : MoveJob) (state : MoveState) : AttemptEvent → MoveState
  | .call answer => moveStep job state answer
  | .retry store => { state with store, pc := .mountSource }

theorem Underway.attempt (underway : Underway job content state) (event : AttemptEvent) :
    Underway job content (attemptStep job state event) := by
  cases event with
  | call answer => exact underway.step answer
  | retry store => exact underway.safe

theorem run_attempts_underway (underway : Underway job content state) (events : List AttemptEvent) :
    Underway job content (run (attemptStep job) state events) :=
  run_invariant (fun _ event before => before.attempt event) events underway

end Tierd.Placement
