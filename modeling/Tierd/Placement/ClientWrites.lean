import Tierd.Placement.MoveRetry

namespace Tierd.Placement

open Tierd.Data Tierd.Meta FileSystem List

/-- In nanoseconds. -/
def placementQuiescentPeriod : Int := 10 * 60 * 1000000000

/-- A file of the pool between a placement pass and its clients.  `latest` is
what the completed client writes amount to. -/
structure ClientRun where
  planned : Bool
  move : MoveState
  latest : Bytes

/-- The walk of a pass that began at `now` reaches the file; the next call of
`moveForPlacement`; a client write that completes. -/
inductive ClientEvent where
  | scan (now : Int)
  | call (answer : Answer)
  | write (offset : Nat) (bytes : Bytes) (now : Int)

/-- The candidate walk of `planPoolPlacement`, for this file. -/
def scanFile (job : MoveJob) (state : ClientRun) (now : Int) : ClientRun :=
  match state.move.src.lookup job.rel with
  | some (.file ino) =>
    if now - (state.move.src.files ino).mtime < placementQuiescentPeriod then state
    else { state with planned := true, move := state.move.restart }
  | _ => state

/-- A write reaches the source inode as long as the file is linked there. -/
def clientWrite (job : MoveJob) (state : ClientRun) (offset : Nat) (bytes : Bytes) (now : Int) : ClientRun :=
  match state.move.src.lookup job.rel with
  | some (.file ino) => { state with
      move := { state.move with src := state.move.src.write ino offset bytes now }
      latest := overwrite state.latest offset bytes }
  | _ => state

def clientStep (job : MoveJob) (state : ClientRun) : ClientEvent → ClientRun
  | .scan now => if state.move.pc.idle then scanFile job state now else state
  | .call answer => if state.planned then { state with move := moveStep job state.move answer } else state
  | .write offset bytes now => clientWrite job state offset bytes now

/-- Everything from the offset on is still to be read by the move: it has not
begun to read the source, is not that far, or is not going to unlink it. -/
def MovePc.unread : MovePc → Nat → Prop
  | .readStalledSource _ _ _ position, offset => position ≤ offset
  | .readStalledDest _ _ _ position bytes ending, offset => ending = .full ∧ position + bytes.length ≤ offset
  | .copyChunk _ _ _ position, offset => position ≤ offset
  | .getStalled _, _ | .unlinkStalled _, _ | .closeTmp _, _ | .chtimes _, _ | .linkDest _, _
  | .unlinkTmp _, _ | .unlinkSource _, _ => False
  | _, _ => True

instance (pc : MovePc) (offset : Nat) : Decidable (pc.unread offset) := by
  unfold MovePc.unread
  split <;> infer_instance

/-- A client write comes before the move has read that far, or changes nothing. -/
def WriteSeen (job : MoveJob) (state : ClientRun) : ClientEvent → Prop
  | .write offset bytes _ =>
    state.move.pc.unread offset ∨
      (state.move.src.contentAt job.rel).map (overwrite · offset bytes) = state.move.src.contentAt job.rel
  | _ => True

instance (job : MoveJob) (state : ClientRun) (event : ClientEvent) : Decidable (WriteSeen job state event) := by
  unfold WriteSeen
  split <;> infer_instance

section Invariant

variable (job : MoveJob) (latest : Bytes) (state : MoveState)

def SourceOpen (srcFile : UInt64) : Prop :=
  state.src.lookup job.rel = some (.file srcFile) ∧ (state.src.files srcFile).content = latest

def ComparedTo (dstFile : UInt64) (position : Nat) : Prop :=
  state.dst.lookup job.rel = some (.file dstFile) ∧ position ≤ latest.length ∧
    latest.take position = (state.dst.files dstFile).content.take position

/-- What a read of the source still says about it. -/
def StillReads (position : Nat) (bytes : Bytes) : ReadEnd → Prop
  | .full => bytes = (latest.drop position).take compareChunkSize ∧
      position + compareChunkSize ≤ latest.length
  | .eof => bytes = latest.drop position
  | .failed => True

def Reflects : Prop :=
  match state.pc with
  | .readStalledSource _ srcFile dstFile position =>
    SourceOpen job latest state srcFile ∧ ComparedTo job latest state dstFile position
  | .readStalledDest _ srcFile dstFile position bytes ending =>
    SourceOpen job latest state srcFile ∧ ComparedTo job latest state dstFile position ∧
      StillReads latest position bytes ending
  | .getStalled _ | .unlinkStalled _ | .unlinkTmp _ | .unlinkSource _ =>
    HoldsSource job latest state ∧ HoldsDest job latest state
  | .createTmp _ srcFile => SourceOpen job latest state srcFile
  | .copyChunk _ srcFile tmpFile position =>
    SourceOpen job latest state srcFile ∧ position ≤ latest.length ∧
      Copied job latest state srcFile tmpFile position
  | .closeTmp _ | .chtimes _ | .linkDest _ => HoldsSource job latest state ∧ HoldsTmp job latest state
  | .statDest _ | .putRecord _ _ | .deleteRecord _ | .done (.ok _) =>
    NoSource job state ∧ HoldsDest job latest state
  | _ => HoldsSource job latest state

end Invariant

variable {job : MoveJob} {latest : Bytes} {state : MoveState} {answer : Answer}

theorem SourceOpen.holds {srcFile : UInt64} (opened : SourceOpen job latest state srcFile) :
    HoldsSource job latest state := contentAt_eq_some.mpr ⟨srcFile, opened⟩

theorem HoldsSource.opens {srcFile : UInt64} (held : HoldsSource job latest state)
    (named : state.src.lookup job.rel = some (.file srcFile)) : SourceOpen job latest state srcFile :=
  ⟨named, content_of_contentAt held named⟩

theorem stillReads_of_readFull (position : Nat) (answer : Answer) :
    StillReads latest position (readFull latest position answer).1 (readFull latest position answer).2 := by
  cases ended : (readFull latest position answer).2 with
  | full => exact readFull_full ended
  | eof => exact readFull_eof ended
  | failed => trivial

theorem reflects_fail (failure : MoveFailure) (held : HoldsSource job latest state) :
    Reflects job latest (state.fail failure) := held

theorem openStalled_reflects {source : SourceStat} (held : HoldsSource job latest state) :
    Reflects job latest (openStalled job state answer source) := by
  unfold openStalled
  split
  · exact reflects_fail _ held
  · split
    · rename_i srcNamed dstNamed
      exact ⟨held.opens srcNamed, dstNamed, Nat.zero_le _, rfl⟩
    · exact reflects_fail _ held

theorem readStalledDest_reflects {source : SourceStat} {srcFile dstFile : UInt64} {position : Nat}
    {bytes : Bytes} {ending : ReadEnd} (opened : SourceOpen job latest state srcFile)
    (compared : ComparedTo job latest state dstFile position)
    (reads : StillReads latest position bytes ending) :
    Reflects job latest (readStalledDest state answer source srcFile dstFile position bytes ending) := by
  obtain ⟨dstNamed, within, soFar⟩ := compared
  unfold readStalledDest
  split
  · exact reflects_fail _ opened.holds
  · rename_i same
    obtain ⟨equal, ended, dstEnded⟩ := compareReads_same same
    simp only at equal ended
    subst ended
    rw [readFull_eof dstEnded] at equal
    have whole : latest = (state.dst.files dstFile).content := by
      rw [← take_append_drop position latest, soFar, ← show bytes = latest.drop position from reads,
        equal, take_append_drop]
    exact ⟨opened.holds, contentAt_eq_some.mpr ⟨dstFile, dstNamed, whole.symm⟩⟩
  · exact reflects_fail _ opened.holds
  · rename_i more
    obtain ⟨equal, filled, dstFilled⟩ := compareReads_more more
    simp only at equal filled
    subst filled
    obtain ⟨read, longer⟩ := reads
    have further : latest.take (position + compareChunkSize) =
        (state.dst.files dstFile).content.take (position + compareChunkSize) := by
      rw [take_add, take_add, soFar, ← read, equal, (readFull_full dstFilled).1]
    exact ⟨opened, dstNamed, longer, further⟩

theorem copyChunk_reflects {source : SourceStat} {srcFile tmpFile : UInt64} {position : Nat}
    (opened : SourceOpen job latest state srcFile) (within : position ≤ latest.length)
    (copied : Copied job latest state srcFile tmpFile position) :
    Reflects job latest (copyChunk state answer source srcFile tmpFile position) := by
  unfold copyChunk
  split
  · exact opened.holds
  · simp only [copied.1]
    split
    · rename_i ended
      exact ⟨opened.holds, copied.complete ended⟩
    · refine ⟨opened, ?_, copied.next _ _ _⟩
      simp only [length_take, length_drop]
      omega

theorem handoff_reflects {source : SourceStat} (dest : HoldsDest job latest state) :
    Reflects job latest (handoff job { state with src := state.src.unlink job.rel } source) := by
  unfold handoff
  split <;> exact ⟨lookup_unlink_self, dest⟩

theorem Reflects.step (reflects : Reflects job latest state) (answer : Answer) :
    Reflects job latest (moveStep job state answer) := by
  obtain ⟨src, dst, store, pc⟩ := state
  cases pc with
  | mountSource | mountDest | mkdirParent | lstatDest | statStalled | statSource =>
    simp only [moveStep, lstatDest, statStalled, statSource]
    repeat' split
    all_goals exact reflects
  | openStalled => exact openStalled_reflects reflects
  | readStalledSource source srcFile dstFile position =>
    obtain ⟨opened, compared⟩ := reflects
    refine ⟨opened, compared, ?_⟩
    simp only [show (src.files srcFile).content = latest from opened.2]
    exact stillReads_of_readFull position answer
  | readStalledDest => exact readStalledDest_reflects reflects.1 reflects.2.1 reflects.2.2
  | getStalled | clearTmp | getRecord | rollback | dropTmp => exact reflects
  | unlinkStalled source =>
    simp only [moveStep]
    split
    · exact reflects.1
    · have dest : HoldsDest job latest ⟨src, dst, store, .unlinkStalled source⟩ := reflects.2
      exact handoff_reflects dest
  | openSource =>
    have held : HoldsSource job latest ⟨src, dst, store, .openSource _⟩ := reflects
    simp only [moveStep, openSource]
    split
    · exact held
    · split
      · rename_i named
        exact held.opens named
      · exact held
  | createTmp =>
    have opened : SourceOpen job latest ⟨src, dst, store, .createTmp _ _⟩ _ := reflects
    simp only [moveStep, createTmp]
    split
    · rename_i created
      split
      · exact opened.holds
      · exact ⟨opened, Nat.zero_le _, copied_of_create opened.2 created⟩
    · exact opened.holds
  | copyChunk => exact copyChunk_reflects reflects.1 reflects.2.1 reflects.2.2
  | closeTmp =>
    simp only [moveStep]
    split
    · exact reflects.1
    · exact reflects
  | chtimes =>
    simp only [moveStep, chtimes]
    split
    · exact ⟨reflects.1, contentAt_chtimes.trans reflects.2⟩
    · exact reflects
  | linkDest =>
    simp only [moveStep, linkDest]
    split
    · rename_i linked _
      exact ⟨reflects.1, (contentAt_link linked).trans reflects.2⟩
    · exact reflects.1
  | unlinkTmp =>
    simp only [moveStep, unlinkTmp]
    split
    · exact reflects.1
    · exact ⟨reflects.1, (contentAt_unlink_other (tmpPath_ne job.rel).symm).trans reflects.2⟩
  | unlinkSource source =>
    simp only [moveStep]
    split
    · exact reflects.1
    · have dest : HoldsDest job latest ⟨src, dst, store, .unlinkSource source⟩ := reflects.2
      exact handoff_reflects dest
  | statDest | putRecord | deleteRecord =>
    simp only [moveStep, statDest]
    split <;> exact reflects
  | done => exact reflects

section Writes

variable {ino : UInt64} {offset : Nat} {bytes : Bytes} {now : Int}

def MoveState.written (state : MoveState) (ino : UInt64) (offset : Nat) (bytes : Bytes) (now : Int) :
    MoveState :=
  { state with src := state.src.write ino offset bytes now }

theorem SourceOpen.write (opened : SourceOpen job latest state ino) :
    SourceOpen job (overwrite latest offset bytes) (state.written ino offset bytes now) ino := by
  refine ⟨opened.1, ?_⟩
  simp [MoveState.written, FileSystem.write, setFile, opened.2]

theorem ComparedTo.write {dstFile : UInt64} {position : Nat}
    (compared : ComparedTo job latest state dstFile position) (later : position ≤ offset) :
    ComparedTo job (overwrite latest offset bytes) (state.written ino offset bytes now) dstFile position := by
  obtain ⟨named, within, soFar⟩ := compared
  exact ⟨named, within.trans (length_le_overwrite latest offset bytes),
    (take_overwrite bytes later within).trans soFar⟩

theorem Copied.write {tmpFile : UInt64} {position : Nat} (opened : SourceOpen job latest state ino)
    (copied : Copied job latest state ino tmpFile position) (within : position ≤ latest.length)
    (later : position ≤ offset) :
    Copied job (overwrite latest offset bytes) (state.written ino offset bytes now) ino tmpFile position := by
  obtain ⟨_, named, soFar⟩ := copied
  exact ⟨opened.write.2, named, soFar.trans (take_overwrite bytes later within).symm⟩

theorem stillReads_write {position : Nat} {read : Bytes}
    (reads : StillReads latest position read .full) (later : position + read.length ≤ offset) :
    StillReads (overwrite latest offset bytes) position read .full := by
  obtain ⟨rfl, longer⟩ := reads
  have size : ((latest.drop position).take compareChunkSize).length = compareChunkSize := by
    rw [length_take, length_drop]
    omega
  rw [size] at later
  refine ⟨?_, longer.trans (length_le_overwrite latest offset bytes)⟩
  rw [take_drop, take_drop, take_overwrite bytes later longer]

theorem Reflects.write_unread (reflects : Reflects job latest state)
    (named : state.src.lookup job.rel = some (.file ino)) (unread : state.pc.unread offset) :
    Reflects job (overwrite latest offset bytes) (state.written ino offset bytes now) := by
  have source_written : HoldsSource job latest state →
      HoldsSource job (overwrite latest offset bytes) (state.written ino offset bytes now) :=
    fun held => (held.opens named).write.holds
  have open_is : ∀ {srcFile}, SourceOpen job latest state srcFile → srcFile = ino := by
    intro srcFile opened
    have same := opened.1.symm.trans named
    cases same
    rfl
  have not_gone : ¬ NoSource job state := fun gone => by simp [NoSource, named] at gone
  obtain ⟨src, dst, store, pc⟩ := state
  cases pc with
  | mountSource | mountDest | mkdirParent | lstatDest | statStalled | openStalled | statSource |
    clearTmp | getRecord | openSource | rollback | dropTmp => exact source_written reflects
  | readStalledSource =>
    obtain ⟨opened, compared⟩ := reflects
    obtain rfl := open_is opened
    exact ⟨opened.write, compared.write unread⟩
  | readStalledDest =>
    obtain ⟨opened, compared, reads⟩ := reflects
    obtain ⟨rfl, later⟩ := unread
    obtain rfl := open_is opened
    exact ⟨opened.write, compared.write (by omega), stillReads_write reads later⟩
  | createTmp =>
    have opened : SourceOpen job latest ⟨src, dst, store, .createTmp _ _⟩ _ := reflects
    obtain rfl := open_is opened
    exact opened.write
  | copyChunk =>
    obtain ⟨opened, within, copied⟩ := reflects
    obtain rfl := open_is opened
    exact ⟨opened.write, within.trans (length_le_overwrite latest offset bytes),
      copied.write opened within unread⟩
  | getStalled | unlinkStalled | closeTmp | chtimes | linkDest | unlinkTmp | unlinkSource =>
    exact unread.elim
  | statDest | putRecord | deleteRecord => exact absurd reflects.1 not_gone
  | done result =>
    cases result with
    | ok => exact absurd reflects.1 not_gone
    | error => exact source_written reflects

theorem Reflects.write_unchanged (reflects : Reflects job latest state)
    (unchanged : overwrite (state.src.files ino).content offset bytes = (state.src.files ino).content) :
    Reflects job latest (state.written ino offset bytes now) := by
  have same : ∀ found, ((state.src.write ino offset bytes now).files found).content =
      (state.src.files found).content := by
    intro found
    by_cases touched : found = ino
    · subst touched
      simp [FileSystem.write, setFile, unchanged]
    · simp [FileSystem.write, setFile, touched]
  have sameContent : (state.src.write ino offset bytes now).contentAt job.rel = state.src.contentAt job.rel :=
    contentAt_congr rfl fun found _ => same found
  have sameName : (state.src.write ino offset bytes now).lookup job.rel = state.src.lookup job.rel := rfl
  simpa only [Reflects, MoveState.written, SourceOpen, ComparedTo, Copied, HoldsSource, HoldsDest, HoldsTmp,
    NoSource, same, sameContent, sameName] using reflects

end Writes

theorem HoldsSource.of_reflects {ino : UInt64} (reflects : Reflects job latest state)
    (named : state.src.lookup job.rel = some (.file ino)) : HoldsSource job latest state := by
  have not_gone : ¬ NoSource job state := fun gone => by simp [NoSource, named] at gone
  obtain ⟨src, dst, store, pc⟩ := state
  cases pc with
  | readStalledSource | readStalledDest | copyChunk => exact reflects.1.holds
  | createTmp => exact SourceOpen.holds reflects
  | getStalled | unlinkStalled | unlinkTmp | unlinkSource | closeTmp | chtimes | linkDest => exact reflects.1
  | statDest | putRecord | deleteRecord => exact absurd reflects.1 not_gone
  | done result =>
    cases result with
    | ok => exact absurd reflects.1 not_gone
    | error => exact reflects
  | _ => exact reflects

theorem Reflects.clientWrite {state : ClientRun} {offset : Nat} {bytes : Bytes} {now : Int}
    (reflects : Reflects job state.latest state.move)
    (seen : WriteSeen job state (.write offset bytes now)) :
    Reflects job (clientWrite job state offset bytes now).latest
      (clientWrite job state offset bytes now).move := by
  unfold Placement.clientWrite
  split
  · rename_i ino named
    rcases seen with unread | unchanged
    · exact reflects.write_unread named unread
    · have held := HoldsSource.of_reflects reflects named
      have content := content_of_contentAt held named
      have same : overwrite state.latest offset bytes = state.latest := by
        rw [show state.move.src.contentAt job.rel = some state.latest from held] at unchanged
        exact Option.some.inj unchanged
      simp only [same]
      exact reflects.write_unchanged (by rw [content, same])
  · exact reflects

theorem Reflects.scanFile {state : ClientRun} {now : Int} (reflects : Reflects job state.latest state.move) :
    Reflects job (scanFile job state now).latest (scanFile job state now).move := by
  unfold Placement.scanFile
  split
  · rename_i named
    split
    · exact reflects
    · have held := HoldsSource.of_reflects reflects named
      exact held
  · exact reflects

theorem Reflects.clientStep {state : ClientRun} {event : ClientEvent}
    (reflects : Reflects job state.latest state.move) (seen : WriteSeen job state event) :
    Reflects job (clientStep job state event).latest (clientStep job state event).move := by
  cases event with
  | scan now =>
    simp only [Placement.clientStep]
    split
    · exact reflects.scanFile
    · exact reflects
  | call answer =>
    simp only [Placement.clientStep]
    split
    · exact reflects.step answer
    · exact reflects
  | write offset bytes now => exact reflects.clientWrite seen

/-- In every interleaving in which no client write falls behind what the move has
already read, a move that succeeds leaves all client writes in the destination
file. -/
theorem moved_file_has_every_write (job : MoveJob) (src dst : FileSystem) (store : PoolMetaStore)
    (content : Bytes) (source : src.contentAt job.rel = some content) (events : List ClientEvent)
    (seen : Guarded (clientStep job) (WriteSeen job) ⟨false, ⟨src, dst, store, .mountSource⟩, content⟩ events) :
    let final := run (clientStep job) ⟨false, ⟨src, dst, store, .mountSource⟩, content⟩ events
    final.move.pc = .done (.ok ()) → final.move.dst.contentAt job.rel = some final.latest := by
  intro final succeeded
  have preserved : ∀ (state : ClientRun) event, Reflects job state.latest state.move →
      WriteSeen job state event →
      Reflects job (clientStep job state event).latest (clientStep job state event).move :=
    fun _ _ reflects seen => reflects.clientStep seen
  have reflects : Reflects job final.latest final.move := guarded_run_invariant preserved seen source
  simp only [Reflects, succeeded] at reflects
  exact reflects.2

abbrev quietFile : ClientRun :=
  ⟨false, ⟨oneFile [1, 2, 3], emptyTier, .opened, .mountSource⟩, [1, 2, 3]⟩

/-- A pass that begins an hour after the file was last written moves it; one
client write completes after the given number of calls. -/
def passWithWrite (calls offset : Nat) (bytes : Bytes) : List ClientEvent :=
  .scan (60 * 60 * 1000000000) :: List.replicate calls (.call workingCall) ++
    .write offset bytes 0 :: List.replicate 12 (.call workingCall)

/-- An append that comes between two reads of the copy arrives with it. -/
theorem append_during_copy_arrives :
    let final := run (clientStep promotion) quietFile (passWithWrite 10 3 [4])
    final.move.pc = .done (.ok ()) ∧ final.latest = [1, 2, 3, 4] ∧
      final.move.dst.contentAt promotion.rel = some final.latest := by
  have arrived := moved_file_has_every_write promotion (oneFile [1, 2, 3]) emptyTier .opened [1, 2, 3]
    (by decide) (passWithWrite 10 3 [4]) (by decide +kernel) (by decide +kernel)
  exact ⟨by decide +kernel, by decide +kernel, arrived⟩

/-- A write to bytes already copied completes before the source is unlinked and is
lost: the move succeeds and the destination keeps the old bytes. -/
theorem write_behind_copy_is_lost :
    let final := run (clientStep promotion) quietFile (passWithWrite 13 0 [9])
    final.move.pc = .done (.ok ()) ∧ final.latest = [9, 2, 3] ∧
      final.move.src.lookup promotion.rel = none ∧
      final.move.dst.contentAt promotion.rel = some [1, 2, 3] := by
  decide +kernel

end Tierd.Placement
