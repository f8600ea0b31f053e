import Tierd.Iscsi.Moves

namespace Tierd.Iscsi.Moves

open Tierd.Data

def Thread.journaling : Thread → Bool
  | .journal _ => true
  | .executor mover => mover.stage ≠ .done
  | .portal _ _ | .finished => false

def MoveState.copying : MoveState → Bool
  | .unpinned | .moving | .cutover => true
  | _ => false

/-- Between the unpin and the last step. -/
def Thread.moving : Thread → Bool
  | .executor mover => mover.unpinned && mover.stage ≠ .done
  | _ => false

def Stage.writes : Stage → Bool
  | .store _ _ | .storeFailed _ => true
  | _ => false

def Lun.OwnedBy (lun : Lun) (name : Nat) : Prop :=
  ∃ intent, lun.intent = some intent ∧ intent.owner = some name

def Executor.Repinned (backing : Text) (mover : Executor) : Prop :=
  mover.unpinned = true → mover.lastPin = some backing

def WritesOwnIntent (machine : Machine) : Event → Prop
  | .step name outcome =>
    ∀ mover, machine.thread name = .executor mover → mover.stage.writes = true → outcome ≠ .fails →
      machine.lun.OwnedBy name
  | .request _ | .restart _ => True

/-- A request that touches the intent comes when no other and no executor is under way, and the
store answers the executor's read when the path of a later pin depends on it. -/
def Undisturbed (machine : Machine) : Event → Prop
  | .request request =>
    request.thread.journaling = true → ∀ thread ∈ machine.threads, thread.journaling = false
  | .step name outcome =>
    match machine.thread name with
    | .executor ⟨.transition next, _, _, _⟩ => next.copying = true → outcome ≠ .fails
    | _ => True
  | .restart _ => True

instance (machine : Machine) : (event : Event) → Decidable (Undisturbed machine event)
  | .request _ => by unfold Undisturbed; infer_instance
  | .step name outcome => by unfold Undisturbed; dsimp only; split <;> infer_instance
  | .restart _ => isTrue trivial

/-- A process that has just started. -/
structure Machine.Started (backing : Text) (machine : Machine) : Prop where
  idle : machine.threads = []
  named : ∀ intent, machine.lun.intent = some intent → intent.backingFile = backing

def Stage.settled : Stage → Bool
  | .prepare | .openClient | .unpin | .resume | .saveConfig | .flag | .fail | .storeFailed _ | .done => true
  | .transition next | .store next _ => !next.copying
  | .plan | .inspect | .copy | .cutover | .waitCleanup | .repin | .rollback => false

/-- The stages that use the path of the context. -/
def Stage.usesPath : Stage → Bool
  | .openClient | .unpin | .plan | .inspect | .copy | .cutover | .waitCleanup | .repin | .rollback => true
  | _ => false

/-- The intent a thread has read and will write. -/
def Stage.copy? : Stage → Option Intent
  | .store _ held | .storeFailed held => some held
  | _ => none

@[simp] theorem Stage.settled_after (next : MoveState) : (Stage.after next).settled = !next.copying := by
  cases next <;> rfl

@[simp] theorem Stage.usesPath_after (next : MoveState) : (Stage.after next).usesPath = next.copying := by
  cases next <;> rfl

@[simp] theorem Stage.copy?_after (next : MoveState) : (Stage.after next).copy? = none := by
  cases next <;> rfl

def JournalStep.copy? : JournalStep → Option Intent
  | .checkQuiesced (.execute intent) | .checkPin (.execute intent) | .persist (.execute intent) => some intent
  | .persistAborted intent => some intent
  | _ => none

def Lun.Named (backing : Text) (lun : Lun) : Prop :=
  ∀ intent, lun.intent = some intent → intent.backingFile = backing

structure Executor.Sound (backing : Text) (name : Nat) (lun : Lun) (mover : Executor) : Prop where
  owned : mover.stage ≠ .done → lun.OwnedBy name
  repinned : mover.stage.settled = true → mover.Repinned backing
  named : mover.stage.usesPath = true → mover.backingFile = backing
  copies : ∀ copy, mover.stage.copy? = some copy → copy.owner = some name ∧ copy.backingFile = backing

def Thread.Sound (backing : Text) (name : Nat) (lun : Lun) : Thread → Prop
  | .journal step => ∀ copy, step.copy? = some copy → copy.backingFile = backing
  | .executor mover => mover.Sound backing name lun
  | .portal _ _ | .finished => True

section Preservation

variable {backing : Text} {name : Nat} {lun after : Lun} {outcome : Outcome}

variable {thread : Thread}

theorem Thread.Sound.of_intent (sound : thread.Sound backing name lun)
    (same : after.intent = lun.intent) : thread.Sound backing name after := by
  cases thread with
  | executor mover =>
    refine ⟨fun active => ?_, sound.repinned, sound.named, sound.copies⟩
    simpa only [Lun.OwnedBy, same] using sound.owned active
  | journal step => exact sound
  | portal quiesce step => trivial
  | finished => trivial

theorem Thread.Sound.of_not_journaling (sound : thread.Sound backing name lun)
    (ended : thread.journaling = false) : thread.Sound backing name after := by
  cases thread with
  | executor mover =>
    have done : mover.stage = .done := by simpa [Thread.journaling] using ended
    exact ⟨fun active => absurd done active, sound.repinned, sound.named, sound.copies⟩
  | journal step => cases ended
  | portal quiesce step => trivial
  | finished => trivial

theorem Lun.Named.persist {intent : Intent} (named : lun.Named backing) (path : intent.backingFile = backing) :
    (lun.persist intent outcome).Named backing := by
  intro stored written
  simp only [Lun.persist] at written
  split at written
  · exact named stored written
  · cases written
    exact path

theorem Lun.OwnedBy.persist {intent : Intent} (owned : lun.OwnedBy name) (owner : intent.owner = some name) :
    (lun.persist intent outcome).OwnedBy name := by
  simp only [Lun.OwnedBy, Lun.persist]
  split
  · exact owned
  · exact ⟨intent, rfl, owner⟩

theorem executorStep_intent (mover : Executor) :
    (executorStep backing lun outcome mover).1.intent = lun.intent ∨
      ∃ held, mover.stage.copy? = some held ∧
        (executorStep backing lun outcome mover).1 = lun.persist held outcome := by
  obtain ⟨stage, path, unpinned, lastPin⟩ := mover
  cases stage <;> simp only [executorStep, Stage.copy?, Lun.setPin] <;> grind

theorem executorStep_named {mover : Executor} (named : lun.Named backing) (sound : mover.Sound backing name lun) :
    (executorStep backing lun outcome mover).1.Named backing := by
  rcases executorStep_intent mover with same | ⟨held, copied, written⟩
  · exact fun intent stored => named intent (same.symm.trans stored)
  · rw [written]
    exact named.persist (sound.copies held copied).2

theorem executorStep_owned {mover : Executor} (sound : mover.Sound backing name lun) (active : mover.stage ≠ .done) :
    (executorStep backing lun outcome mover).1.OwnedBy name := by
  rcases executorStep_intent mover with same | ⟨held, copied, written⟩
  · obtain ⟨intent, stored, owner⟩ := sound.owned active
    exact ⟨intent, same.trans stored, owner⟩
  · rw [written]
    exact (sound.owned active).persist (sound.copies held copied).1

theorem executorStep_sound {mover : Executor} (named : lun.Named backing) (sound : mover.Sound backing name lun)
    (reads : ∀ next, mover.stage = .transition next → next.copying = true → outcome ≠ .fails) :
    (executorStep backing lun outcome mover).2.Sound backing name (executorStep backing lun outcome mover).1 := by
  by_cases done : mover.stage = .done
  · simpa only [executorStep, done] using sound
  have stays : (executorStep backing lun outcome mover).1.OwnedBy name := executorStep_owned sound done
  obtain ⟨intent, stored, owner⟩ := sound.owned done
  have path := named intent stored
  obtain ⟨stage, file, unpinned, lastPin⟩ := mover
  obtain ⟨-, repinned, usesPath, copies⟩ := sound
  cases stage with
  | prepare =>
    by_cases refused : outcome = .fails ∨ intent.state ≠ .executing
    · simp only [executorStep, stored, if_pos refused] at stays ⊢
      exact ⟨fun _ => stays, fun _ => repinned rfl, nofun, nofun⟩
    · simp only [executorStep, stored, if_neg refused] at stays ⊢
      exact ⟨fun _ => stays, fun _ => repinned rfl, fun _ => path, nofun⟩
  | transition next =>
    by_cases failed : outcome = .fails
    · have late : next.copying = false := by
        by_contra copying
        exact reads next rfl (by simpa using copying) failed
      simp only [executorStep, stored, if_pos failed] at stays ⊢
      refine ⟨fun _ => stays, fun _ => repinned (by simp [Stage.settled, late]), ?_, by simp⟩
      simp [late]
    · simp only [executorStep, stored, if_neg failed] at stays ⊢
      refine ⟨fun _ => stays, repinned, nofun, ?_⟩
      rintro copy ⟨⟩
      exact ⟨owner, path⟩
  | store next held =>
    have owed : (Stage.store next held).settled = (Stage.after next).settled :=
      (Stage.settled_after next).symm
    refine ⟨fun _ => stays, fun settled => repinned (owed.trans settled), fun _ => (copies held rfl).2, ?_⟩
    simp [executorStep]
  | fail =>
    by_cases failed : outcome = .fails
    · simp only [executorStep, stored, if_pos failed] at stays ⊢
      exact ⟨fun _ => stays, fun _ => repinned rfl, nofun, nofun⟩
    · simp only [executorStep, stored, if_neg failed] at stays ⊢
      refine ⟨fun _ => stays, fun _ => repinned rfl, nofun, ?_⟩
      rintro copy ⟨⟩
      exact ⟨owner, path⟩
  | _ =>
    refine ⟨fun _ => stays, ?_, ?_, ?_⟩ <;> by_cases failed : outcome = .fails <;>
      simp_all [executorStep, Executor.attempt, Stage.settled, Stage.usesPath, Stage.copy?, Executor.Repinned,
        MoveState.copying]

theorem portalStep_intent (quiesce : Bool) (step : PortalStep) :
    (portalStep lun outcome quiesce step).1.intent = lun.intent := by
  cases step <;> simp only [portalStep] <;> split <;> rfl

theorem portalStep_not_journaling (quiesce : Bool) (step : PortalStep) :
    (portalStep lun outcome quiesce step).2.journaling = false := by
  cases step <;> simp only [portalStep] <;> split <;> rfl

theorem portalStep_sound (quiesce : Bool) (step : PortalStep) :
    (portalStep lun outcome quiesce step).2.Sound backing name after := by
  cases step <;> simp only [portalStep] <;> split <;> trivial

theorem journalStep_named {step : JournalStep} (named : lun.Named backing)
    (held : ∀ copy, step.copy? = some copy → copy.backingFile = backing) :
    (journalStep backing name lun outcome step).1.Named backing := by
  cases step with
  | clear =>
    simp only [journalStep]
    split
    · exact named
    · exact nofun
  | readPlanned | readAbortable =>
    simp only [journalStep]
    split
    · exact named
    · split <;> exact named
  | checkQuiesced purpose | checkPin purpose =>
    simp only [journalStep]
    split <;> exact named
  | persist purpose =>
    cases purpose with
    | record => exact named.persist rfl
    | execute intent =>
      simp only [journalStep]
      split
      · exact named
      · exact named.persist (held intent rfl)
  | persistAborted intent => exact named.persist (held intent rfl)

theorem journalStep_sound {step : JournalStep} (named : lun.Named backing)
    (held : ∀ copy, step.copy? = some copy → copy.backingFile = backing) :
    (journalStep backing name lun outcome step).2.Sound backing name
      (journalStep backing name lun outcome step).1 := by
  cases step with
  | clear =>
    simp only [journalStep]
    split <;> trivial
  | readPlanned | readAbortable =>
    cases stored : lun.intent with
    | none =>
      simp only [journalStep, stored]
      trivial
    | some intent =>
      simp only [journalStep, stored]
      split
      · trivial
      · rintro copy ⟨⟩
        exact named intent stored
  | checkQuiesced purpose | checkPin purpose =>
    simp only [journalStep]
    split
    · trivial
    · cases purpose with
      | record => exact nofun
      | execute intent => exact held
  | persist purpose =>
    cases purpose with
    | record => trivial
    | execute intent =>
      by_cases failed : outcome = .fails
      · simp only [journalStep, if_pos failed]
        trivial
      · simp only [journalStep, if_neg failed]
        refine ⟨fun _ => ⟨{ intent with state := .executing, owner := some name }, ?_, rfl⟩, nofun, nofun, nofun⟩
        simp [Lun.persist, failed]
  | persistAborted intent => trivial

theorem Thread.step_named (named : lun.Named backing) (sound : thread.Sound backing name lun) :
    (thread.step backing name lun outcome).1.Named backing := by
  cases thread with
  | portal quiesce step => exact fun intent stored => named intent ((portalStep_intent quiesce step).symm.trans stored)
  | journal step => exact journalStep_named named sound
  | executor mover => exact executorStep_named named sound
  | finished => exact named

theorem Thread.step_sound (named : lun.Named backing) (sound : thread.Sound backing name lun)
    (reads : ∀ mover next, thread = .executor mover → mover.stage = .transition next → next.copying = true →
      outcome ≠ .fails) :
    (thread.step backing name lun outcome).2.Sound backing name (thread.step backing name lun outcome).1 := by
  cases thread with
  | portal quiesce step => exact portalStep_sound quiesce step
  | journal step => exact journalStep_sound named sound
  | executor mover => exact executorStep_sound named sound fun next => reads mover next rfl
  | finished => trivial

theorem Thread.step_intent (quiet : thread.journaling = false) :
    (thread.step backing name lun outcome).1.intent = lun.intent := by
  cases thread with
  | portal quiesce step => exact portalStep_intent quiesce step
  | journal step => cases quiet
  | executor mover =>
    have done : mover.stage = .done := by simpa [Thread.journaling] using quiet
    simp only [Thread.step, executorStep, done]
  | finished => rfl

theorem Thread.step_journaling (quiet : thread.journaling = false) :
    (thread.step backing name lun outcome).2.journaling = false := by
  cases thread with
  | portal quiesce step => exact portalStep_not_journaling quiesce step
  | journal step => cases quiet
  | executor mover =>
    have done : mover.stage = .done := by simpa [Thread.journaling] using quiet
    simp only [Thread.step, executorStep, done, Thread.journaling, ne_eq, not_true_eq_false, decide_false]
  | finished => rfl

theorem Request.thread_sound (request : Request) : request.thread.Sound backing name lun := by
  cases request with
  | quiesce | resume => trivial
  | record | clear | execute | abort => exact nofun

theorem Thread.not_journaling_of_idle (idle : thread.idle = true) : thread.journaling = false := by
  cases thread with
  | executor mover => simpa [Thread.idle, Thread.journaling] using idle
  | finished => rfl
  | portal quiesce step | journal step => cases idle

theorem Lun.Named.recover (named : lun.Named backing) (recovery : Recovery) :
    (lun.recoverActiveLUNMoveIntents backing recovery).Named backing := by
  cases stored : lun.intent with
  | none => simpa only [Lun.recoverActiveLUNMoveIntents, stored] using named
  | some intent =>
    simp only [Lun.recoverActiveLUNMoveIntents, stored]
    split
    · have pinned : (lun.setPin backing intent.backingFile true recovery.pin).Named backing := named
      exact pinned.persist (named intent stored)
    · exact named

end Preservation

structure Machine.Exclusive (backing : Text) (machine : Machine) : Prop where
  named : machine.lun.Named backing
  sound : ∀ name, (machine.thread name).Sound backing name machine.lun
  alone : ∀ first second, (machine.thread first).journaling = true → (machine.thread second).journaling = true →
    first = second

section Process

variable {backing : Text} {machine : Machine}

theorem Machine.Started.exclusive (started : machine.Started backing) : machine.Exclusive backing := by
  have finished : ∀ name, machine.thread name = .finished := by simp [Machine.thread, started.idle]
  refine ⟨started.named, fun name => ?_, fun first second active => ?_⟩
  · rw [finished name]
    trivial
  · simp [finished first, Thread.journaling] at active

theorem Undisturbed.reads {name : Nat} {outcome : Outcome} (allowed : Undisturbed machine (.step name outcome)) :
    ∀ mover next, machine.thread name = .executor mover → mover.stage = .transition next → next.copying = true →
      outcome ≠ .fails := by
  rintro ⟨stage, path, unpinned, lastPin⟩ next found rfl
  simpa only [Undisturbed, found] using allowed

theorem Machine.Exclusive.request {request : Request} (exclusive : machine.Exclusive backing)
    (allowed : Undisturbed machine (.request request)) :
    (machine.step backing (.request request)).Exclusive backing := by
  refine ⟨exclusive.named, fun name => ?_, fun first second => ?_⟩
  · by_cases new : name = machine.threads.length
    · rw [new, Machine.thread_request]
      exact request.thread_sound
    · rw [Machine.thread_request_ne new]
      exact exclusive.sound name
  have quiet (starts : request.thread.journaling = true) (name : Nat) : (machine.thread name).journaling = false :=
    Machine.thread_of_forall (·.journaling = false) rfl (allowed starts) name
  by_cases newFirst : first = machine.threads.length <;> by_cases newSecond : second = machine.threads.length
  · intros
    exact newFirst.trans newSecond.symm
  · rw [newFirst, Machine.thread_request, Machine.thread_request_ne newSecond]
    intro starts active
    simp [quiet starts second] at active
  · rw [newSecond, Machine.thread_request, Machine.thread_request_ne newFirst]
    intro active starts
    simp [quiet starts first] at active
  · rw [Machine.thread_request_ne newFirst, Machine.thread_request_ne newSecond]
    exact exclusive.alone first second

theorem Machine.Exclusive.advance {name : Nat} {outcome : Outcome} (exclusive : machine.Exclusive backing)
    (allowed : Undisturbed machine (.step name outcome)) :
    (machine.step backing (.step name outcome)).Exclusive backing := by
  have earlier (other : Nat)
      (active : ((machine.step backing (.step name outcome)).thread other).journaling = true) :
      (machine.thread other).journaling = true := by
    by_cases same : other = name
    · subst same
      rw [Machine.thread_step] at active
      by_contra quiet
      simp [Thread.step_journaling (Bool.not_eq_true _ ▸ quiet)] at active
    · rwa [Machine.thread_step_ne same] at active
  refine ⟨Thread.step_named exclusive.named (exclusive.sound name), fun other => ?_,
    fun first second firstActive secondActive =>
      exclusive.alone first second (earlier first firstActive) (earlier second secondActive)⟩
  by_cases same : other = name
  · subst same
    rw [Machine.thread_step]
    exact Thread.step_sound exclusive.named (exclusive.sound other) allowed.reads
  rw [Machine.thread_step_ne same]
  by_cases quiet : (machine.thread name).journaling = false
  · exact (exclusive.sound other).of_intent (Thread.step_intent quiet)
  · refine (exclusive.sound other).of_not_journaling ?_
    by_contra active
    exact same (exclusive.alone other name (by simpa using active) (by simpa using quiet))

theorem Machine.Exclusive.restart (exclusive : machine.Exclusive backing) (recovery : Recovery) :
    (machine.step backing (.restart recovery)).Exclusive backing := by
  have quiet (name : Nat) :
      ((machine.step backing (.restart recovery)).thread name).journaling = false := by
    rw [Machine.thread_restart]
    split
    · next idle => exact Thread.not_journaling_of_idle idle
    · rfl
  refine ⟨exclusive.named.recover recovery, fun name => ?_, fun first second active => ?_⟩
  · rw [Machine.thread_restart]
    split
    · next idle => exact (exclusive.sound name).of_not_journaling (Thread.not_journaling_of_idle idle)
    · trivial
  · exact absurd ((quiet first).symm.trans active) Bool.false_ne_true

theorem Machine.Exclusive.step {event : Event} (exclusive : machine.Exclusive backing)
    (allowed : Undisturbed machine event) : (machine.step backing event).Exclusive backing := by
  cases event with
  | request request => exact exclusive.request allowed
  | step name outcome => exact exclusive.advance allowed
  | restart recovery => exact exclusive.restart recovery

/-- At most one executor is between its unpin and its last step. -/
def Machine.OneMoving (machine : Machine) : Prop :=
  ∀ first second, (machine.thread first).moving = true → (machine.thread second).moving = true → first = second

def Machine.LastPinsName (backing : Text) (machine : Machine) : Prop :=
  ∀ name mover, machine.thread name = .executor mover → mover.stage = .done → mover.Repinned backing

theorem Machine.Exclusive.oneMoving (exclusive : machine.Exclusive backing) : machine.OneMoving := by
  have journaling (name : Nat) (moving : (machine.thread name).moving = true) :
      (machine.thread name).journaling = true := by
    cases found : machine.thread name with
    | executor mover =>
      rw [found] at moving
      exact (Bool.and_eq_true_iff.mp moving).2
    | portal quiesce step | journal step | finished => simp [found, Thread.moving] at moving
  exact fun first second one two => exclusive.alone first second (journaling first one) (journaling second two)

theorem Machine.Exclusive.lastPinsName (exclusive : machine.Exclusive backing) : machine.LastPinsName backing := by
  intro name mover found done
  have sound := exclusive.sound name
  rw [found] at sound
  exact sound.repinned (by rw [done]; rfl)

theorem Machine.Exclusive.writesOwnIntent (exclusive : machine.Exclusive backing) (event : Event) :
    WritesOwnIntent machine event := by
  cases event with
  | request request => trivial
  | restart recovery => trivial
  | step name outcome =>
    intro mover found writes _
    have sound := exclusive.sound name
    rw [found] at sound
    refine sound.owned fun done => ?_
    simp [done, Stage.writes] at writes

end Process

/-- Along a run whose requests on the intent leave each other and the executors alone. -/
theorem executors_keep_to_their_intents {backing : Text} {start : Machine} {events : List Event}
    (started : start.Started backing) (guarded : Guarded (Machine.step backing) Undisturbed start events) :
    (∀ before after, events = before ++ after →
      (run (Machine.step backing) start before).OneMoving ∧
        (run (Machine.step backing) start before).LastPinsName backing) ∧
    ∀ before event after, events = before ++ event :: after →
      WritesOwnIntent (run (Machine.step backing) start before) event := by
  have preserved (machine : Machine) (event : Event) (exclusive : machine.Exclusive backing)
      (allowed : Undisturbed machine event) : (machine.step backing event).Exclusive backing :=
    exclusive.step allowed
  have reached (before after : List Event) (split : events = before ++ after) :
      (run (Machine.step backing) start before).Exclusive backing := by
    subst split
    exact guarded_run_invariant preserved guarded.before started.exclusive
  refine ⟨fun before after split => ?_, fun before event after split => ?_⟩
  · have exclusive := reached before after split
    exact ⟨exclusive.oneMoving, exclusive.lastPinsName⟩
  · exact (reached before (event :: after) split).writesOwnIntent event

def served (request : Request) (name steps : Nat) : List Event :=
  .request request :: List.replicate steps (.step name .ok)

def lunFile : Text := "/mnt/media/lun0.img".toList

/-- A target in service that no move was asked for. -/
def inService : Machine := ⟨⟨true, true, false, none⟩, []⟩

theorem inService_started : inService.Started lunFile := ⟨rfl, nofun⟩

def executing : List Event := served .quiesce 0 4 ++ served .record 1 3 ++ served .execute 2 4

/-- The executor has just unpinned. -/
def unpinning : List Event := executing ++ List.replicate 3 (.step 2 .ok)

def retried : List Event :=
  unpinning ++ [.step 2 .ok, .step 2 .ok, .step 2 .fails] ++ List.replicate 3 (.step 2 .ok) ++
    served .abort 3 2 ++ served .execute 4 4 ++ List.replicate 22 (.step 4 .ok)

theorem retried_keeps_to_its_intents :
    (inService.Started lunFile ∧ Guarded (Machine.step lunFile) Undisturbed inService retried) ∧
      ((∀ before after, retried = before ++ after →
        (run (Machine.step lunFile) inService before).OneMoving ∧
          (run (Machine.step lunFile) inService before).LastPinsName lunFile) ∧
      ∀ before event after, retried = before ++ event :: after →
        WritesOwnIntent (run (Machine.step lunFile) inService before) event) :=
  have guarded : Guarded (Machine.step lunFile) Undisturbed inService retried := by decide
  ⟨⟨inService_started, guarded⟩, executors_keep_to_their_intents inService_started guarded⟩

def executedTwice : List Event :=
  executing ++ served .abort 3 2 ++ served .execute 4 4 ++ List.replicate 3 (.step 2 .ok) ++
    List.replicate 3 (.step 4 .ok)

def abortedMidway : List Event := unpinning ++ served .abort 3 2 ++ [.step 2 .ok]

def clearedMidway : List Event :=
  unpinning ++ served .clear 3 1 ++ [.step 2 .ok, .step 2 .fails, .step 2 .ok, .step 2 .ok]

/-- Without the condition two executors move the file at once, a state is written onto an intent
that was aborted, and the last pin call of an executor names no file. -/
theorem requests_disturb_executors :
    ¬ (run (Machine.step lunFile) inService executedTwice).OneMoving ∧
      ¬ WritesOwnIntent (run (Machine.step lunFile) inService abortedMidway) (.step 2 .ok) ∧
      ¬ (run (Machine.step lunFile) inService clearedMidway).LastPinsName lunFile := by
  refine ⟨fun one => ?_, fun own => ?_, fun named => ?_⟩
  · exact absurd (one 2 4 (by decide) (by decide)) (by decide)
  · have stored : (run (Machine.step lunFile) inService abortedMidway).lun.intent =
        some ⟨lunFile, .planned, none⟩ := by decide
    obtain ⟨intent, found, owner⟩ := own
      ⟨.store .unpinned ⟨lunFile, .unpinned, none⟩, lunFile, true, none⟩ (by decide) rfl (by decide)
    rw [stored] at found
    cases found
    cases owner
  · have last := named 2 ⟨.done, [], true, some []⟩ (by decide) rfl rfl
    exact absurd last (by decide)

end Tierd.Iscsi.Moves
