import Tierd.Iscsi.OneExecutor

namespace Tierd.Iscsi.Moves

open Tierd.Data

structure Lun.Calm (lun : Lun) : Prop where
  pinned : lun.enabled = true → lun.pinned = true
  closed : lun.quiesced = true → lun.enabled = false

def Thread.reopened : Thread → Bool
  | .portal false .saveConfig | .portal false .flag => true
  | .executor ⟨.saveConfig, _, _, _⟩ | .executor ⟨.flag, _, _, _⟩ => true
  | _ => false

/-- A step whose answer the thread could only misread: a probe that reports the file of a
resume as outside smoothfs, a pin that was left out, a lost path. -/
def Thread.misled (lun : Lun) (outcome : Outcome) : Thread → Bool
  | .portal false .inspect => outcome = .absent && !lun.pinned
  | .executor ⟨.transition next, _, _, _⟩ => next.copying && outcome = .fails
  | .executor ⟨.repin, _, _, _⟩ => outcome = .absent
  | _ => false

/-- Requests come one at a time and not under an executor; no answer misleads a thread; and
nothing fails, and no crash comes, between enabling the group and taking back the flag. -/
def Serialized (machine : Machine) : Event → Prop
  | .request _ => ∀ thread ∈ machine.threads, thread.idle = true
  | .step name outcome =>
    (machine.thread name).misled machine.lun outcome = false ∧
      ((machine.thread name).reopened = true → outcome = .fails → machine.lun.quiesced = false)
  | .restart _ => ∀ thread ∈ machine.threads, thread.reopened = true → machine.lun.quiesced = false

instance (machine : Machine) : (event : Event) → Decidable (Serialized machine event)
  | .request _ | .step _ _ | .restart _ => by unfold Serialized; infer_instance

/-- An executor unpins or copies only while the group is disabled. -/
def MovesWhileClosed (machine : Machine) : Event → Prop
  | .step name _ =>
    ∀ mover, machine.thread name = .executor mover → mover.stage = .unpin ∨ mover.stage = .copy →
      machine.lun.enabled = false
  | .request _ | .restart _ => True

inductive Reliance where
  | calm | closed | reopening | reopened
deriving DecidableEq

def Reliance.Holds (lun : Lun) : Reliance → Prop
  | .calm => lun.Calm
  | .closed => lun.enabled = false
  | .reopening => lun.Calm ∧ lun.pinned = true
  | .reopened => lun.pinned = true

def Stage.reliance : Stage → Reliance
  | .transition next | .store next _ =>
    if next.copying then .closed else if next = .repinning then .reopening else .calm
  | .resume => .reopening
  | .saveConfig | .flag => .reopened
  | .fail | .storeFailed _ | .done => .calm
  | .prepare | .openClient | .unpin | .plan | .inspect | .copy | .cutover | .waitCleanup | .repin | .rollback => .closed

def Thread.reliance : Thread → Reliance
  | .portal true .saveConfig | .portal true .flag => .closed
  | .portal false .switch => .reopening
  | .portal false .saveConfig | .portal false .flag => .reopened
  | .portal _ _ => .calm
  | .journal (.checkPin _) | .journal (.persist _) => .closed
  | .journal _ => .calm
  | .executor mover => mover.stage.reliance
  | .finished => .calm

section Reliances

variable {backing : Text} {name : Nat} {lun : Lun} {outcome : Outcome} {thread : Thread}

theorem Lun.calm_of_closed (closed : lun.enabled = false) : lun.Calm :=
  ⟨fun live => by simp [closed] at live, fun _ => closed⟩

theorem Reliance.Holds.safe {reliance : Reliance} (holds : reliance.Holds lun) (live : lun.enabled = true) :
    lun.pinned = true := by
  cases reliance with
  | calm => exact holds.pinned live
  | closed => exact absurd (holds.symm.trans live) Bool.false_ne_true
  | reopening => exact holds.2
  | reopened => exact holds

theorem Thread.reopened_of_reliance (reliance : thread.reliance = .reopened) : thread.reopened = true := by
  cases thread with
  | portal quiesce step => cases quiesce <;> cases step <;> first | rfl | cases reliance
  | journal step => cases step <;> cases reliance
  | executor mover =>
    obtain ⟨stage, path, unpinned, lastPin⟩ := mover
    cases stage with
    | saveConfig | flag => rfl
    | transition next | store next held => cases next <;> cases reliance
    | _ => cases reliance
  | finished => cases reliance

theorem Thread.calm_of_reliance (holds : thread.reliance.Holds lun)
    (safe : thread.reopened = true → lun.quiesced = false) : lun.Calm := by
  cases reliance : thread.reliance with
  | calm =>
    rw [reliance] at holds
    exact holds
  | closed =>
    rw [reliance] at holds
    exact Lun.calm_of_closed holds
  | reopening =>
    rw [reliance] at holds
    exact holds.1
  | reopened =>
    have cleared := safe (Thread.reopened_of_reliance reliance)
    rw [reliance] at holds
    exact ⟨fun _ => holds, fun set => by simp [cleared] at set⟩

theorem portalStep_reliance {quiesce : Bool} {step : PortalStep}
    (holds : (Thread.portal quiesce step).reliance.Holds lun)
    (clear : (Thread.portal quiesce step).misled lun outcome = false)
    (window : (Thread.portal quiesce step).reopened = true → outcome = .fails → lun.quiesced = false) :
    (portalStep lun outcome quiesce step).2.reliance.Holds (portalStep lun outcome quiesce step).1 := by
  by_cases failed : outcome = .fails
  · have ends : portalStep lun outcome quiesce step = (lun, .finished) := by
      subst failed
      cases step <;> rfl
    rw [ends]
    exact Thread.calm_of_reliance holds fun reopened => window reopened failed
  cases step with
  | inspect =>
    have calm : lun.Calm := by cases quiesce <;> exact holds
    simp only [portalStep]
    split
    · exact calm
    · next passed =>
        cases quiesce with
        | true => exact calm
        | false =>
          refine ⟨calm, ?_⟩
          cases outcome with
          | ok => simpa [Lun.inspectLUNPin] using passed
          | fails => exact absurd rfl failed
          | absent => simpa [Thread.misled] using clear
  | switch =>
    simp only [portalStep, if_neg failed]
    cases quiesce with
    | true => rfl
    | false => exact holds.2
  | saveConfig =>
    simp only [portalStep, if_neg failed]
    cases quiesce <;> exact holds
  | flag =>
    simp only [portalStep, if_neg failed]
    cases quiesce with
    | true => exact Lun.calm_of_closed holds
    | false => exact ⟨fun _ => holds, fun set => absurd set Bool.false_ne_true⟩

theorem journalStep_reliance {step : JournalStep} (holds : (Thread.journal step).reliance.Holds lun) :
    (journalStep backing name lun outcome step).2.reliance.Holds (journalStep backing name lun outcome step).1 := by
  cases step with
  | clear =>
    simp only [journalStep]
    split
    · exact holds
    · exact ⟨holds.pinned, holds.closed⟩
  | readPlanned | readAbortable =>
    simp only [journalStep]
    split
    · exact holds
    · split <;> exact holds
  | checkQuiesced purpose =>
    simp only [journalStep]
    split
    · exact holds
    · next passed =>
        have quiesced : lun.quiesced = true := by simpa using (not_or.mp passed).2
        exact holds.closed quiesced
  | checkPin purpose =>
    simp only [journalStep]
    split
    · exact Lun.calm_of_closed holds
    · exact holds
  | persist purpose =>
    cases purpose with
    | record => exact Lun.calm_of_closed holds
    | execute intent =>
      simp only [journalStep]
      split
      · exact Lun.calm_of_closed holds
      · exact holds
  | persistAborted intent => exact ⟨holds.pinned, holds.closed⟩

theorem Stage.reliance_after (next : MoveState) (held : Intent) :
    (Stage.after next).reliance = (Stage.store next held).reliance := by
  cases next <;> rfl

theorem Reliance.Holds.persist {reliance : Reliance} {intent : Intent} (holds : reliance.Holds lun) :
    reliance.Holds (lun.persist intent outcome) := by
  cases reliance with
  | calm => exact ⟨holds.pinned, holds.closed⟩
  | closed => exact holds
  | reopening => exact ⟨⟨holds.1.pinned, holds.1.closed⟩, holds.2⟩
  | reopened => exact holds

theorem executorStep_reliance {mover : Executor} (holds : mover.stage.reliance.Holds lun)
    (sound : mover.Sound backing name lun)
    (clear : (Thread.executor mover).misled lun outcome = false)
    (window : (Thread.executor mover).reopened = true → outcome = .fails → lun.quiesced = false) :
    (executorStep backing lun outcome mover).2.stage.reliance.Holds (executorStep backing lun outcome mover).1 := by
  have path := sound.named
  obtain ⟨stage, file, unpinned, lastPin⟩ := mover
  cases stage with
  | prepare =>
    simp only [executorStep]
    split
    · exact Lun.calm_of_closed holds
    · split
      · exact Lun.calm_of_closed holds
      · exact holds
  | openClient =>
    simp only [executorStep]
    split
    · exact Lun.calm_of_closed holds
    · exact holds
  | unpin =>
    simp only [executorStep]
    split
    · exact Lun.calm_of_closed holds
    · exact holds
  | transition next =>
    have after : (Stage.after next).reliance.Holds lun := by
      rw [Stage.reliance_after next ⟨[], next, none⟩]
      exact holds
    simp only [executorStep]
    split
    · exact after
    · split
      · exact after
      · exact holds
  | store next held =>
    simp only [executorStep]
    rw [Stage.reliance_after next held]
    exact holds.persist
  | plan | inspect | copy | cutover | waitCleanup =>
    simp only [executorStep, Executor.attempt]
    split <;> exact holds
  | repin =>
    simp only [executorStep]
    split
    · exact Lun.calm_of_closed holds
    · next worked =>
        have ok : outcome = .ok := by
          cases outcome with
          | ok => rfl
          | fails => exact absurd rfl worked
          | absent => simp [Thread.misled] at clear
        refine ⟨Lun.calm_of_closed holds, ?_⟩
        simp [Lun.setPin, ok, show file = backing from path rfl]
  | resume =>
    simp only [executorStep]
    split
    · exact holds.1
    · exact holds.2
  | saveConfig =>
    simp only [executorStep]
    split
    · next failed => exact ⟨fun _ => holds, fun set => by simp [window rfl failed] at set⟩
    · exact holds
  | flag =>
    simp only [executorStep]
    split
    · next failed => exact ⟨fun _ => holds, fun set => by simp [window rfl failed] at set⟩
    · exact ⟨fun _ => holds, fun set => absurd set Bool.false_ne_true⟩
  | rollback => exact Lun.calm_of_closed holds
  | fail =>
    simp only [executorStep]
    split
    · exact holds
    · split <;> exact holds
  | storeFailed held => exact holds.persist
  | done => exact holds

theorem Thread.step_reliance (holds : thread.reliance.Holds lun) (sound : thread.Sound backing name lun)
    (clear : thread.misled lun outcome = false)
    (window : thread.reopened = true → outcome = .fails → lun.quiesced = false) :
    (thread.step backing name lun outcome).2.reliance.Holds (thread.step backing name lun outcome).1 := by
  cases thread with
  | portal quiesce step => exact portalStep_reliance holds clear window
  | journal step => exact journalStep_reliance holds
  | executor mover => exact executorStep_reliance holds sound clear window
  | finished => exact holds

theorem Thread.reliance_of_idle (idle : thread.idle = true) : thread.reliance = .calm := by
  cases thread with
  | executor mover =>
    have done : mover.stage = .done := by simpa [Thread.idle] using idle
    simp only [Thread.reliance, done, Stage.reliance]
  | finished => rfl
  | portal quiesce step | journal step => cases idle

theorem Request.thread_reliance (request : Request) : request.thread.reliance = .calm := by
  cases request <;> rfl

theorem Lun.Calm.recover (calm : lun.Calm) (recovery : Recovery) :
    (lun.recoverActiveLUNMoveIntents backing recovery).Calm := by
  simp only [Lun.recoverActiveLUNMoveIntents]
  split
  · exact calm
  · split
    · refine ⟨fun live => ?_, calm.closed⟩
      simp only [Lun.persist, Lun.setPin] at live ⊢
      split
      · rfl
      · exact calm.pinned live
    · exact calm

theorem Thread.step_idle (idle : thread.idle = true) : thread.step backing name lun outcome = (lun, thread) := by
  cases thread with
  | executor mover =>
    have done : mover.stage = .done := by simpa [Thread.idle] using idle
    simp only [Thread.step, executorStep, done]
  | finished => rfl
  | portal quiesce step | journal step => cases idle

end Reliances

def Machine.Sheltered (machine : Machine) : Prop :=
  ∃ active, (∀ other, other ≠ active → (machine.thread other).idle = true) ∧
    (machine.thread active).reliance.Holds machine.lun

section Process

variable {backing : Text} {machine : Machine}

theorem Serialized.undisturbed {event : Event} (allowed : Serialized machine event) : Undisturbed machine event := by
  cases event with
  | request request => exact fun _ thread member => Thread.not_journaling_of_idle (allowed thread member)
  | restart recovery => trivial
  | step name outcome =>
    have clear := allowed.1
    simp only [Undisturbed]
    split
    · next found => simpa [found, Thread.misled] using clear
    · trivial

theorem Machine.Sheltered.request {request : Request} (sheltered : machine.Sheltered)
    (allowed : Serialized machine (.request request)) : (machine.step backing (.request request)).Sheltered := by
  obtain ⟨active, -, holds⟩ := sheltered
  have idle (name : Nat) : (machine.thread name).idle = true :=
    Machine.thread_of_forall (·.idle = true) rfl allowed name
  refine ⟨machine.threads.length, fun other older => ?_, ?_⟩
  · rw [Machine.thread_request_ne older]
    exact idle other
  · rw [Machine.thread_request, request.thread_reliance]
    rwa [Thread.reliance_of_idle (idle active)] at holds

theorem Machine.Sheltered.advance {name : Nat} {outcome : Outcome} (sheltered : machine.Sheltered)
    (exclusive : machine.Exclusive backing) (allowed : Serialized machine (.step name outcome)) :
    (machine.step backing (.step name outcome)).Sheltered := by
  obtain ⟨active, others, holds⟩ := sheltered
  refine ⟨active, fun other inactive => ?_, ?_⟩
  · by_cases same : other = name
    · subst same
      rw [Machine.thread_step, Thread.step_idle (others other inactive)]
      exact others other inactive
    · rw [Machine.thread_step_ne same]
      exact others other inactive
  · by_cases same : active = name
    · subst same
      rw [Machine.thread_step]
      exact Thread.step_reliance holds (exclusive.sound active) allowed.1 allowed.2
    · rw [Machine.thread_step_ne same, Machine.step_lun, Thread.step_idle (others name (Ne.symm same))]
      exact holds

theorem Machine.Sheltered.restart {recovery : Recovery} (sheltered : machine.Sheltered)
    (allowed : Serialized machine (.restart recovery)) : (machine.step backing (.restart recovery)).Sheltered := by
  obtain ⟨active, others, holds⟩ := sheltered
  have idle (name : Nat) : ((machine.step backing (.restart recovery)).thread name).idle = true := by
    rw [Machine.thread_restart]
    split
    · assumption
    · rfl
  have window : (machine.thread active).reopened = true → machine.lun.quiesced = false :=
    Machine.thread_of_forall (fun thread => thread.reopened = true → machine.lun.quiesced = false) nofun allowed active
  refine ⟨active, fun other _ => idle other, ?_⟩
  rw [Thread.reliance_of_idle (idle active)]
  exact (Thread.calm_of_reliance holds window).recover recovery

theorem Machine.Sheltered.step {event : Event} (sheltered : machine.Sheltered) (exclusive : machine.Exclusive backing)
    (allowed : Serialized machine event) : (machine.step backing event).Sheltered := by
  cases event with
  | request request => exact sheltered.request allowed
  | step name outcome => exact sheltered.advance exclusive allowed
  | restart recovery => exact sheltered.restart allowed

theorem Machine.Started.sheltered (started : machine.Started backing) (calm : machine.lun.Calm) :
    machine.Sheltered := by
  have finished : ∀ name, machine.thread name = .finished := by simp [Machine.thread, started.idle]
  refine ⟨0, fun other _ => ?_, ?_⟩
  · rw [finished other]
    rfl
  · rw [finished 0]
    exact calm

theorem Machine.Sheltered.movesWhileClosed (sheltered : machine.Sheltered) (event : Event) :
    MovesWhileClosed machine event := by
  obtain ⟨active, others, holds⟩ := sheltered
  cases event with
  | request request => trivial
  | restart recovery => trivial
  | step name outcome =>
    rintro ⟨stage, path, unpinned, lastPin⟩ found touches
    have same : name = active := by
      by_contra inactive
      have idle := others name inactive
      rcases touches with rfl | rfl <;> simp [found, Thread.idle] at idle
    subst same
    rw [found] at holds
    rcases touches with rfl | rfl <;> exact holds

end Process

/-- Along a run whose requests come one at a time, with no misleading answer and nothing lost
between the portal group and its flag. -/
theorem live_target_is_pinned {backing : Text} {start : Machine} {events : List Event}
    (started : start.Started backing) (calm : start.lun.Calm)
    (guarded : Guarded (Machine.step backing) Serialized start events) :
    (∀ before after, events = before ++ after →
      (run (Machine.step backing) start before).lun.enabled = true →
        (run (Machine.step backing) start before).lun.pinned = true) ∧
    ∀ before event after, events = before ++ event :: after →
      MovesWhileClosed (run (Machine.step backing) start before) event := by
  have preserved (machine : Machine) (event : Event) (sound : machine.Exclusive backing ∧ machine.Sheltered)
      (allowed : Serialized machine event) :
      (machine.step backing event).Exclusive backing ∧ (machine.step backing event).Sheltered :=
    ⟨sound.1.step allowed.undisturbed, sound.2.step sound.1 allowed⟩
  have reached (before after : List Event) (split : events = before ++ after) :
      (run (Machine.step backing) start before).Sheltered := by
    subst split
    exact (guarded_run_invariant preserved guarded.before ⟨started.exclusive, started.sheltered calm⟩).2
  refine ⟨fun before after split live => ?_, fun before event after split => ?_⟩
  · obtain ⟨active, -, holds⟩ := reached before after split
    exact holds.safe live
  · exact (reached before (event :: after) split).movesWhileClosed event

def crashedMidway : List Event :=
  unpinning ++ [.step 2 .ok, .step 2 .ok, .step 2 .ok, .restart ⟨true, .ok, false, .ok⟩] ++ served .abort 3 2 ++
    served .execute 4 4 ++ List.replicate 22 (.step 4 .ok) ++ served .clear 5 1

theorem crashedMidway_keeps_live_target_pinned :
    (inService.Started lunFile ∧ inService.lun.Calm ∧
      Guarded (Machine.step lunFile) Serialized inService crashedMidway) ∧
      ((∀ before after, crashedMidway = before ++ after →
        (run (Machine.step lunFile) inService before).lun.enabled = true →
          (run (Machine.step lunFile) inService before).lun.pinned = true) ∧
      ∀ before event after, crashedMidway = before ++ event :: after →
        MovesWhileClosed (run (Machine.step lunFile) inService before) event) :=
  have guarded : Guarded (Machine.step lunFile) Serialized inService crashedMidway := by decide
  have calm : inService.lun.Calm := ⟨fun _ => rfl, nofun⟩
  ⟨⟨inService_started, calm, guarded⟩, live_target_is_pinned inService_started calm guarded⟩

def resumedMidway : List Event :=
  executing ++ [.step 2 .ok, .step 2 .ok] ++ served .resume 3 4 ++ [.step 2 .ok]

def clearedThenResumed : List Event := unpinning ++ served .clear 3 1 ++ List.replicate 11 (.step 2 .ok)

def flagLost : List Event :=
  served .quiesce 0 4 ++ [.request .resume, .step 1 .ok, .step 1 .ok, .step 1 .ok, .step 1 .fails] ++
    served .record 2 3 ++ served .execute 3 4 ++ [.step 3 .ok, .step 3 .ok]

/-- Without the condition a request, a cleared intent or a failed write leaves a live target
unpinned. -/
theorem live_target_loses_its_pin :
    (run (Machine.step lunFile) inService resumedMidway).lun =
        ⟨true, false, false, some ⟨lunFile, .executing, some 2⟩⟩ ∧
      (run (Machine.step lunFile) inService clearedThenResumed).lun = ⟨true, false, true, none⟩ ∧
      ¬ MovesWhileClosed (run (Machine.step lunFile) inService flagLost) (.step 3 .ok) := by
  refine ⟨by decide, by decide, fun closed => ?_⟩
  have disabled := closed ⟨.unpin, lunFile, false, none⟩ (by decide) (.inl rfl)
  exact absurd disabled (by decide)

end Tierd.Iscsi.Moves
