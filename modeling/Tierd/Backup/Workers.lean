import Tierd.Data.Runs
import Tierd.Data.Text

namespace Tierd.Backup.Workers

open Tierd.Data List

/-- `runParallelRsyncMount` or `runParallelRsyncSSH`. -/
inductive Mode where
  | mount | ssh
deriving DecidableEq

/-- Where a worker stands in its loop. -/
inductive Worker where
  | select
  | prepare (unit : Text)
  | start (unit : Text)
  | running (unit : Text)
  | returned
deriving DecidableEq

/-- What `CombinedOutput` or the preparation of a unit returned. -/
inductive Verdict where
  | ok | canceled | failed
deriving DecidableEq

/-- Workers take units from a closed queue; results are read once all workers have returned. -/
structure State where
  queue : List Text
  workers : List Worker
  cancelled : Bool
  results : List (Text × Verdict)
  /-- The units whose rsync has exited with success. -/
  transferred : List Text
deriving DecidableEq

def begin (units : List Text) (parallelism : Nat) : State where
  queue := units
  workers := List.replicate (min parallelism units.length) .select
  cancelled := false
  results := []
  transferred := []

inductive Event where
  /-- A worker at its `select`; of two ready cases either may be taken. -/
  | select (index : Nat) (done : Bool)
  /-- The list file is written, or the directory of the unit made. -/
  | prepare (index : Nat) (succeeds : Bool)
  | start (index : Nat) (succeeds : Bool)
  /-- rsync exits; a success after the cancellation may be reported as the cancellation. -/
  | exit (index : Nat) (success noticed : Bool)
  | cancel

variable (mode : Mode)

def State.move (state : State) (index : Nat) (worker : Worker) : State :=
  { state with workers := state.workers.set index worker }

/-- The worker sends the result of a unit. Over SSH an error cancels all; on a mount the worker goes
on unless the work is cancelled. -/
def State.send (state : State) (index : Nat) (unit : Text) (verdict : Verdict) : State :=
  let sent := { state with results := state.results ++ [(unit, verdict)] }
  match mode with
  | .ssh =>
    if verdict = .ok then sent.move index .select
    else { sent.move index .returned with cancelled := true }
  | .mount => sent.move index (if state.cancelled then .returned else .select)

def step (state : State) : Event → State
  | .select index done =>
    if state.workers[index]? ≠ some .select then state
    else if done then if state.cancelled then state.move index .returned else state
    else
      match state.queue with
      | [] => state.move index .returned
      | unit :: rest => { state.move index (.prepare unit) with queue := rest }
  | .prepare index succeeds =>
    match state.workers[index]? with
    | some (.prepare unit) =>
      if succeeds then state.move index (.start unit)
      else { state.move index .returned with results := state.results ++ [(unit, .failed)] }
    | _ => state
  | .start index succeeds =>
    match state.workers[index]? with
    | some (.start unit) =>
      if state.cancelled then state.send mode index unit .canceled
      else if succeeds then state.move index (.running unit)
      else state.send mode index unit .failed
    | _ => state
  | .exit index success noticed =>
    match state.workers[index]? with
    | some (.running unit) =>
      if success then
        { state with transferred := state.transferred ++ [unit] }.send mode index unit
          (if state.cancelled ∧ noticed then .canceled else .ok)
      else state.send mode index unit .failed
    | _ => state
  | .cancel => { state with cancelled := true }

def Counts (verdict : Verdict) : Prop :=
  match mode with
  | .mount => verdict = .failed
  | .ssh => verdict ≠ .ok

instance (verdict : Verdict) : Decidable (Counts mode verdict) := by
  unfold Counts
  cases mode <;> infer_instance

def State.Failed (state : State) : Prop := ∃ result ∈ state.results, Counts mode result.2
deriving Decidable

/-- All workers have returned, so the collector ends. -/
def State.Ended (state : State) : Prop := ∀ worker ∈ state.workers, worker = .returned
deriving Decidable

/-- The function returns nil. -/
def State.ReturnsNil (state : State) : Prop := state.Ended ∧ ¬ state.Failed mode
deriving Decidable

def Worker.taken : Worker → Bool
  | .prepare _ | .start _ => true
  | _ => false

/-- A cancellation comes when an error has been reported, or when no unit waits: none is in the
queue, and on a mount none is with a worker that has not started rsync. -/
def LateCancel (state : State) : Event → Prop
  | .cancel =>
    state.Failed mode ∨ state.queue = [] ∧ (mode = .mount → ∀ worker ∈ state.workers, worker.taken = false)
  | .select _ _ | .prepare _ _ | .start _ _ | .exit _ _ _ => True

instance (state : State) : ∀ event, Decidable (LateCancel mode state event)
  | .cancel => inferInstanceAs (Decidable (_ ∨ _))
  | .select _ _ | .prepare _ _ | .start _ _ | .exit _ _ _ => isTrue trivial

def Worker.unit? : Worker → Option Text
  | .prepare unit | .start unit | .running unit => some unit
  | _ => none

structure Accounted (units : List Text) (state : State) : Prop where
  covered : ∀ unit ∈ units, unit ∈ state.queue ∨ (∃ worker ∈ state.workers, worker.unit? = some unit) ∨
    unit ∈ state.transferred
  drained : .returned ∈ state.workers → state.queue = []
  late : state.cancelled = true →
    state.queue = [] ∧ (mode = .mount → ∀ worker ∈ state.workers, worker.taken = false)

section Step

variable {mode} {units : List Text} {state : State} {index : Nat} {unit : Text}

@[simp] theorem move_results {worker : Worker} : (state.move index worker).results = state.results := rfl

@[simp] theorem send_results {verdict : Verdict} :
    (state.send mode index unit verdict).results = state.results ++ [(unit, verdict)] := by
  unfold State.send
  cases mode with
  | mount => rfl
  | ssh =>
    dsimp only
    split <;> rfl

theorem results_grow (mode : Mode) (state : State) (event : Event) :
    ∃ more, (step mode state event).results = state.results ++ more := by
  have unchanged : ∃ more, state.results = state.results ++ more := ⟨[], (append_nil _).symm⟩
  cases event with
  | select index done =>
    simp only [step]
    split_ifs
    · exact unchanged
    · exact unchanged
    · exact unchanged
    · split
      · exact unchanged
      · exact unchanged
  | prepare index succeeds =>
    simp only [step]
    split
    · split_ifs
      · exact unchanged
      · exact ⟨_, rfl⟩
    · exact unchanged
  | start index succeeds =>
    simp only [step]
    split
    · split_ifs
      · exact ⟨_, send_results⟩
      · exact unchanged
      · exact ⟨_, send_results⟩
    · exact unchanged
  | exit index success noticed =>
    simp only [step]
    split
    · split_ifs
      all_goals exact ⟨_, send_results⟩
    · exact unchanged
  | cancel => exact unchanged

/-- An error stays reported. -/
theorem State.Failed.step (failed : state.Failed mode) (event : Event) : (step mode state event).Failed mode := by
  obtain ⟨more, grown⟩ := results_grow mode state event
  obtain ⟨result, member, counts⟩ := failed
  exact ⟨result, grown ▸ mem_append_left more member, counts⟩

theorem failed_of_send {verdict : Verdict} (counts : Counts mode verdict) :
    (state.send mode index unit verdict).Failed mode :=
  ⟨(unit, verdict), by simp, counts⟩

theorem counts_failed : Counts mode .failed := by
  cases mode with
  | mount => rfl
  | ssh => exact nofun

theorem held_after_set {workers : List Worker} {old new : Worker} (here : workers[index]? = some old)
    (held : ∃ worker ∈ workers, worker.unit? = some unit) :
    old.unit? = some unit ∨ ∃ worker ∈ workers.set index new, worker.unit? = some unit := by
  obtain ⟨worker, member, holds⟩ := held
  obtain ⟨place, found⟩ := mem_iff_getElem?.mp member
  by_cases same : index = place
  · subst same
    obtain rfl := Option.some.inj (here.symm.trans found)
    exact .inl holds
  · refine .inr ⟨worker, mem_iff_getElem?.mpr ⟨place, ?_⟩, holds⟩
    rw [List.getElem?_set_ne same, found]

theorem mem_set_new {workers : List Worker} {old : Worker} (here : workers[index]? = some old) (new : Worker) :
    new ∈ workers.set index new := by
  obtain ⟨inside, _⟩ := List.getElem?_eq_some_iff.mp here
  exact mem_iff_getElem?.mpr ⟨index, List.getElem?_set_self inside⟩

theorem Accounted.moved (accounted : Accounted mode units state) {old new : Worker} {after : State}
    (here : state.workers[index]? = some old) (workers : after.workers = state.workers.set index new)
    (queue : after.queue = state.queue) (cancelled : after.cancelled = state.cancelled)
    (transferred : state.transferred ⊆ after.transferred)
    (keeps : ∀ unit, old.unit? = some unit → new.unit? = some unit ∨ unit ∈ after.transferred)
    (returns : new = .returned → state.queue = [])
    (untaken : state.cancelled = true → mode = .mount → new.taken = false) : Accounted mode units after where
  covered unit member := by
    rw [queue, workers]
    rcases accounted.covered unit member with waits | held | done
    · exact .inl waits
    · rcases held_after_set here held with own | other
      · rcases keeps unit own with holds | done
        · exact .inr (.inl ⟨new, mem_set_new here new, holds⟩)
        · exact .inr (.inr done)
      · exact .inr (.inl other)
    · exact .inr (.inr (transferred done))
  drained gone := by
    rw [queue]
    rw [workers] at gone
    rcases mem_or_eq_of_mem_set gone with old | same
    · exact accounted.drained old
    · exact returns same.symm
  late stopped := by
    rw [cancelled] at stopped
    obtain ⟨empty, started⟩ := accounted.late stopped
    refine ⟨queue ▸ empty, fun mounted worker member => ?_⟩
    rw [workers] at member
    rcases mem_or_eq_of_mem_set member with old | same
    · exact started mounted worker old
    · exact same ▸ untaken stopped mounted

theorem Accounted.not_taken (accounted : Accounted mode units state) {worker : Worker}
    (here : state.workers[index]? = some worker) (taken : worker.taken = true) (stopped : state.cancelled = true) :
    mode ≠ .mount := by
  intro mounted
  have untaken := (accounted.late stopped).2 mounted worker (mem_of_getElem? here)
  simp [taken] at untaken

theorem Accounted.sent (accounted : Accounted mode units state) (here : state.workers[index]? = some (.running unit))
    {verdict : Verdict} (fine : ¬ Counts mode verdict) :
    Accounted mode units
      ({ state with transferred := state.transferred ++ [unit] }.send mode index unit verdict) := by
  have kept : state.transferred ⊆ state.transferred ++ [unit] := subset_append_left _ _
  have done (new : Worker) (other : Text) (holds : (Worker.running unit).unit? = some other) :
      new.unit? = some other ∨ other ∈ state.transferred ++ [unit] := by
    obtain rfl := Option.some.inj holds
    exact .inr (mem_append_right _ (mem_singleton_self unit))
  cases mode with
  | mount =>
    by_cases stopped : state.cancelled = true
    · have returns : (State.send .mount { state with transferred := state.transferred ++ [unit] } index unit
          verdict).workers = state.workers.set index .returned := by simp [State.send, State.move, stopped]
      exact accounted.moved here returns rfl rfl kept (done _) (fun _ => (accounted.late stopped).1) fun _ _ => rfl
    · have selects : (State.send .mount { state with transferred := state.transferred ++ [unit] } index unit
          verdict).workers = state.workers.set index .select := by simp [State.send, State.move, stopped]
      exact accounted.moved here selects rfl rfl kept (done _) nofun fun _ _ => rfl
  | ssh =>
    have ok : verdict = .ok := by simpa [Counts] using fine
    subst ok
    have selects : (State.send .ssh { state with transferred := state.transferred ++ [unit] } index unit
        .ok).workers = state.workers.set index .select := rfl
    exact accounted.moved here selects rfl rfl kept (done _) nofun fun _ _ => rfl

theorem Accounted.step (accounted : Accounted mode units state) {event : Event} (late : LateCancel mode state event) :
    (step mode state event).Failed mode ∨ Accounted mode units (step mode state event) := by
  cases event with
  | select index done =>
    simp only [Workers.step]
    split_ifs with elsewhere chosen stopped
    · exact .inr accounted
    · have here := not_not.mp elsewhere
      refine .inr (accounted.moved here rfl rfl rfl (List.Subset.refl _) nofun (fun _ => ?_) fun _ _ => rfl)
      exact (accounted.late stopped).1
    · exact .inr accounted
    · have here := not_not.mp elsewhere
      split
      case h_1 empty =>
        exact .inr (accounted.moved here rfl rfl rfl (List.Subset.refl _) nofun (fun _ => empty) fun _ _ => rfl)
      case h_2 unit rest waiting =>
        refine .inr ⟨fun other member => ?_, fun gone => ?_, fun stopped => ?_⟩
        · rcases accounted.covered other member with waits | held | finished
          · rw [waiting] at waits
            rcases mem_cons.mp waits with rfl | later
            · exact .inr (.inl ⟨_, mem_set_new here (.prepare other), rfl⟩)
            · exact .inl later
          · exact .inr (.inl ((held_after_set here held).resolve_left nofun))
          · exact .inr (.inr finished)
        · rcases mem_or_eq_of_mem_set gone with old | same
          · exact absurd (waiting.symm.trans (accounted.drained old)) (cons_ne_nil _ _)
          · cases same
        · exact absurd (waiting.symm.trans (accounted.late stopped).1) (cons_ne_nil _ _)
  | prepare index succeeds =>
    simp only [Workers.step]
    split
    case h_1 unit here =>
      split_ifs
      · refine .inr (accounted.moved here rfl rfl rfl (List.Subset.refl _) (fun _ => .inl) nofun
          fun stopped mounted => ?_)
        exact absurd mounted (accounted.not_taken here rfl stopped)
      · exact .inl ⟨(unit, .failed), mem_append_right _ (mem_singleton_self _), counts_failed⟩
    case h_2 => exact .inr accounted
  | start index succeeds =>
    simp only [Workers.step]
    split
    case h_1 unit here =>
      split_ifs with stopped
      · refine .inl (failed_of_send ?_)
        cases mode with
        | mount => exact absurd rfl (accounted.not_taken here rfl stopped)
        | ssh => exact nofun
      · refine .inr (accounted.moved here rfl rfl rfl (List.Subset.refl _) (fun _ => .inl) nofun fun now _ => ?_)
        exact absurd now stopped
      · exact .inl (failed_of_send counts_failed)
    case h_2 => exact .inr accounted
  | exit index success noticed =>
    simp only [Workers.step]
    split
    case h_1 unit here =>
      split_ifs with ended seen
      · by_cases counts : Counts mode .canceled
        · exact .inl (failed_of_send counts)
        · exact .inr (accounted.sent here counts)
      · refine .inr (accounted.sent here ?_)
        cases mode with
        | mount => exact nofun
        | ssh => exact fun wrong => wrong rfl
      · exact .inl (failed_of_send counts_failed)
    case h_2 => exact .inr accounted
  | cancel => exact late.imp (fun failed => failed) fun drained =>
    ⟨accounted.covered, accounted.drained, fun _ => drained⟩

end Step

theorem accounted_begin (mode : Mode) (units : List Text) (parallelism : Nat) :
    Accounted mode units (begin units parallelism) where
  covered _ member := .inl member
  drained gone := by simp [begin] at gone
  late stopped := by simp [begin] at stopped

theorem length_send (state : State) (index : Nat) (unit : Text) (verdict : Verdict) :
    (state.send mode index unit verdict).workers.length = state.workers.length := by
  unfold State.send
  cases mode with
  | mount => exact length_set
  | ssh =>
    dsimp only
    split
    · exact length_set
    · exact length_set

theorem length_workers (state : State) (event : Event) :
    (step mode state event).workers.length = state.workers.length := by
  cases event <;> simp only [step] <;> repeat' split
  all_goals simp [State.move, length_send]

/-- A function that returns nil has transferred every unit, when every cancellation of the run is
late. The two callers start more than one worker. -/
theorem returns_nil_transferred {units : List Text} {parallelism : Nat} {events : List Event}
    (several : 1 < parallelism) (late : Guarded (step mode) (LateCancel mode) (begin units parallelism) events)
    (done : (run (step mode) (begin units parallelism) events).ReturnsNil mode) :
    ∀ unit ∈ units, unit ∈ (run (step mode) (begin units parallelism) events).transferred := by
  have preserved : ∀ state event, (state.Failed mode ∨ Accounted mode units state) → LateCancel mode state event →
      ((step mode state event).Failed mode ∨ Accounted mode units (step mode state event)) := by
    rintro state event (failed | accounted) lateNow
    · exact .inl (failed.step event)
    · exact accounted.step lateNow
  have accounted := (guarded_run_invariant preserved late (.inr (accounted_begin mode units parallelism))).resolve_left
    done.2
  have lengths : ∀ state event, state.workers.length = min parallelism units.length →
      (step mode state event).workers.length = min parallelism units.length :=
    fun state event same => (length_workers mode state event).trans same
  have initially : (begin units parallelism).workers.length = min parallelism units.length := length_replicate
  have workers := run_invariant lengths events initially
  intro unit member
  have some_unit := length_pos_of_mem member
  obtain ⟨worker, works⟩ := exists_mem_of_length_pos (workers.symm ▸ (by omega : 0 < min parallelism units.length))
  have drained := accounted.drained (done.1 worker works ▸ works)
  rcases accounted.covered unit member with waits | ⟨holder, holds, mine⟩ | transferred
  · simp [drained] at waits
  · rw [done.1 holder holds] at mine
    cases mine
  · exact transferred

/-- Two workers copy two units; the work is cancelled when the second unit is already with rsync. -/
theorem two_units_transferred :
    let events : List Event := [.select 0 false, .prepare 0 true, .start 0 true, .select 1 false, .prepare 1 true,
      .start 1 true, .cancel, .exit 1 true true, .exit 0 true false, .select 0 true]
    1 < 2 ∧ Guarded (step .mount) (LateCancel .mount) (begin [['a'], ['b']] 2) events ∧
      (run (step .mount) (begin [['a'], ['b']] 2) events).ReturnsNil .mount ∧
      ∀ unit ∈ [['a'], ['b']], unit ∈ (run (step .mount) (begin [['a'], ['b']] 2) events).transferred :=
  ⟨by decide, by decide, by decide, returns_nil_transferred .mount (by decide) (by decide) (by decide)⟩

/-- A cancellation before the workers have taken a unit: they return in silence, and the function
returns nil. -/
theorem cancelled_before_the_first_unit :
    let after (mode : Mode) := run (step mode) (begin [['a'], ['b']] 2) [.cancel, .select 0 true, .select 1 true]
    ((after .mount).ReturnsNil .mount ∧ (after .mount).transferred = []) ∧
      (after .ssh).ReturnsNil .ssh ∧ (after .ssh).transferred = [] := by
  decide

end Tierd.Backup.Workers
