import Tierd.Data.Runs
import Tierd.Data.Text

namespace Tierd.Iscsi.Moves

open Tierd.Data

/-- `iscsiLUNMoveIntentState…`. -/
inductive MoveState where
  | planned | executing | unpinned | moving | cutover | repinning | completed | failed
deriving DecidableEq, Repr

def MoveState.nonTerminal : MoveState → Bool
  | .executing | .unpinned | .moving | .cutover | .repinning => true
  | .planned | .completed | .failed => false

def MoveState.abortable (state : MoveState) : Bool := state.nonTerminal || state = .failed

/-- The journaled intent.  `owner` is not stored by the program: it names the executor that was
started for the intent, until the intent is aborted or replaced. -/
structure Intent where
  backingFile : Text
  state : MoveState
  owner : Option Nat
deriving DecidableEq, Repr

/-- How a call ends.  `absent` is the answer of `statfs` for a path that is not there: the pin
calls take it for a path outside smoothfs; any other call treats it as `ok`. -/
inductive Outcome where
  | ok | fails | absent
deriving DecidableEq, Repr

structure Lun where
  enabled : Bool
  pinned : Bool
  quiesced : Bool
  intent : Option Intent
deriving DecidableEq, Repr

structure LUNPinStatus where
  onSmoothfs : Bool
  pinned : Bool
deriving DecidableEq, Repr

/-- `InspectLUNPin` of the backing file: a failed probe reports a path outside smoothfs, a failed
read of the attribute a file without the pin. -/
def Lun.inspectLUNPin (lun : Lun) : Outcome → LUNPinStatus
  | .ok => ⟨true, lun.pinned⟩
  | .fails => ⟨true, false⟩
  | .absent => ⟨false, false⟩

/-- `PinLUN` and `UnpinLUN`: only a call that names the backing file changes its attribute. -/
def Lun.setPin (lun : Lun) (backing path : Text) (pinned : Bool) (outcome : Outcome) : Lun :=
  { lun with pinned := if outcome = .ok ∧ path = backing then pinned else lun.pinned }

def Lun.persist (lun : Lun) (intent : Intent) (outcome : Outcome) : Lun :=
  { lun with intent := if outcome = .fails then lun.intent else some intent }

/-- The steps of `setISCSIFileTargetQuiesced`, each named by the call that is next. -/
inductive PortalStep where
  | inspect | switch | saveConfig | flag
deriving DecidableEq, Repr

inductive Purpose where
  | record
  | execute (intent : Intent)
deriving DecidableEq, Repr

inductive JournalStep where
  | clear
  | readPlanned
  | checkQuiesced (purpose : Purpose)
  | checkPin (purpose : Purpose)
  | persist (purpose : Purpose)
  | readAbortable
  | persistAborted (intent : Intent)
deriving DecidableEq, Repr

/-- The steps of `runActiveLUNMove`. `transition` and `fail` read the intent, `store` and
`storeFailed` write back the copy that was read; `rollback` is the best-effort pin of an error path.
-/
inductive Stage where
  | prepare | openClient | unpin
  | transition (next : MoveState)
  | store (next : MoveState) (copy : Intent)
  | plan | inspect | copy | cutover | waitCleanup | repin
  | resume | saveConfig | flag
  | rollback
  | fail
  | storeFailed (copy : Intent)
  | done
deriving DecidableEq, Repr

/-- `backingFile` is `mc.intent.BackingFile`.  The last two fields record what the executor did:
whether its unpin went through, and the path of its latest pin call. -/
structure Executor where
  stage : Stage
  backingFile : Text
  unpinned : Bool
  lastPin : Option Text
deriving DecidableEq, Repr

/-- Handlers and executors; each store, LIO and kernel call is a step of its own. -/
inductive Thread where
  | portal (quiesce : Bool) (step : PortalStep)
  | journal (step : JournalStep)
  | executor (mover : Executor)
  | finished
deriving DecidableEq, Repr

def Stage.after : MoveState → Stage
  | .unpinned => .plan
  | .moving => .copy
  | .cutover => .waitCleanup
  | .repinning => .resume
  | _ => .done

section Steps

variable (backing : Text) (self : Nat) (lun : Lun) (outcome : Outcome)

def portalStep (quiesce : Bool) : PortalStep → Lun × Thread
  | .inspect =>
    let status := lun.inspectLUNPin outcome
    if status.onSmoothfs && !status.pinned then (lun, .finished) else (lun, .portal quiesce .switch)
  | .switch =>
    if outcome = .fails then (lun, .finished) else ({ lun with enabled := !quiesce }, .portal quiesce .saveConfig)
  | .saveConfig => if outcome = .fails then (lun, .finished) else (lun, .portal quiesce .flag)
  | .flag => if outcome = .fails then (lun, .finished) else ({ lun with quiesced := quiesce }, .finished)

def journalStep : JournalStep → Lun × Thread
  | .clear => if outcome = .fails then (lun, .finished) else ({ lun with intent := none }, .finished)
  | .readPlanned =>
    match lun.intent with
    | none => (lun, .finished)
    | some intent =>
      if outcome = .fails ∨ intent.state ≠ .planned then (lun, .finished)
      else (lun, .journal (.checkQuiesced (.execute intent)))
  | .checkQuiesced purpose =>
    if outcome = .fails ∨ lun.quiesced = false then (lun, .finished) else (lun, .journal (.checkPin purpose))
  | .checkPin purpose =>
    let status := lun.inspectLUNPin outcome
    if !status.onSmoothfs || !status.pinned then (lun, .finished) else (lun, .journal (.persist purpose))
  | .persist .record => (lun.persist ⟨backing, .planned, none⟩ outcome, .finished)
  | .persist (.execute intent) =>
    if outcome = .fails then (lun, .finished)
    else
      (lun.persist { intent with state := .executing, owner := some self } outcome,
        .executor ⟨.prepare, [], false, none⟩)
  | .readAbortable =>
    match lun.intent with
    | none => (lun, .finished)
    | some intent =>
      if outcome = .fails ∨ intent.state.abortable = false then (lun, .finished)
      else (lun, .journal (.persistAborted intent))
  | .persistAborted intent =>
    (lun.persist { intent with state := .planned, owner := none } outcome, .finished)

def Executor.attempt (executor : Executor) (next : Stage) : Executor :=
  { executor with stage := if outcome = .fails then .rollback else next }

def executorStep (executor : Executor) : Lun × Executor :=
  match executor.stage with
  | .prepare =>
    match lun.intent with
    | none => (lun, { executor with stage := .fail })
    | some intent =>
      if outcome = .fails ∨ intent.state ≠ .executing then (lun, { executor with stage := .fail })
      else (lun, { executor with stage := .openClient, backingFile := intent.backingFile })
  | .openClient => (lun, { executor with stage := if outcome = .fails then .fail else .unpin })
  | .unpin =>
    if outcome = .fails then (lun, { executor with stage := .fail })
    else
      (lun.setPin backing executor.backingFile false outcome,
        { executor with stage := .transition .unpinned, unpinned := true })
  | .transition next =>
    match lun.intent with
    | none => (lun, { executor with stage := .after next, backingFile := [] })
    | some intent =>
      if outcome = .fails then (lun, { executor with stage := .after next, backingFile := [] })
      else (lun, { executor with stage := .store next { intent with state := next } })
  | .store next copy =>
    (lun.persist copy outcome, { executor with stage := .after next, backingFile := copy.backingFile })
  | .plan => (lun, executor.attempt outcome .inspect)
  | .inspect => (lun, executor.attempt outcome (.transition .moving))
  | .copy => (lun, executor.attempt outcome .cutover)
  | .cutover => (lun, executor.attempt outcome (.transition .cutover))
  | .waitCleanup => (lun, executor.attempt outcome .repin)
  | .repin =>
    (lun.setPin backing executor.backingFile true outcome,
      { executor with
        stage := if outcome = .fails then .fail else .transition .repinning
        lastPin := some executor.backingFile })
  | .resume =>
    if outcome = .fails then (lun, { executor with stage := .fail })
    else ({ lun with enabled := true }, { executor with stage := .saveConfig })
  | .saveConfig => (lun, { executor with stage := if outcome = .fails then .fail else .flag })
  | .flag =>
    if outcome = .fails then (lun, { executor with stage := .fail })
    else ({ lun with quiesced := false }, { executor with stage := .transition .completed })
  | .rollback =>
    (lun.setPin backing executor.backingFile true outcome,
      { executor with stage := .fail, lastPin := some executor.backingFile })
  | .fail =>
    match lun.intent with
    | none => (lun, { executor with stage := .done })
    | some intent =>
      if outcome = .fails then (lun, { executor with stage := .done })
      else (lun, { executor with stage := .storeFailed { intent with state := .failed } })
  | .storeFailed copy => (lun.persist copy outcome, { executor with stage := .done })
  | .done => (lun, executor)

def Thread.step : Thread → Lun × Thread
  | .portal quiesce step => portalStep lun outcome quiesce step
  | .journal step => journalStep backing self lun outcome step
  | .executor mover =>
    let (lun, mover) := executorStep backing lun outcome mover
    (lun, .executor mover)
  | .finished => (lun, .finished)

end Steps

/-- A thread's place in the list is its name; it keeps it after its last step. -/
structure Machine where
  lun : Lun
  threads : List Thread
deriving DecidableEq, Repr

inductive Request where
  | quiesce | resume | record | clear | execute | abort
deriving DecidableEq, Repr

def Request.thread : Request → Thread
  | .quiesce => .portal true .inspect
  | .resume => .portal false .inspect
  | .record => .journal (.checkQuiesced .record)
  | .clear => .journal .clear
  | .execute => .journal .readPlanned
  | .abort => .journal .readAbortable

/-- The start after a crash.  `reached` says whether `ReconcileSharingConfig` gets to the intent,
`completed` what `decideRecoveredActiveLUNState` finds in the kernel. -/
structure Recovery where
  reached : Bool
  pin : Outcome
  completed : Bool
  persist : Outcome
deriving DecidableEq, Repr

def Lun.recoverActiveLUNMoveIntents (backing : Text) (lun : Lun) (recovery : Recovery) : Lun :=
  match lun.intent with
  | none => lun
  | some intent =>
    if recovery.reached ∧ intent.state.nonTerminal then
      (lun.setPin backing intent.backingFile true recovery.pin).persist
        { intent with state := if recovery.completed then .completed else .failed } recovery.persist
    else lun

/-- A thread that has nothing left to do. -/
def Thread.idle : Thread → Bool
  | .finished => true
  | .executor mover => mover.stage = .done
  | _ => false

inductive Event where
  | request (request : Request)
  | step (thread : Nat) (outcome : Outcome)
  | restart (recovery : Recovery)
deriving DecidableEq, Repr

def Machine.thread (machine : Machine) (name : Nat) : Thread := machine.threads[name]?.getD .finished

def Machine.step (backing : Text) (machine : Machine) : Event → Machine
  | .request request => { machine with threads := machine.threads ++ [request.thread] }
  | .step name outcome =>
    let (lun, thread) := (machine.thread name).step backing name machine.lun outcome
    ⟨lun, machine.threads.set name thread⟩
  | .restart recovery =>
    ⟨machine.lun.recoverActiveLUNMoveIntents backing recovery,
      machine.threads.map fun thread => if thread.idle then thread else .finished⟩

section Threads

variable {backing : Text} {machine : Machine} {name other : Nat} {outcome : Outcome} {request : Request}

theorem Machine.thread_request_ne (differs : name ≠ machine.threads.length) :
    (machine.step backing (.request request)).thread name = machine.thread name := by
  simp only [Machine.step, Machine.thread]
  rcases lt_or_gt_of_ne differs with earlier | later
  · rw [List.getElem?_append_left earlier]
  · have out : machine.threads.length ≤ name := later.le
    rw [List.getElem?_eq_none out, List.getElem?_eq_none (by simp; omega)]

@[simp] theorem Machine.thread_request :
    (machine.step backing (.request request)).thread machine.threads.length = request.thread := by
  simp [Machine.step, Machine.thread]

@[simp] theorem Machine.step_lun :
    (machine.step backing (.step name outcome)).lun =
      ((machine.thread name).step backing name machine.lun outcome).1 := rfl

theorem Machine.thread_step_ne (differs : other ≠ name) :
    (machine.step backing (.step name outcome)).thread other = machine.thread other := by
  simp only [Machine.step, Machine.thread, List.getElem?_set_ne differs.symm]

@[simp] theorem Machine.thread_step :
    (machine.step backing (.step name outcome)).thread name =
      ((machine.thread name).step backing name machine.lun outcome).2 := by
  by_cases within : name < machine.threads.length
  · simp [Machine.step, Machine.thread, within]
  · have out : machine.threads.length ≤ name := not_lt.mp within
    have absent : machine.thread name = .finished := by simp [Machine.thread, List.getElem?_eq_none out]
    rw [absent]
    simp [Machine.step, Machine.thread, out, Thread.step]

@[simp] theorem Machine.thread_restart (recovery : Recovery) :
    (machine.step backing (.restart recovery)).thread name =
      if (machine.thread name).idle then machine.thread name else .finished := by
  simp only [Machine.step, Machine.thread, List.getElem?_map]
  rcases machine.threads[name]?.eq_none_or_eq_some with absent | ⟨thread, found⟩
  · simp [absent]
  · simp [found]

theorem Machine.thread_of_forall (property : Thread → Prop) (finished : property .finished)
    (all : ∀ thread ∈ machine.threads, property thread) (name : Nat) : property (machine.thread name) := by
  simp only [Machine.thread]
  cases found : machine.threads[name]? with
  | none => exact finished
  | some thread => exact all thread (List.mem_of_getElem? found)

end Threads

end Tierd.Iscsi.Moves
