import Tierd.Data.Paths
import Tierd.Data.Runs

namespace Tierd.Zfsmgd.Recovery

open Tierd.Data List

inductive MoveState
  | copyInProgress
  | copyComplete
  | switched
  | cleanupComplete
  | failed
  | other (text : Text)
  deriving DecidableEq

def MoveState.terminal : MoveState → Bool
  | .cleanupComplete => true
  | .failed => true
  | _ => false

structure MovementLogRow where
  id : Text
  objectID : Text
  namespaceID : Text
  sourceTargetID : Text
  destTargetID : Text
  objectKey : Text
  state : MoveState
  failureReason : Text
  startedAt : Nat
  deriving DecidableEq

structure World (Content : Type) where
  files : Text → Option Content
  log : List MovementLogRow
  /-- The namespaces marked `reconciliation_required`, with the message. -/
  degraded : List (Text × Text)
  /-- The objects whose placement was set back to `placed`. -/
  placed : List Text

variable {Content : Type}

def listZFSMovementLogNonTerminal (log : List MovementLogRow) : List MovementLogRow :=
  (log.filter fun row => !row.state.terminal).insertionSort fun first second => first.startedAt ≤ second.startedAt

theorem mem_listZFSMovementLogNonTerminal {log : List MovementLogRow} {row : MovementLogRow} :
    row ∈ listZFSMovementLogNonTerminal log ↔ row ∈ log ∧ row.state.terminal = false := by
  simp [listZFSMovementLogNonTerminal]

def World.updateZFSMovementLogState (world : World Content) (id : Text) (state : MoveState) (reason : Text) :
    World Content :=
  { world with log := world.log.map fun row =>
      if row.id = id then { row with state := state, failureReason := reason } else row }

def World.setReconciliationRequired (world : World Content) (namespaceID message : Text) : World Content :=
  { world with degraded := world.degraded ++ [(namespaceID, message)] }

def World.resetObjectPlacementState (world : World Content) (objectID : Text) : World Content :=
  { world with placed := world.placed ++ [objectID] }

/-- `os.Remove`, which the system may refuse. -/
def World.remove (world : World Content) (granted : Bool) (path : Text) : World Content :=
  if granted then { world with files := Function.update world.files path none } else world

/-- The check of the content hash was deferred: the source only has to exist. -/
def World.verifySourceIntegrity (world : World Content) (srcPath : Text) : Bool := (world.files srcPath).isSome

def joinPath (dataset key : Text) : Text := Paths.clean (dataset ++ Paths.slash :: key)

def quoted (text : Text) : Text := "\x22" ++ text ++ "\x22"

/-- The second component is the path of the removal that was started in the background. -/
def recoverOneMovementLogRow (targets : Text → Option Text) (granted : Bool) (world : World Content)
    (row : MovementLogRow) : World Content × Option Text :=
  match targets row.sourceTargetID with
  | none => (world.setReconciliationRequired row.namespaceID
      ("cannot resolve source target " ++ quoted row.sourceTargetID ++ " during crash recovery"), none)
  | some srcDataset =>
    match targets row.destTargetID with
    | none => (world.setReconciliationRequired row.namespaceID
        ("cannot resolve dest target " ++ quoted row.destTargetID ++ " during crash recovery"), none)
    | some dstDataset =>
      let srcPath := joinPath srcDataset row.objectKey
      let dstPath := joinPath dstDataset row.objectKey
      match row.state with
      | .copyInProgress =>
        let world := if (world.files dstPath).isSome then world.remove granted dstPath else world
        if (world.files srcPath).isSome then
          ((world.updateZFSMovementLogState row.id .failed "interrupted_by_restart").resetObjectPlacementState
            row.objectID, none)
        else
          ((world.setReconciliationRequired row.namespaceID ("source file " ++ quoted srcPath ++
            " missing during crash recovery of copy_in_progress")).updateZFSMovementLogState row.id .failed
              "interrupted_by_restart", none)
      | .copyComplete =>
        let world := if (world.files dstPath).isSome then world.remove granted dstPath else world
        if world.verifySourceIntegrity srcPath then
          ((world.updateZFSMovementLogState row.id .failed
            "interrupted_before_switch").resetObjectPlacementState row.objectID, none)
        else
          ((world.setReconciliationRequired row.namespaceID ("source hash mismatch for object " ++
            quoted row.objectID ++ " during crash recovery")).updateZFSMovementLogState row.id .failed
              "interrupted_before_switch", none)
      | .switched => (world.updateZFSMovementLogState row.id .cleanupComplete [], some srcPath)
      | _ => (world, none)

structure Recovering (Content : Type) where
  world : World Content
  rows : List MovementLogRow
  removals : List Text

inductive Event
  /-- The loop takes the next row; `granted` is the answer to its `os.Remove`. -/
  | row (granted : Bool)
  /-- One of the goroutines removes its file. -/
  | background (index : Nat) (granted : Bool)
  deriving DecidableEq

/-- Rows that are not terminal, one after the other; removals of sources run in the background. -/
def recoverMovementLog (world : World Content) : Recovering Content where
  world := world
  rows := listZFSMovementLogNonTerminal world.log
  removals := []

def step (targets : Text → Option Text) (state : Recovering Content) : Event → Recovering Content
  | .row granted =>
    match state.rows with
    | [] => state
    | row :: rest =>
      let recovered := recoverOneMovementLogRow targets granted state.world row
      { world := recovered.1, rows := rest, removals := state.removals ++ recovered.2.toList }
  | .background index granted =>
    match state.removals[index]? with
    | none => state
    | some path =>
      { state with world := state.world.remove granted path, removals := state.removals.eraseIdx index }

def Recovering.Finished (state : Recovering Content) : Prop := state.rows = [] ∧ state.removals = []

def World.HasCopy (places : Set Text) (whole : Content) (world : World Content) : Prop :=
  ∃ path ∈ places, world.files path = some whole

def MovementLogRow.removes (targets : Text → Option Text) (row : MovementLogRow) : Option Text :=
  match targets row.sourceTargetID, targets row.destTargetID with
  | some srcDataset, some dstDataset =>
    match row.state with
    | .copyInProgress => some (joinPath dstDataset row.objectKey)
    | .copyComplete => some (joinPath dstDataset row.objectKey)
    | .switched => some (joinPath srcDataset row.objectKey)
    | _ => none
  | _, _ => none

theorem removes_of_terminal {targets : Text → Option Text} {row : MovementLogRow}
    (terminal : row.state.terminal = true) :
    row.removes targets = none := by
  unfold MovementLogRow.removes
  cases stage : row.state <;> simp [stage, MoveState.terminal] at terminal ⊢ <;> split <;> rfl

section Row

variable {targets : Text → Option Text} {granted : Bool} {world : World Content} {row : MovementLogRow} {path : Text}

@[simp] theorem updateZFSMovementLogState_files (id : Text) (state : MoveState) (reason : Text) :
    (world.updateZFSMovementLogState id state reason).files = world.files := rfl

@[simp] theorem setReconciliationRequired_files (namespaceID message : Text) :
    (world.setReconciliationRequired namespaceID message).files = world.files := rfl

@[simp] theorem resetObjectPlacementState_files (objectID : Text) :
    (world.resetObjectPlacementState objectID).files = world.files := rfl

theorem remove_files_of_ne {other : Text} (different : path ≠ other) :
    (world.remove granted other).files path = world.files path := by
  cases granted with
  | false => rfl
  | true => exact Function.update_of_ne different _ _

theorem remove_files_self : (world.remove true path).files path = none := Function.update_self ..

theorem checked_remove_files {other : Text} :
    (if (world.files other).isSome then world.remove granted other else world).files =
      (world.remove granted other).files := by
  split
  case isTrue => rfl
  case isFalse missing =>
    funext path
    by_cases same : path = other
    · subst same
      have absent : world.files path = none := by simpa using missing
      cases granted with
      | false => rfl
      | true => rw [absent, remove_files_self]
    · rw [remove_files_of_ne same]

theorem recoverOne_files (targets : Text → Option Text) (granted : Bool) (world : World Content)
    (row : MovementLogRow) :
    (∃ gone, row.removes targets = some gone ∧ (recoverOneMovementLogRow targets granted world row).2 = none ∧
      (recoverOneMovementLogRow targets granted world row).1.files = (world.remove granted gone).files) ∨
    ((recoverOneMovementLogRow targets granted world row).2 = row.removes targets ∧
      (recoverOneMovementLogRow targets granted world row).1.files = world.files) := by
  unfold recoverOneMovementLogRow MovementLogRow.removes
  cases targets row.sourceTargetID with
  | none => exact Or.inr ⟨rfl, rfl⟩
  | some srcDataset =>
    cases targets row.destTargetID with
    | none => exact Or.inr ⟨rfl, rfl⟩
    | some dstDataset =>
      cases row.state with
      | copyInProgress =>
        refine Or.inl ⟨_, rfl, ?_⟩
        rw [← checked_remove_files]
        dsimp only
        split_ifs <;> exact ⟨rfl, rfl⟩
      | copyComplete =>
        refine Or.inl ⟨_, rfl, ?_⟩
        rw [← checked_remove_files]
        dsimp only
        split_ifs <;> exact ⟨rfl, rfl⟩
      | switched => exact Or.inr ⟨rfl, rfl⟩
      | cleanupComplete => exact Or.inr ⟨rfl, rfl⟩
      | failed => exact Or.inr ⟨rfl, rfl⟩
      | other text => exact Or.inr ⟨rfl, rfl⟩

end Row

structure Recovering.Spares (targets : Text → Option Text) (path : Text) (state : Recovering Content) : Prop where
  rows : ∀ row ∈ state.rows, row.removes targets ≠ some path
  removals : path ∉ state.removals

section Runs

variable {targets : Text → Option Text}

theorem spared_step {path : Text} {state : Recovering Content} (event : Event) (spared : state.Spares targets path) :
    (step targets state event).Spares targets path ∧
      (step targets state event).world.files path = state.world.files path := by
  cases event with
  | background index granted =>
    cases found : state.removals[index]? with
    | none => simpa only [step, found] using ⟨spared, trivial⟩
    | some other =>
      simp only [step, found]
      have different : path ≠ other := fun same => spared.removals (same ▸ mem_of_getElem? found)
      exact ⟨⟨spared.rows, fun member => spared.removals (mem_of_mem_eraseIdx member)⟩,
        remove_files_of_ne different⟩
  | row granted =>
    cases rows : state.rows with
    | nil => simpa only [step, rows] using ⟨spared, trivial⟩
    | cons row rest =>
      simp only [step, rows]
      have own : row.removes targets ≠ some path := spared.rows row (rows ▸ mem_cons_self)
      have others : ∀ other ∈ rest, other.removes targets ≠ some path := fun other member =>
        spared.rows other (rows ▸ mem_cons_of_mem row member)
      rcases recoverOne_files targets granted state.world row with ⟨gone, about, nothing, files⟩ | ⟨started, files⟩
      · have different : path ≠ gone := fun same => own (same ▸ about)
        refine ⟨⟨others, ?_⟩, ?_⟩
        · simpa [nothing] using spared.removals
        · rw [files, remove_files_of_ne different]
      · refine ⟨⟨others, ?_⟩, by rw [files]⟩
        rw [started]
        simp only [mem_append, Option.mem_toList, not_or]
        exact ⟨spared.removals, own⟩

theorem spared_run {path : Text} {state : Recovering Content} (events : List Event)
    (spared : state.Spares targets path) :
    (run (step targets) state events).world.files path = state.world.files path := by
  have keeps : ∀ (reached : Recovering Content) event,
      (reached.Spares targets path ∧ reached.world.files path = state.world.files path) →
      (step targets reached event).Spares targets path ∧
        (step targets reached event).world.files path = state.world.files path := by
    intro reached event held
    obtain ⟨still, same⟩ := spared_step event held.1
    exact ⟨still, same.trans held.2⟩
  exact (run_invariant keeps events ⟨spared, rfl⟩).2

def CanClear (targets : Text → Option Text) (state : Recovering Content) : Prop :=
  ∃ events, (run (step targets) state events).Finished ∧
    ∀ path, (run (step targets) state events).world.files path ≠ none → state.Spares targets path

theorem CanClear.earlier {state : Recovering Content} (event : Event)
    (clear : CanClear targets (step targets state event))
    (about : ∀ path, (step targets state event).world.files path ≠ none →
      (step targets state event).Spares targets path → state.Spares targets path) : CanClear targets state := by
  obtain ⟨events, finished, left⟩ := clear
  refine ⟨event :: events, finished, fun path here => ?_⟩
  have spared := left path here
  refine about path ?_ spared
  rw [← spared_run events spared]
  exact here

theorem canClear_removals (world : World Content) (removals : List Text) :
    CanClear targets { world, rows := [], removals } := by
  induction removals generalizing world with
  | nil => exact ⟨[], ⟨rfl, rfl⟩, fun path _ => ⟨by simp, by simp⟩⟩
  | cons first rest ih =>
    refine CanClear.earlier (.background 0 true) (ih (world.remove true first)) fun path here spared => ?_
    refine ⟨by simp, fun member => ?_⟩
    rcases mem_cons.mp member with same | member
    · subst same
      exact here remove_files_self
    · exact spared.removals member

theorem canClear (world : World Content) (rows : List MovementLogRow) (removals : List Text) :
    CanClear targets { world, rows, removals } := by
  induction rows generalizing world removals with
  | nil => exact canClear_removals world removals
  | cons row rest ih =>
    refine CanClear.earlier (.row true) (ih _ _) fun path here spared => ⟨fun other member => ?_, fun member => ?_⟩
    · rcases mem_cons.mp member with same | member
      · subst same
        intro about
        rcases recoverOne_files targets true world other with ⟨gone, removed, _, files⟩ | ⟨started, _⟩
        · obtain rfl : gone = path := Option.some.inj (removed.symm.trans about)
          exact here ((congrFun files gone).trans remove_files_self)
        · have now : path ∈ (recoverOneMovementLogRow targets true world other).2.toList := by
            rw [started, about]
            exact mem_singleton_self path
          exact spared.removals (mem_append_right _ now)
      · exact spared.rows other member
    · exact spared.removals (mem_append_left _ member)

end Runs

theorem spares_recoverMovementLog {targets : Text → Option Text} {world : World Content} {path : Text} :
    (recoverMovementLog world).Spares targets path ↔ ∀ row ∈ world.log, row.removes targets ≠ some path := by
  constructor
  · intro spared row member
    cases terminal : row.state.terminal with
    | true => simp [removes_of_terminal terminal]
    | false => exact spared.rows row (mem_listZFSMovementLogNonTerminal.mpr ⟨member, terminal⟩)
  · intro clean
    exact ⟨fun row listed => clean row (mem_listZFSMovementLogNonTerminal.mp listed).1, not_mem_nil⟩

/-- Whatever order the removals run in and whichever of them fail, a complete copy is left exactly
if one was at a path that no row removes. -/
theorem recovery_keeps_copy_iff (targets : Text → Option Text) (places : Set Text) (whole : Content)
    (world : World Content) :
    (∀ events, (run (step targets) (recoverMovementLog world) events).Finished →
      (run (step targets) (recoverMovementLog world) events).world.HasCopy places whole) ↔
    ∃ path ∈ places, world.files path = some whole ∧ ∀ row ∈ world.log, row.removes targets ≠ some path := by
  constructor
  · intro kept
    have clear : CanClear targets (recoverMovementLog world) := canClear world _ []
    obtain ⟨events, finished, left⟩ := clear
    obtain ⟨path, place, copy⟩ := kept events finished
    have spared : (recoverMovementLog world).Spares targets path := left path (by
      rw [copy]
      exact Option.some_ne_none whole)
    rw [spared_run events spared] at copy
    exact ⟨path, place, copy, spares_recoverMovementLog.mp spared⟩
  · rintro ⟨path, place, copy, clean⟩ events -
    refine ⟨path, place, ?_⟩
    rw [spared_run events (spares_recoverMovementLog.mpr clean)]
    exact copy

/-- The first attempt was interrupted, the second came as far as the switch: one row takes the copy,
the other the source. -/
def movedTwice : World Unit where
  files := fun path => if path = "/a/f" ∨ path = "/b/f" then some () else none
  log := [
    { id := "m1", objectID := "o", namespaceID := "n", sourceTargetID := "a"
      destTargetID := "b", objectKey := "f", state := .copyInProgress, failureReason := []
      startedAt := 1 },
    { id := "m2", objectID := "o", namespaceID := "n", sourceTargetID := "a"
      destTargetID := "b", objectKey := "f", state := .switched, failureReason := [], startedAt := 2 }]
  degraded := []
  placed := []

def twoDatasets (target : Text) : Option Text :=
  if target = "a" then some "/a" else if target = "b" then some "/b" else none

/-- The file was moved there and back: one row removes each copy. -/
theorem both_copies_removed :
    movedTwice.files "/a/f" = some () ∧ movedTwice.files "/b/f" = some () ∧
      ∃ events, (run (step twoDatasets) (recoverMovementLog movedTwice) events).Finished ∧
        ∀ path, (run (step twoDatasets) (recoverMovementLog movedTwice) events).world.files path = none := by
  refine ⟨rfl, rfl, [.row true, .row true, .background 0 true], ⟨by decide +kernel, by decide +kernel⟩, fun path => ?_⟩
  by_cases source : path = "/a/f"
  · subst source
    decide +kernel
  · by_cases copy : path = "/b/f"
    · subst copy
      decide +kernel
    · have removed : ∀ row ∈ movedTwice.log,
          row.removes twoDatasets = some "/a/f" ∨ row.removes twoDatasets = some "/b/f" := by
        decide +kernel
      have spared : (recoverMovementLog movedTwice).Spares twoDatasets path := by
        refine spares_recoverMovementLog.mpr fun row member about => ?_
        rcases removed row member with this | this
        · exact source (Option.some.inj (about.symm.trans this))
        · exact copy (Option.some.inj (about.symm.trans this))
      rw [spared_run _ spared]
      exact if_neg (not_or.mpr ⟨source, copy⟩)

end Tierd.Zfsmgd.Recovery
