import Tierd.Data.Runs
import Tierd.Network.SafeApply

namespace Tierd.Network

open Tierd.Data List

inductive Cause where
  | confirm
  | token (token : Text)
  | revert
  | timer (n : Nat)
deriving DecidableEq, Repr

/-- A change, numbered in the order of the successful calls of `Apply`, is confirmed or
its files are restored. -/
structure Settlement where
  change : Nat
  permanent : Bool
  cause : Cause
deriving DecidableEq, Repr

def SafeApply.settlements (s : SafeApply) : Event → List Settlement
  | .confirm _ => if s.pending then [⟨s.created - 1, true, .confirm⟩] else []
  | .finishConfirm token _ => if token ∈ s.checked ∧ s.pending then [⟨s.created - 1, true, .token token⟩] else []
  | .revert _ _ => if s.pending then [⟨s.created - 1, false, .revert⟩] else []
  | .callback n _ => if n ∈ s.queued ∧ s.pending then [⟨s.created - 1, false, .timer n⟩] else []
  | .apply _ | .checkToken _ | .fire _ => []

/-- The token an event hands out, if it is an `Apply` that succeeds. -/
def SafeApply.issues (s : SafeApply) : Event → List Text
  | .apply call =>
    match (s.apply call).2 with
    | .ok () => [call.newConfirmToken]
    | .error _ => []
  | _ => []

/-- A run with the record of which change was settled, and by what. -/
structure Trace where
  state : SafeApply
  tokens : List Text
  log : List Settlement

namespace Trace

def start (networkDir backupDir : Files) : Trace := ⟨newSafeApply networkDir backupDir, [], []⟩

def step (trace : Trace) (event : Event) : Trace where
  state := trace.state.step event
  tokens := trace.tokens ++ trace.state.issues event
  log := trace.log ++ trace.state.settlements event

end Trace

/-- The change was settled by what belongs to it.  A plain `Confirm` or `Revert` acts
under one lock, so it is made while the change it settles is pending. -/
def Settlement.Own (tokens : List Text) (settled : Settlement) : Prop :=
  match settled.cause with
  | .confirm => settled.permanent = true
  | .token token => settled.permanent = true ∧ tokens[settled.change]? = some token
  | .revert => settled.permanent = false
  | .timer n => settled.permanent = false ∧ n = settled.change

instance (tokens : List Text) (settled : Settlement) : Decidable (settled.Own tokens) := by
  unfold Settlement.Own
  split <;> infer_instance

/-- When a change is applied, no callback of an earlier timer is waiting to run and no
`ConfirmWithToken` is between its two locks. -/
def NoStragglers (trace : Trace) : Event → Prop
  | .apply _ => trace.state.pending = true ∨ trace.state.queued = [] ∧ trace.state.checked = []
  | _ => True

theorem SafeApply.settled_of_touched {s : SafeApply} {event : Event} (pending : s.pending = true)
    (touched : (s.step event).pending = false ∨ (s.step event).networkDir ≠ s.networkDir) :
    ∃ settled ∈ s.settlements event, settled.change = s.created - 1 := by
  cases event with
  | apply call =>
    simp [SafeApply.step, SafeApply.apply, pending] at touched
  | confirm kept => simp [settlements, pending]
  | checkToken token =>
    rcases s.checkToken_cases token with ⟨_, next⟩ | next <;> simp [SafeApply.step, next, pending] at touched
  | finishConfirm token kept =>
    by_cases waiting : token ∈ s.checked
    · simp [settlements, pending, waiting]
    · simp [SafeApply.step, SafeApply.finishConfirm, waiting, pending] at touched
  | revert io reload => simp [settlements, pending]
  | fire n =>
    rcases s.fire_cases n with ⟨_, next⟩ | next <;> simp [SafeApply.step, next, pending] at touched
  | callback n io =>
    by_cases waiting : n ∈ s.queued
    · simp [settlements, pending, waiting]
    · simp [SafeApply.step, SafeApply.callback, waiting, pending] at touched

structure Trace.Attributed (trace : Trace) : Prop where
  count : trace.tokens.length = trace.state.created
  token : trace.state.pending = true → trace.tokens.getLast? = some trace.state.token
  checked : ∀ token ∈ trace.state.checked, trace.tokens.getLast? = some token
  queued : ∀ n ∈ trace.state.queued, n + 1 = trace.state.created
  /-- A timer runs only for the pending change, and not once it has fired. -/
  armed : trace.state.armed = [] ∨ trace.state.pending = true ∧ trace.state.queued = [] ∧
    ∃ n, n + 1 = trace.state.created ∧ trace.state.timer = some n ∧ trace.state.armed = [n]
  log : ∀ settled ∈ trace.log, settled.change < trace.tokens.length ∧ settled.Own trace.tokens

namespace Trace.Attributed

variable {trace : Trace}

theorem start (networkDir backupDir : Files) : (Trace.start networkDir backupDir).Attributed where
  count := rfl
  token pending := by cases pending
  checked _ listed := by cases listed
  queued _ listed := by cases listed
  armed := .inl rfl
  log _ listed := by cases listed

theorem last (attributed : trace.Attributed) (pending : trace.state.pending = true) :
    trace.state.created - 1 < trace.tokens.length := by
  have issued := attributed.token pending
  have nonempty : trace.tokens ≠ [] := by
    intro none
    simp [none] at issued
  have positive := length_pos_iff.mpr nonempty
  have count := attributed.count
  omega

theorem stopped (attributed : trace.Attributed) : trace.state.stop.armed = [] := by
  rcases attributed.armed with none | ⟨_, _, n, _, timer, running⟩
  · cases timer : trace.state.timer <;> simp [SafeApply.stop, timer, none]
  · simp [SafeApply.stop, timer, running]

theorem settle (attributed : trace.Attributed) {next : SafeApply} {settled : List Settlement}
    (created : next.created = trace.state.created)
    (token : next.pending = true → trace.state.pending = true ∧ next.token = trace.state.token)
    (checked : next.checked ⊆ trace.state.checked) (queued : next.queued ⊆ trace.state.queued)
    (armed : next.armed = [])
    (own : ∀ one ∈ settled, one.change < trace.tokens.length ∧ one.Own trace.tokens) :
    Trace.Attributed ⟨next, trace.tokens, trace.log ++ settled⟩ where
  count := attributed.count.trans created.symm
  token pending := by
    obtain ⟨before, same⟩ := token pending
    rw [same]
    exact attributed.token before
  checked one listed := attributed.checked one (checked listed)
  queued n listed := by
    rw [created]
    exact attributed.queued n (queued listed)
  armed := .inl armed
  log one listed := by
    rcases mem_append.mp listed with old | new
    · exact attributed.log one old
    · exact own one new

theorem confirm (attributed : trace.Attributed) {kept : Text → Bool} {settled : List Settlement}
    {checked : List Text} (fewer : checked ⊆ trace.state.checked)
    (own : ∀ one ∈ settled, one.change < trace.tokens.length ∧ one.Own trace.tokens) :
    Trace.Attributed ⟨(SafeApply.confirm { trace.state with checked := checked } kept).1, trace.tokens,
      trace.log ++ settled⟩ := by
  rcases SafeApply.confirm_cases { trace.state with checked := checked } kept with ⟨pending, saved, next⟩ | ⟨idle, next⟩
  · rw [next]
    exact attributed.settle rfl (by simp) fewer (List.Subset.refl _) attributed.stopped own
  · rw [next]
    have armed : trace.state.armed = [] := by
      rcases attributed.armed with none | ⟨pending, _⟩
      · exact none
      · simp [pending] at idle
    exact attributed.settle rfl (fun pending => ⟨pending, rfl⟩) fewer (List.Subset.refl _) armed own

theorem apply (attributed : trace.Attributed) {call : ApplyCall} (clear : NoStragglers trace (.apply call)) :
    (trace.step (.apply call)).Attributed := by
  rcases trace.state.apply_cases call with ⟨files, saved, reason, failed, _⟩ | ⟨idle, saved, _, applied⟩
  · simp only [Trace.step, SafeApply.step, SafeApply.issues, SafeApply.settlements, failed, append_nil]
    exact { attributed with }
  obtain ⟨queued, checked⟩ : trace.state.queued = [] ∧ trace.state.checked = [] := by
    rcases clear with busy | clear
    · simp [idle] at busy
    · exact clear
  have armed : trace.state.armed = [] := by
    rcases attributed.armed with none | ⟨pending, _⟩
    · exact none
    · simp [idle] at pending
  simp only [Trace.step, SafeApply.step, SafeApply.issues, SafeApply.settlements, applied, append_nil]
  exact {
    count := by simp [attributed.count]
    token := by simp
    checked := by simp [checked]
    queued := by simp [queued]
    armed := .inr ⟨rfl, queued, trace.state.created, rfl, rfl, by simp [armed]⟩
    log := by
      intro settled listed
      obtain ⟨within, own⟩ := attributed.log settled listed
      refine ⟨by simp only [length_append]; omega, ?_⟩
      unfold Settlement.Own at own ⊢
      simpa only [List.getElem?_append_left within] using own }

theorem fire (attributed : trace.Attributed) (n : Nat) : (trace.step (.fire n)).Attributed := by
  simp only [Trace.step, SafeApply.step, SafeApply.issues, SafeApply.settlements, append_nil]
  rcases trace.state.fire_cases n with ⟨running, next⟩ | next
  · rcases attributed.armed with none | ⟨_, queued, m, last, _, only⟩
    · simp [none] at running
    have same : n = m := by simpa [only] using running
    subst same
    rw [next]
    exact { attributed with
      queued := by simpa [queued] using last
      armed := .inl (by simp [only]) }
  · rw [next]
    exact attributed

theorem checkToken (attributed : trace.Attributed) (token : Text) : (trace.step (.checkToken token)).Attributed := by
  simp only [Trace.step, SafeApply.step, SafeApply.issues, SafeApply.settlements, append_nil]
  rcases trace.state.checkToken_cases token with ⟨matching, next⟩ | next
  · simp only [SafeApply.tokenMatches, Bool.and_eq_true, beq_iff_eq] at matching
    obtain ⟨⟨pending, _⟩, same⟩ := matching
    rw [next]
    exact { attributed with
      checked := by
        intro one listed
        rcases mem_append.mp listed with old | new
        · exact attributed.checked one old
        · rw [mem_singleton.mp new, same]
          exact attributed.token pending }
  · rw [next]
    exact attributed

theorem revert (attributed : trace.Attributed) (io : RestoreIO) (reload : Except Text Unit) :
    (trace.step (.revert io reload)).Attributed := by
  simp only [Trace.step, SafeApply.step, SafeApply.issues, append_nil]
  have own : ∀ one ∈ trace.state.settlements (.revert io reload),
      one.change < trace.tokens.length ∧ one.Own trace.tokens := by
    intro one listed
    by_cases pending : trace.state.pending = true
    · have only : one = ⟨trace.state.created - 1, false, .revert⟩ := by
        simpa [SafeApply.settlements, pending] using listed
      subst only
      exact ⟨attributed.last pending, rfl⟩
    · simp [SafeApply.settlements, pending] at listed
  rcases trace.state.revert_cases io reload with ⟨_, _, _, next⟩ | ⟨pending, _, next⟩ | ⟨idle, next⟩
  · rw [next]
    exact attributed.settle rfl (by simp) (List.Subset.refl _) (List.Subset.refl _) attributed.stopped own
  · rw [next]
    exact attributed.settle rfl (fun _ => ⟨pending, rfl⟩) (List.Subset.refl _)
      (List.Subset.refl _) attributed.stopped own
  · simpa [next, SafeApply.settlements, idle] using attributed

theorem callback (attributed : trace.Attributed) (n : Nat) (io : RestoreIO) :
    (trace.step (.callback n io)).Attributed := by
  simp only [Trace.step, SafeApply.step, SafeApply.issues, append_nil]
  rcases trace.state.callback_cases n io with ⟨waiting, pending, next⟩ | ⟨waiting, idle, next⟩ | ⟨absent, next⟩
  · have armed : trace.state.armed = [] := by
      rcases attributed.armed with none | ⟨_, queued, _⟩
      · exact none
      · simp [queued] at waiting
    rw [next]
    refine attributed.settle rfl (by simp) (List.Subset.refl _) erase_subset armed ?_
    intro one listed
    have only : one = ⟨trace.state.created - 1, false, .timer n⟩ := by
      simpa [SafeApply.settlements, pending, waiting] using listed
    have last := attributed.queued n waiting
    subst only
    exact ⟨attributed.last pending, rfl, by simp only; omega⟩
  · have armed : trace.state.armed = [] := by
      rcases attributed.armed with none | ⟨pending, _⟩
      · exact none
      · simp [idle] at pending
    rw [next]
    refine attributed.settle rfl (fun pending => ⟨pending, rfl⟩) (List.Subset.refl _) erase_subset armed ?_
    simp [SafeApply.settlements, idle]
  · simpa [next, SafeApply.settlements, absent] using attributed

theorem finishConfirm (attributed : trace.Attributed) (token : Text) (kept : Text → Bool) :
    (trace.step (.finishConfirm token kept)).Attributed := by
  simp only [Trace.step, SafeApply.step, SafeApply.issues, append_nil]
  by_cases waiting : token ∈ trace.state.checked
  · rw [SafeApply.finishConfirm, if_pos waiting]
    refine attributed.confirm erase_subset fun one listed => ?_
    by_cases pending : trace.state.pending = true
    · have only : one = ⟨trace.state.created - 1, true, .token token⟩ := by
        simpa [SafeApply.settlements, pending, waiting] using listed
      subst only
      have issued := attributed.checked token waiting
      rw [List.getLast?_eq_getElem?, attributed.count] at issued
      exact ⟨attributed.last pending, rfl, issued⟩
    · simp [SafeApply.settlements, pending] at listed
  · rw [SafeApply.finishConfirm, if_neg waiting]
    simpa [SafeApply.settlements, waiting] using attributed

theorem step (attributed : trace.Attributed) (event : Event) (clear : NoStragglers trace event) :
    (trace.step event).Attributed := by
  cases event with
  | apply call => exact attributed.apply clear
  | confirm kept =>
    simp only [Trace.step, SafeApply.step, SafeApply.issues, append_nil]
    refine attributed.confirm (List.Subset.refl _) fun one listed => ?_
    by_cases pending : trace.state.pending = true
    · have only : one = ⟨trace.state.created - 1, true, .confirm⟩ := by
        simpa [SafeApply.settlements, pending] using listed
      subst only
      exact ⟨attributed.last pending, rfl⟩
    · simp [SafeApply.settlements, pending] at listed
  | checkToken token => exact attributed.checkToken token
  | finishConfirm token kept => exact attributed.finishConfirm token kept
  | revert io reload => exact attributed.revert io reload
  | fire n => exact attributed.fire n
  | callback n io => exact attributed.callback n io

theorem run {start : Trace} {events : List Event} (clear : Guarded Trace.step NoStragglers start events)
    (attributed : start.Attributed) : (Data.run Trace.step start events).Attributed :=
  guarded_run_invariant (fun _ event kept allowed => kept.step event allowed) clear attributed

end Trace.Attributed

theorem Trace.log_subset_run (events : List Event) (trace : Trace) : trace.log ⊆ (run Trace.step trace events).log := by
  induction events generalizing trace with
  | nil => exact List.Subset.refl _
  | cons event rest ih =>
    have next : trace.log ⊆ (trace.step event).log := subset_append_left _ _
    exact List.Subset.trans next (ih (trace.step event))

/-- In a run without stragglers every change is settled by what belongs to it, and nothing
ends a pending change or touches its files without being on the record as settling it. -/
theorem changes_settled_by_their_own {networkDir backupDir : Files} {events : List Event}
    (clear : Guarded Trace.step NoStragglers (Trace.start networkDir backupDir) events) :
    (∀ settled ∈ (run Trace.step (Trace.start networkDir backupDir) events).log,
      settled.Own (run Trace.step (Trace.start networkDir backupDir) events).tokens) ∧
    ∀ before event after, events = before ++ event :: after →
      (run Trace.step (Trace.start networkDir backupDir) before).state.pending = true →
      (((run Trace.step (Trace.start networkDir backupDir) before).state.step event).pending = false ∨
        ((run Trace.step (Trace.start networkDir backupDir) before).state.step event).networkDir ≠
          (run Trace.step (Trace.start networkDir backupDir) before).state.networkDir) →
      ∃ settled ∈ (run Trace.step (Trace.start networkDir backupDir) before).state.settlements event,
        settled ∈ (run Trace.step (Trace.start networkDir backupDir) events).log ∧
        settled.change + 1 = (run Trace.step (Trace.start networkDir backupDir) before).state.created := by
  have attributed := Trace.Attributed.run clear (.start networkDir backupDir)
  refine ⟨fun settled listed => (attributed.log settled listed).2, ?_⟩
  intro before event after split pending touched
  subst split
  obtain ⟨settled, listed, change⟩ := SafeApply.settled_of_touched pending touched
  rw [run_append, run_cons]
  refine ⟨settled, listed, Trace.log_subset_run after _ (mem_append_right _ listed), ?_⟩
  have earlier := Trace.Attributed.run clear.before (.start networkDir backupDir)
  have within := earlier.last pending
  have count := earlier.count
  omega

def ApplyCall.put (name content token : Text) : ApplyCall where
  writeConfig files := (files.insert name content, .ok ())
  backup := .working
  restore := .working
  reload := .ok ()
  newConfirmToken := token

def changesInTurn : List Event :=
  [.apply (.put "10-eth0.network" "a" "t0"), .checkToken "t0",
    .finishConfirm "t0" fun _ => false, .apply (.put "10-eth0.network" "b" "t1"), .fire 1,
    .callback 1 .working]

theorem changesInTurn_settled_by_their_own :
    (run Trace.step (Trace.start ∅ ∅) changesInTurn).log = [⟨0, true, .token "t0"⟩, ⟨1, false, .timer 1⟩] ∧
    ∀ settled ∈ (run Trace.step (Trace.start ∅ ∅) changesInTurn).log,
      settled.Own (run Trace.step (Trace.start ∅ ∅) changesInTurn).tokens := by
  have clear : Guarded Trace.step NoStragglers (Trace.start ∅ ∅) changesInTurn :=
    ⟨.inr ⟨rfl, rfl⟩, trivial, trivial, .inr ⟨rfl, rfl⟩, trivial, trivial, trivial⟩
  exact ⟨by decide, (changes_settled_by_their_own clear).1⟩

/-- The first timer fires, its change is confirmed before the callback gets the lock, and the
callback then rolls back the second change.  And a `ConfirmWithToken` whose token was checked
while the first change was pending makes the second one permanent. -/
theorem stragglers_settle_a_later_change :
    (run Trace.step (Trace.start ∅ ∅)
      [.apply (.put "10-eth0.network" "a" "t0"), .fire 0, .confirm fun _ => false,
        .apply (.put "10-eth1.network" "b" "t1"), .callback 0 .working]).log =
      [⟨0, true, .confirm⟩, ⟨1, false, .timer 0⟩] ∧
    ¬ Settlement.Own ["t0", "t1"] ⟨1, false, .timer 0⟩ ∧
    (run Trace.step (Trace.start ∅ ∅)
      [.apply (.put "10-eth0.network" "a" "t0"), .checkToken "t0", .revert .working (.ok ()),
        .apply (.put "10-eth1.network" "b" "t1"),
        .finishConfirm "t0" fun _ => false]).log =
      [⟨0, false, .revert⟩, ⟨1, true, .token "t0"⟩] ∧
    ¬ Settlement.Own ["t0", "t1"] ⟨1, true, .token "t0"⟩ := by
  decide

end Tierd.Network
