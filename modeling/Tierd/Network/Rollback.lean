import Tierd.Network.Ownership

namespace Tierd.Network

open Tierd.Data Directory

/-- What a daemon that stops was doing.  A callback or a restore it was in the middle of
leaves the directory in any state. -/
inductive Interrupted where
  | idle
  | applying (left saved : Files)
  | restoring (left : Files)

inductive Turn where
  | call (event : Event)
  /-- The daemon stops or crashes, and is started again. -/
  | restart (during : Interrupted)

/-- `main` makes a new `SafeApply`; nothing reads the backup directory at the start. -/
def SafeApply.restart (s : SafeApply) : Interrupted → SafeApply
  | .idle => newSafeApply s.networkDir s.backupDir
  | .applying left saved => if s.pending then newSafeApply s.networkDir s.backupDir else newSafeApply left saved
  | .restoring left =>
    if s.pending then newSafeApply left s.backupDir else newSafeApply s.networkDir s.backupDir

structure Watched where
  state : SafeApply
  permanent : Files

namespace Watched

def start (networkDir backupDir : Files) : Watched := ⟨newSafeApply networkDir backupDir, networkDir⟩

def step (watched : Watched) : Turn → Watched
  | .call event =>
    { state := watched.state.step event
      permanent :=
        if (watched.state.settlements event).any (·.permanent) then watched.state.networkDir else watched.permanent }
  | .restart during => { watched with state := watched.state.restart during }

end Watched

def RestoreIO.Works (io : RestoreIO) : Prop :=
  (∀ name, io.kept name = false) ∧ io.listed = .ok () ∧ ∀ name, io.copied name = .ok

theorem RestoreIO.working_works : RestoreIO.working.Works := ⟨fun _ => rfl, rfl, fun _ => rfl⟩

def AddsOnlyConfig (before now : Files) : Prop :=
  ∀ name, before.lookup name = none → now.lookup name ≠ none → isConfigName name = true

/-- The old backup can be cleared, every restore succeeds and so does the reload of a
`Revert`, callbacks add only files with one of the three suffixes, and the daemon stops
only while no change is pending. -/
def Undisturbed (watched : Watched) : Turn → Prop
  | .call (.apply call) =>
    (∀ name, call.backup.kept name = false) ∧ call.restore.Works ∧
      AddsOnlyConfig watched.state.networkDir (call.writeConfig watched.state.networkDir).1
  | .call (.revert io reload) => io.Works ∧ reload = .ok ()
  | .call (.callback _ io) => io.Works
  | .restart during => during = .idle ∧ watched.state.pending = false
  | .call _ => True

/-- While nothing is pending the confirmed files are in force; while a change is pending
there is a timer that runs or has fired, and its callback brings them back. -/
structure Watched.RollsBack (watched : Watched) : Prop where
  settled : watched.state.pending = false → SameFiles watched.state.networkDir watched.permanent
  covered : watched.state.pending = true → ∃ n, (n ∈ watched.state.armed ∨ n ∈ watched.state.queued) ∧
    ∀ io : RestoreIO, io.Works → ((watched.state.fire n).callback n io).pending = false ∧
      SameFiles ((watched.state.fire n).callback n io).networkDir watched.permanent

theorem sameFiles_of_backup {io : BackupIO} {files old saved : Files} (cleared : ∀ name, io.kept name = false)
    (copied : backup io files old = (saved, .ok ())) : SameFiles saved files := by
  unfold backup at copied
  cases made : io.made with
  | error reason => simp [made] at copied
  | ok done =>
    cases listed : io.listed with
    | error reason => simp [made, listed] at copied
    | ok done =>
      simp only [made, listed] at copied
      intro name
      have whole := lookup_copy_entries (congrArg Prod.snd copied) name
      rw [copied] at whole
      simpa [cleared] using whole

theorem RestoreIO.Works.restores {io : RestoreIO} (works : io.Works) {files saved : Files}
    (added : AddsOnlyConfig saved files) :
    (restore io files saved).2 = .ok () ∧ SameFiles (restore io files saved).1 saved := by
  obtain ⟨removed, listed, copied⟩ := works
  simp only [restore, listed]
  refine ⟨copyFiles_succeeds copied _ _, fun name => ?_⟩
  rw [lookup_copy_entries (copyFiles_succeeds copied _ _) name, lookup_removeWhere]
  cases old : saved.lookup name with
  | some content => simp
  | none =>
    cases now : files.lookup name with
    | none => simp
    | some content => simp [removed, added name old (by simp [now])]

theorem AddsOnlyConfig.congr {before before' now : Files} (added : AddsOnlyConfig before now)
    (same : SameFiles before before') : AddsOnlyConfig before' now :=
  fun name absent present => added name ((same name).trans absent) present

structure Watched.Recoverable (watched : Watched) : Prop where
  settled : watched.state.pending = false → SameFiles watched.state.networkDir watched.permanent
  saved : watched.state.pending = true → SameFiles watched.state.backupDir watched.permanent
  added : watched.state.pending = true → AddsOnlyConfig watched.state.backupDir watched.state.networkDir
  timer : watched.state.pending = true → ∃ n, n ∈ watched.state.armed ∨ n ∈ watched.state.queued

namespace Watched.Recoverable

variable {watched : Watched}

theorem start (networkDir backupDir : Files) : (Watched.start networkDir backupDir).Recoverable where
  settled _ := .refl _
  saved pending := by cases pending
  added pending := by cases pending
  timer pending := by cases pending

theorem of_settled {state : SafeApply} {permanent : Files} (idle : state.pending = false)
    (same : SameFiles state.networkDir permanent) : Watched.Recoverable ⟨state, permanent⟩ where
  settled _ := same
  saved pending := by simp [idle] at pending
  added pending := by simp [idle] at pending
  timer pending := by simp [idle] at pending

theorem restored (recoverable : watched.Recoverable) (pending : watched.state.pending = true) {io : RestoreIO}
    (works : io.Works) :
    (Network.restore io watched.state.networkDir watched.state.backupDir).2 = .ok () ∧
      SameFiles (Network.restore io watched.state.networkDir watched.state.backupDir).1 watched.permanent := by
  obtain ⟨done, same⟩ := works.restores (recoverable.added pending)
  exact ⟨done, same.trans (recoverable.saved pending)⟩

theorem apply_failed {s : SafeApply} {call : ApplyCall} {reason : ApplyError}
    (cleared : ∀ name, call.backup.kept name = false) (works : call.restore.Works)
    (adds : AddsOnlyConfig s.networkDir (call.writeConfig s.networkDir).1)
    (failed : (s.apply call).2 = .error reason) : SameFiles (s.apply call).1.networkDir s.networkDir := by
  rcases s.apply_cases call with ⟨files, saved, _, result, unchanged | ⟨_, copied, rolledBack⟩⟩ | ⟨_, _, _, result⟩
  · rw [result, unchanged.1]
    exact .refl _
  · have same := sameFiles_of_backup cleared copied
    rw [result, rolledBack]
    exact (works.restores (adds.congr same.symm)).2.trans same
  · simp [result] at failed

theorem apply (recoverable : watched.Recoverable) {call : ApplyCall}
    (undisturbed : Undisturbed watched (.call (.apply call))) : (watched.step (.call (.apply call))).Recoverable := by
  obtain ⟨cleared, works, adds⟩ := undisturbed
  simp only [Watched.step, SafeApply.step, SafeApply.settlements, List.any_nil, Bool.false_eq_true, if_false]
  rcases watched.state.apply_cases call with ⟨files, saved, reason, result, kept⟩ | ⟨idle, saved, copied, result⟩
  · have same := apply_failed cleared works adds (congrArg Prod.snd result)
    rw [result] at same ⊢
    by_cases pending : watched.state.pending = true
    · rcases kept with ⟨unchanged, saved⟩ | ⟨idle, _⟩
      · rw [unchanged, saved pending]
        exact recoverable
      · simp [pending] at idle
    · have idle : watched.state.pending = false := by simpa using pending
      exact of_settled idle (same.trans (recoverable.settled idle))
  · have same := sameFiles_of_backup cleared copied
    rw [result]
    exact {
      settled := by simp
      saved := fun _ => same.trans (recoverable.settled idle)
      added := fun _ => adds.congr same.symm
      timer := fun _ => ⟨watched.state.created, .inl (by simp)⟩ }

theorem confirm (recoverable : watched.Recoverable) (checked : List Text) (kept : Text → Bool) :
    Watched.Recoverable ⟨(SafeApply.confirm { watched.state with checked := checked } kept).1,
      if watched.state.pending then watched.state.networkDir else watched.permanent⟩ := by
  rcases SafeApply.confirm_cases { watched.state with checked := checked } kept with
    ⟨pending, saved, next⟩ | ⟨idle, next⟩
  · have pending : watched.state.pending = true := pending
    rw [next, if_pos pending]
    exact of_settled rfl (.refl _)
  · have idle : watched.state.pending = false := idle
    rw [next, idle]
    exact of_settled idle (recoverable.settled idle)

theorem fire (recoverable : watched.Recoverable) (n : Nat) :
    Watched.Recoverable ⟨watched.state.fire n, watched.permanent⟩ := by
  rcases watched.state.fire_cases n with ⟨running, next⟩ | next
  · rw [next]
    exact { recoverable with timer := fun _ => ⟨n, .inr (by simp)⟩ }
  · rw [next]
    exact recoverable

theorem callback (recoverable : watched.Recoverable) (n : Nat) {io : RestoreIO} (works : io.Works) :
    Watched.Recoverable ⟨watched.state.callback n io, watched.permanent⟩ := by
  rcases watched.state.callback_cases n io with ⟨_, pending, next⟩ | ⟨_, idle, next⟩ | ⟨_, next⟩
  · rw [next]
    exact of_settled rfl (recoverable.restored pending works).2
  · rw [next]
    exact of_settled idle (recoverable.settled idle)
  · rw [next]
    exact recoverable

theorem step (recoverable : watched.Recoverable) (turn : Turn) (undisturbed : Undisturbed watched turn) :
    (watched.step turn).Recoverable := by
  cases turn with
  | restart during =>
    obtain ⟨rfl, idle⟩ := undisturbed
    exact of_settled rfl (recoverable.settled idle)
  | call event =>
    cases event with
    | apply call => exact recoverable.apply undisturbed
    | confirm kept =>
      have confirmed : watched.step (.call (.confirm kept)) = ⟨(watched.state.confirm kept).1,
          if watched.state.pending then watched.state.networkDir else watched.permanent⟩ := by
        by_cases pending : watched.state.pending = true <;>
          simp [Watched.step, SafeApply.step, SafeApply.settlements, pending]
      rw [confirmed]
      exact recoverable.confirm watched.state.checked kept
    | checkToken token =>
      simp only [Watched.step, SafeApply.step, SafeApply.settlements, List.any_nil, Bool.false_eq_true, if_false]
      rcases watched.state.checkToken_cases token with ⟨_, next⟩ | next
      · rw [next]
        exact { recoverable with }
      · rw [next]
        exact recoverable
    | finishConfirm token kept =>
      by_cases waiting : token ∈ watched.state.checked
      · have confirmed : watched.step (.call (.finishConfirm token kept)) =
            ⟨(SafeApply.confirm { watched.state with checked := watched.state.checked.erase token } kept).1,
              if watched.state.pending then watched.state.networkDir else watched.permanent⟩ := by
          by_cases pending : watched.state.pending = true <;>
            simp [Watched.step, SafeApply.step, SafeApply.finishConfirm, SafeApply.settlements, waiting, pending]
        rw [confirmed]
        exact recoverable.confirm (watched.state.checked.erase token) kept
      · simpa [Watched.step, SafeApply.step, SafeApply.finishConfirm, SafeApply.settlements, waiting]
          using recoverable
    | revert io reload =>
      obtain ⟨works, reloaded⟩ := undisturbed
      have kept : watched.step (.call (.revert io reload)) =
        ⟨(watched.state.revert io reload).1, watched.permanent⟩ := by
        by_cases pending : watched.state.pending = true <;>
          simp [Watched.step, SafeApply.step, SafeApply.settlements, pending]
      rw [kept]
      rcases watched.state.revert_cases io reload with ⟨pending, _, _, next⟩ | ⟨pending, failed, _⟩ | ⟨idle, next⟩
      · rw [next]
        exact of_settled rfl (recoverable.restored pending works).2
      · rcases failed with unrestored | unloaded
        · exact absurd (recoverable.restored pending works).1 unrestored
        · exact absurd reloaded unloaded
      · rw [next]
        exact recoverable
    | fire n =>
      simpa only [Watched.step, SafeApply.step, SafeApply.settlements, List.any_nil, Bool.false_eq_true, if_false]
        using recoverable.fire n
    | callback n io =>
      have kept : watched.step (.call (.callback n io)) = ⟨watched.state.callback n io, watched.permanent⟩ := by
        by_cases active : n ∈ watched.state.queued ∧ watched.state.pending = true <;>
          simp [Watched.step, SafeApply.step, SafeApply.settlements, active]
      rw [kept]
      exact recoverable.callback n undisturbed

theorem rollsBack (recoverable : watched.Recoverable) : watched.RollsBack where
  settled := recoverable.settled
  covered pending := by
    obtain ⟨n, alive⟩ := recoverable.timer pending
    refine ⟨n, alive, fun io works => ?_⟩
    have fired := recoverable.fire n
    have waiting : n ∈ (watched.state.fire n).queued := by
      rcases watched.state.fire_cases n with ⟨_, next⟩ | next
      · simp [next]
      · rcases alive with running | waiting
        · rw [SafeApply.fire, if_pos running]
          simp
        · rw [next]
          exact waiting
    have still : (watched.state.fire n).pending = true := by
      rcases watched.state.fire_cases n with ⟨_, next⟩ | next <;> rw [next] <;> exact pending
    rcases (watched.state.fire n).callback_cases n io with ⟨_, _, next⟩ | ⟨_, idle, _⟩ | ⟨absent, _⟩
    · rw [next]
      exact ⟨rfl, (fired.restored still works).2⟩
    · simp [still] at idle
    · exact absurd waiting absent

end Watched.Recoverable

/-- In an undisturbed run every change that is not confirmed is rolled back. -/
theorem unconfirmed_changes_roll_back {networkDir backupDir : Files} {turns : List Turn}
    (undisturbed : Guarded Watched.step Undisturbed (Watched.start networkDir backupDir) turns) :
    (run Watched.step (Watched.start networkDir backupDir) turns).RollsBack ∧
      ∀ call reason, Undisturbed (run Watched.step (Watched.start networkDir backupDir) turns) (.call (.apply call)) →
        ((run Watched.step (Watched.start networkDir backupDir) turns).state.apply call).2 = .error reason →
        SameFiles ((run Watched.step (Watched.start networkDir backupDir) turns).state.apply call).1.networkDir
          (run Watched.step (Watched.start networkDir backupDir) turns).state.networkDir := by
  have recoverable := guarded_run_invariant (fun _ turn kept allowed => Watched.Recoverable.step kept turn allowed)
    undisturbed (.start networkDir backupDir)
  refine ⟨recoverable.rollsBack, fun call reason allowed failed => ?_⟩
  obtain ⟨cleared, works, adds⟩ := allowed
  exact Watched.Recoverable.apply_failed cleared works adds failed

def onePending : List Turn := [.call (.apply (.put "10-eth0.network" "a" "t0"))]

theorem onePending_rolls_back :
    (run Watched.step (Watched.start ∅ ∅) onePending).state.pending = true ∧
      (run Watched.step (Watched.start ∅ ∅) onePending).RollsBack := by
  have undisturbed : Guarded Watched.step Undisturbed (Watched.start ∅ ∅) onePending := by
    refine ⟨⟨fun _ => rfl, RestoreIO.working_works, fun name absent present => ?_⟩, trivial⟩
    by_cases same : name = "10-eth0.network"
    · rw [same]
      decide
    · have unchanged : AList.lookup name (AList.insert "10-eth0.network" "a" (∅ : Files)) = none := by
        rw [AList.lookup_insert_ne same, AList.lookup_empty]
      exact absurd unchanged present
  exact ⟨by decide, (unconfirmed_changes_roll_back undisturbed).1⟩

/-- A `Revert` whose reload fails has stopped the timer and leaves the change pending; a
restart keeps an unconfirmed change in force; a file with another suffix survives a `Revert`;
and a timeout gives the change up although its restore failed. -/
theorem unconfirmed_changes_stay :
    ((run Watched.step (Watched.start ∅ ∅)
        (onePending ++ [.call (.revert .working (.error "networkctl reload".toList))])).state.pending = true ∧
      (run Watched.step (Watched.start ∅ ∅)
        (onePending ++ [.call (.revert .working (.error "networkctl reload".toList))])).state.armed = [] ∧
      (run Watched.step (Watched.start ∅ ∅)
        (onePending ++ [.call (.revert .working (.error "networkctl reload".toList))])).state.queued = []) ∧
    ((run Watched.step (Watched.start ∅ ∅) (onePending ++ [.restart .idle])).state.pending = false ∧
      (run Watched.step (Watched.start ∅ ∅) (onePending ++ [.restart .idle])).state.networkDir.lookup
        "10-eth0.network".toList = some "a".toList) ∧
    ((run Watched.step (Watched.start ∅ ∅) [.call (.apply (.put "eth0.conf".toList "a".toList "t0".toList)),
        .call (.revert .working (.ok ()))]).state.pending = false ∧
      (run Watched.step (Watched.start ∅ ∅) [.call (.apply (.put "eth0.conf".toList "a".toList "t0".toList)),
        .call (.revert .working (.ok ()))]).state.networkDir.lookup "eth0.conf".toList = some "a".toList) ∧
    ((run Watched.step (Watched.start (AList.singleton "10-eth0.network".toList "b".toList) ∅)
        (onePending ++ [.call (.fire 0), .call (.callback 0 ⟨fun _ => false, .error "EIO".toList, fun _ => .ok⟩)])
          ).state.pending = false ∧
      (run Watched.step (Watched.start (AList.singleton "10-eth0.network".toList "b".toList) ∅)
        (onePending ++ [.call (.fire 0), .call (.callback 0 ⟨fun _ => false, .error "EIO".toList, fun _ => .ok⟩)])
          ).state.networkDir.lookup "10-eth0.network".toList = none) := by
  decide

end Tierd.Network
