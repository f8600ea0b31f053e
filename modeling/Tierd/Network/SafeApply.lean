import Tierd.Data.Directory

namespace Tierd.Network

open Tierd.Data

abbrev Files := Directory Text

def hasSuffix (text ending : Text) : Bool := ending.isSuffixOf text

/-- The names `restore` clears before it copies the backup back. -/
def isConfigName (name : Text) : Bool :=
  hasSuffix name ".network" || hasSuffix name ".netdev" || hasSuffix name ".link"

structure BackupIO where
  /-- Names an incomplete `os.RemoveAll` leaves in the backup directory. -/
  kept : Text → Bool
  made : Except Text Unit
  listed : Except Text Unit
  copied : Text → Directory.Copied Text

def BackupIO.working : BackupIO := ⟨fun _ => false, .ok (), .ok (), fun _ => .ok⟩

def backup (io : BackupIO) (files old : Files) : Files × Except Text Unit :=
  let cleared := old.removeWhere fun name => !io.kept name
  match io.made with
  | .error reason => (cleared, .error reason)
  | .ok () =>
    match io.listed with
    | .error reason => (cleared, .error reason)
    | .ok () => Directory.copyFiles io.copied files.entries cleared

structure RestoreIO where
  /-- Names `os.Remove` fails on. -/
  kept : Text → Bool
  listed : Except Text Unit
  copied : Text → Directory.Copied Text

def RestoreIO.working : RestoreIO := ⟨fun _ => false, .ok (), fun _ => .ok⟩

def restore (io : RestoreIO) (files saved : Files) : Files × Except Text Unit :=
  let cleared := files.removeWhere fun name => isConfigName name && !io.kept name
  match io.listed with
  | .error reason => (cleared, .error reason)
  | .ok () => Directory.copyFiles io.copied saved.entries cleared

structure SafeApply where
  pending : Bool
  /-- The timer the struct refers to. -/
  timer : Option Nat
  token : Text
  networkDir : Files
  backupDir : Files
  /-- Timers that are running, and fired timers whose callback has not run. -/
  armed : List Nat
  queued : List Nat
  /-- Calls of `ConfirmWithToken` between their two locks, by the token they checked. -/
  checked : List Text
  /-- How many timers were made; timer `n` belongs to the `n`-th change. -/
  created : Nat

def newSafeApply (networkDir backupDir : Files) : SafeApply where
  pending := false
  timer := none
  token := []
  networkDir := networkDir
  backupDir := backupDir
  armed := []
  queued := []
  checked := []
  created := 0

inductive ApplyError where
  | pending
  | backup (reason : Text)
  | write (reason : Text)
  | reload (reason : Text)
deriving DecidableEq, Repr

def ApplyError.message : ApplyError → Text
  | .pending => "a network change is already pending confirmation"
  | .backup reason => "backup failed: " ++ reason
  | .write reason => "write config failed: " ++ reason
  | .reload reason => "reload failed: " ++ reason

/-- One call of `Apply`: the callback, and what the environment does on the way. -/
structure ApplyCall where
  writeConfig : Files → Files × Except Text Unit
  backup : BackupIO
  restore : RestoreIO
  reload : Except Text Unit
  newConfirmToken : Text

namespace SafeApply

variable (s : SafeApply)

/-- The outcome of the second reload, after a failed first one, is ignored. -/
def apply (call : ApplyCall) : SafeApply × Except ApplyError Unit :=
  if s.pending then (s, .error .pending)
  else
    let (saved, backedUp) := Network.backup call.backup s.networkDir s.backupDir
    match backedUp with
    | .error reason => ({ s with backupDir := saved }, .error (.backup reason))
    | .ok () =>
      let (written, wrote) := call.writeConfig s.networkDir
      match wrote with
      | .error reason =>
        ({ s with backupDir := saved, networkDir := (Network.restore call.restore written saved).1 },
          .error (.write reason))
      | .ok () =>
        match call.reload with
        | .error reason =>
          ({ s with backupDir := saved, networkDir := (Network.restore call.restore written saved).1 },
            .error (.reload reason))
        | .ok () =>
          ({ s with
              pending := true, token := call.newConfirmToken, timer := some s.created, networkDir := written,
              backupDir := saved, armed := s.armed ++ [s.created], created := s.created + 1 }, .ok ())

/-- An `Apply` that fails leaves everything but the two directories alone, and it
changes the network directory only by its callback and a `restore` after it. -/
theorem apply_cases (call : ApplyCall) :
    (∃ files saved reason, s.apply call = ({ s with networkDir := files, backupDir := saved }, .error reason) ∧
      (files = s.networkDir ∧ (s.pending = true → saved = s.backupDir) ∨
        s.pending = false ∧ Network.backup call.backup s.networkDir s.backupDir = (saved, .ok ()) ∧
          files = (Network.restore call.restore (call.writeConfig s.networkDir).1 saved).1)) ∨
      (s.pending = false ∧ ∃ saved, Network.backup call.backup s.networkDir s.backupDir = (saved, .ok ()) ∧
        s.apply call = ({ s with
          pending := true, token := call.newConfirmToken, timer := some s.created,
          networkDir := (call.writeConfig s.networkDir).1,
          backupDir := saved, armed := s.armed ++ [s.created], created := s.created + 1 }, .ok ())) := by
  by_cases busy : s.pending = true
  · exact .inl ⟨s.networkDir, s.backupDir, .pending, by rw [apply, if_pos busy], .inl ⟨rfl, fun _ => rfl⟩⟩
  have idle : s.pending = false := by simpa using busy
  rcases copy : Network.backup call.backup s.networkDir s.backupDir with ⟨saved, backedUp⟩
  cases backedUp with
  | error reason =>
    exact .inl ⟨s.networkDir, saved, .backup reason, by simp [apply, busy, copy], .inl ⟨rfl, fun h => absurd h busy⟩⟩
  | ok done =>
    rcases write : call.writeConfig s.networkDir with ⟨written, wrote⟩
    cases wrote with
    | error reason =>
      refine .inl ⟨_, saved, .write reason, ?_, .inr ⟨idle, rfl, rfl⟩⟩
      simp [apply, idle, copy, write]
    | ok done =>
      cases reloaded : call.reload with
      | error reason =>
        refine .inl ⟨_, saved, .reload reason, ?_, .inr ⟨idle, rfl, rfl⟩⟩
        simp [apply, idle, copy, write, reloaded]
      | ok done =>
        refine .inr ⟨idle, saved, rfl, ?_⟩
        simp [apply, idle, copy, write, reloaded]

/-- A running timer fires. -/
def fire (n : Nat) : SafeApply :=
  if n ∈ s.armed then { s with armed := s.armed.erase n, queued := s.queued ++ [n] } else s

theorem fire_cases (n : Nat) :
    n ∈ s.armed ∧ s.fire n = { s with armed := s.armed.erase n, queued := s.queued ++ [n] } ∨ s.fire n = s := by
  by_cases running : n ∈ s.armed
  · exact .inl ⟨running, if_pos running⟩
  · exact .inr (if_neg running)

/-- What the callback does under the lock: it does not know which timer it belongs to. -/
def timeout (io : RestoreIO) : SafeApply :=
  if s.pending then
    { s with networkDir := (Network.restore io s.networkDir s.backupDir).1, pending := false, timer := none }
  else s

def callback (n : Nat) (io : RestoreIO) : SafeApply :=
  if n ∈ s.queued then timeout { s with queued := s.queued.erase n } io else s

/-- `timer.Stop`, which does nothing to a timer that has fired. -/
def stop : SafeApply :=
  { s with
    armed := match s.timer with
      | some n => s.armed.erase n
      | none => s.armed }

inductive RevertError where
  | noPending
  | restore (reason : Text)
  | reload (reason : Text)
deriving DecidableEq, Repr

def RevertError.message : RevertError → Text
  | .noPending => "no pending change to revert"
  | .restore reason => "restore failed: " ++ reason
  | .reload reason => "reload after revert failed: " ++ reason

/-- `os.RemoveAll` of the backup directory; `kept` are the names it could not remove. -/
def confirm (kept : Text → Bool) : SafeApply × Except Text Unit :=
  if s.pending then
    ({ s.stop with
        backupDir := s.backupDir.removeWhere fun name => !kept name, pending := false, token := [], timer := none },
      .ok ())
  else (s, .error "no pending change to confirm")

theorem confirm_cases (kept : Text → Bool) :
    s.pending = true ∧ (∃ saved, (s.confirm kept).1 =
      { s with backupDir := saved, pending := false, token := [], timer := none, armed := s.stop.armed }) ∨
      s.pending = false ∧ (s.confirm kept).1 = s := by
  by_cases pending : s.pending = true
  · refine .inl ⟨pending, s.backupDir.removeWhere fun name => !kept name, ?_⟩
    rw [confirm, if_pos pending, stop]
  · exact .inr ⟨by simpa using pending, by rw [confirm, if_neg pending]⟩

def tokenMatches (token : Text) : Bool := s.pending && token != [] && token == s.token

/-- The first lock of `ConfirmWithToken`. -/
def checkToken (token : Text) : SafeApply × Except Text Unit :=
  if s.tokenMatches token then ({ s with checked := s.checked ++ [token] }, .ok ())
  else (s, .error "no pending change matches this confirmation link")

theorem checkToken_cases (token : Text) :
    s.tokenMatches token = true ∧ (s.checkToken token).1 = { s with checked := s.checked ++ [token] } ∨
      (s.checkToken token).1 = s := by
  by_cases matching : s.tokenMatches token = true
  · exact .inl ⟨matching, by rw [checkToken, if_pos matching]⟩
  · exact .inr (by rw [checkToken, if_neg matching])

/-- The second lock of a `ConfirmWithToken` whose token matched. -/
def finishConfirm (token : Text) (kept : Text → Bool) : SafeApply :=
  if token ∈ s.checked then (confirm { s with checked := s.checked.erase token } kept).1 else s

def revert (io : RestoreIO) (reload : Except Text Unit) : SafeApply × Except RevertError Unit :=
  if s.pending then
    let (restored, done) := Network.restore io s.networkDir s.backupDir
    match done with
    | .error reason => ({ s.stop with networkDir := restored }, .error (.restore reason))
    | .ok () =>
      match reload with
      | .error reason => ({ s.stop with networkDir := restored }, .error (.reload reason))
      | .ok () =>
        ({ s.stop with networkDir := restored, pending := false, token := [], timer := none }, .ok ())
  else (s, .error .noPending)

theorem revert_cases (io : RestoreIO) (reload : Except Text Unit) :
    s.pending = true ∧ (Network.restore io s.networkDir s.backupDir).2 = .ok () ∧ reload = .ok () ∧
        (s.revert io reload).1 = { s with
          networkDir := (Network.restore io s.networkDir s.backupDir).1, pending := false, token := [], timer := none,
          armed := s.stop.armed } ∨
      s.pending = true ∧ ((Network.restore io s.networkDir s.backupDir).2 ≠ .ok () ∨ reload ≠ .ok ()) ∧
        (s.revert io reload).1 = { s with
          networkDir := (Network.restore io s.networkDir s.backupDir).1, armed := s.stop.armed } ∨
      s.pending = false ∧ (s.revert io reload).1 = s := by
  by_cases pending : s.pending = true
  · rcases restored : Network.restore io s.networkDir s.backupDir with ⟨files, done⟩
    cases done with
    | error reason =>
      refine .inr (.inl ⟨pending, .inl (by simp), ?_⟩)
      simp only [revert, if_pos pending, restored]
      rw [stop]
    | ok done =>
      cases reload with
      | error reason =>
        refine .inr (.inl ⟨pending, .inr (by simp), ?_⟩)
        simp only [revert, if_pos pending, restored]
        rw [stop]
      | ok done =>
        refine .inl ⟨pending, rfl, rfl, ?_⟩
        simp only [revert, if_pos pending, restored]
        rw [stop]
  · exact .inr (.inr ⟨by simpa using pending, by rw [revert, if_neg pending]⟩)

theorem callback_cases (n : Nat) (io : RestoreIO) :
    n ∈ s.queued ∧ s.pending = true ∧ s.callback n io = { s with
        queued := s.queued.erase n, networkDir := (Network.restore io s.networkDir s.backupDir).1,
        pending := false, timer := none } ∨
      n ∈ s.queued ∧ s.pending = false ∧ s.callback n io = { s with queued := s.queued.erase n } ∨
      n ∉ s.queued ∧ s.callback n io = s := by
  by_cases waiting : n ∈ s.queued
  · by_cases pending : s.pending = true
    · exact .inl ⟨waiting, pending, by simp only [callback, if_pos waiting, timeout, if_pos pending]⟩
    · exact .inr (.inl ⟨waiting, by simpa using pending, by simp only [callback, if_pos waiting, timeout,
        if_neg pending]⟩)
  · exact .inr (.inr ⟨waiting, if_neg waiting⟩)

end SafeApply

/-- Methods are steps under one mutex, but `ConfirmWithToken` takes two; callbacks run at any later
time. -/
inductive Event where
  | apply (call : ApplyCall)
  | confirm (kept : Text → Bool)
  | checkToken (token : Text)
  | finishConfirm (token : Text) (kept : Text → Bool)
  | revert (io : RestoreIO) (reload : Except Text Unit)
  | fire (timer : Nat)
  | callback (timer : Nat) (io : RestoreIO)

def SafeApply.step (s : SafeApply) : Event → SafeApply
  | .apply call => (s.apply call).1
  | .confirm kept => (s.confirm kept).1
  | .checkToken token => (s.checkToken token).1
  | .finishConfirm token kept => s.finishConfirm token kept
  | .revert io reload => (s.revert io reload).1
  | .fire timer => s.fire timer
  | .callback timer io => s.callback timer io

end Tierd.Network
