import Tierd.Data.Runs
import Tierd.Sharing.SmbConf

namespace Tierd.Sharing.Samba

open Tierd.Data

structure Connection where
  share : Text
  path : Text
deriving DecidableEq

/-- What smbd and systemd have loaded, and the files on disk. -/
structure State where
  /-- `/etc/samba/smb.conf`, empty when there is none. -/
  conf : Text
  dropIn : Option Text
  /-- The drop-in as systemd has loaded it. -/
  loadedDropIn : Option Text
  active : Bool
  loadedConf : Text
  /-- The binding that smbd has opened its sockets with. -/
  listening : Text
  connections : List Connection
deriving DecidableEq

def State.start (state : State) : State :=
  { state with
    active := true, loadedConf := state.conf, listening := globalInterfaceBinding state.conf, connections := [] }

def State.stop (state : State) : State := { state with active := false, connections := [] }

/-- The commands of a call that fail.  A failed restart leaves smbd as it was or stopped. -/
structure Faults where
  daemonReload : Bool
  isActive : Bool
  restartSmbd : Bool
  restartStops : Bool
  restartNmbd : Bool
  reload : Bool
  closeShare : Text → Bool

def daemonReload (faults : Faults) (state : State) : Bool × State :=
  if faults.daemonReload then (false, state) else (true, { state with loadedDropIn := state.dropIn })

def applyServiceMountDependencies (faults : Faults) (shares : List Share) (state : State) : Bool × State :=
  let config := smbdMountDropInConfig shares
  if config = [] then
    if state.dropIn = none then (true, state) else daemonReload faults { state with dropIn := none }
  else if state.dropIn = some config then (true, state)
  else daemonReload faults { state with dropIn := some config }

def restart (faults : Faults) (state : State) : Bool × State :=
  if faults.restartSmbd then (false, if faults.restartStops then state.stop else state)
  else (!faults.restartNmbd, state.start)

def closeShare (share : Text) (state : State) : State :=
  { state with connections := state.connections.filter fun connection => connection.share ≠ share }

/-- The loop over the shares to close; it ends at the first failure. -/
def closeShares (faults : Faults) : List Text → State → Bool × State
  | [], state => (true, state)
  | share :: rest, state =>
    if faults.closeShare share then (false, state) else closeShares faults rest (closeShare share state)

def writeConfigWithOptions (faults : Faults) (shares : List Share) (hostname : Text) (opts : Options) (state : State) :
    Bool × State :=
  let config := generateConfigWithOptions shares hostname opts
  let sharesToClose := sharesRequiringDisconnect state.conf config
  let rebind := globalInterfaceBinding state.conf ≠ globalInterfaceBinding config
  let mounted := applyServiceMountDependencies faults shares { state with conf := config }
  if mounted.1 = false then mounted
  else if faults.isActive ∨ state.active = false then mounted
  else if rebind then restart faults mounted.2
  else if faults.reload then (false, mounted.2)
  else closeShares faults sharesToClose { mounted.2 with loadedConf := config }

inductive Event where
  | call (faults : Faults) (shares : List Share) (hostname : Text) (opts : Options)
  /-- A client opens a share that smbd serves. -/
  | connect (share : Text)
  | disconnect (connection : Connection)
  /-- smbd is started, if it is not running, or stopped. -/
  | start
  | stop
  /-- systemd loads its units for another reason. -/
  | daemonReload

def step (state : State) : Event → State
  | .call faults shares hostname opts => (writeConfigWithOptions faults shares hostname opts state).2
  | .connect share =>
    match (sharePaths state.loadedConf).lookup share with
    | some path => if state.active then { state with connections := ⟨share, path⟩ :: state.connections } else state
    | none => state
  | .disconnect connection => { state with connections := state.connections.erase connection }
  | .start => if state.active then state else state.start
  | .stop => state.stop
  | .daemonReload => { state with loadedDropIn := state.dropIn }

def Served (conf share path : Text) : Prop :=
  ((sharePaths conf).lookup share).map cleanConfigPath = some (cleanConfigPath path)
deriving Decidable

def dropInOf (shares : List Share) : Option Text :=
  if smbdMountDropInConfig shares = [] then none else some (smbdMountDropInConfig shares)

/-- smbd and systemd have the texts of the call, and no connection outlives its share. -/
structure State.Agrees (shares : List Share) (hostname : Text) (opts : Options) (state : State) : Prop where
  written : state.conf = generateConfigWithOptions shares hostname opts
  loaded : state.loadedConf = state.conf
  bound : state.listening = globalInterfaceBinding state.conf
  mounts : state.dropIn = dropInOf shares ∧ state.loadedDropIn = state.dropIn
  served : ∀ connection ∈ state.connections, Served state.conf connection.share connection.path

/-- The commands that may not fail: systemd's reload of its units, the query for smbd's state, a
restart of smbd and the closing of a share; and a reload of smbd when shares are to be closed after
it. -/
def Careful (state : State) : Event → Prop
  | .call faults shares hostname opts =>
    let toClose := sharesRequiringDisconnect state.conf (generateConfigWithOptions shares hostname opts)
    faults.daemonReload = false ∧ faults.isActive = false ∧ faults.restartSmbd = false ∧
      (faults.reload = true → toClose = []) ∧ ∀ share ∈ toClose, faults.closeShare share = false
  | _ => True

/-- What a careful run keeps. smbd may have missed a reload, but then it serves nothing that is not
served on disk. -/
structure State.Kept (state : State) : Prop where
  idle : state.active = false → state.connections = []
  bound : state.active = true → state.listening = globalInterfaceBinding state.conf
  mounts : state.loadedDropIn = state.dropIn
  served : ∀ connection ∈ state.connections, Served state.conf connection.share connection.path
  offered : state.active = true → ∀ share path, (sharePaths state.loadedConf).lookup share = some path →
    Served state.conf share path

section Steps

variable {state : State} {faults : Faults} {shares : List Share}

theorem served_of_not_closed {oldConf newConf share path : Text} (served : Served oldConf share path)
    (kept : share ∉ sharesRequiringDisconnect oldConf newConf) : Served newConf share path := by
  obtain ⟨stored, found, same⟩ := Option.map_eq_some_iff.mp served
  by_contra apart
  refine kept (mem_sharesRequiringDisconnect found fun still => apart ?_)
  rw [Served, still, same]

theorem applyServiceMountDependencies_spec (works : faults.daemonReload = false)
    (mounts : state.loadedDropIn = state.dropIn) :
    applyServiceMountDependencies faults shares state =
      (true, { state with dropIn := dropInOf shares, loadedDropIn := dropInOf shares }) := by
  have unchanged (same : state.dropIn = dropInOf shares) :
      (true, state) = (true, { state with dropIn := dropInOf shares, loadedDropIn := dropInOf shares }) := by
    obtain ⟨conf, dropIn, loadedDropIn⟩ := state
    dsimp only at mounts same ⊢
    rw [mounts, same]
  unfold applyServiceMountDependencies daemonReload
  simp only [works, Bool.false_eq_true, if_false]
  split_ifs with none_mounted absent current
  · exact unchanged (absent.trans (if_pos none_mounted).symm)
  · rw [dropInOf, if_pos none_mounted]
  · exact unchanged (current.trans (if_neg none_mounted).symm)
  · rw [dropInOf, if_neg none_mounted]

theorem closeShares_spec {names : List Text} (works : ∀ share ∈ names, faults.closeShare share = false)
    (state : State) :
    closeShares faults names state =
      (true, { state with connections := state.connections.filter fun connection => connection.share ∉ names }) := by
  induction names generalizing state with
  | nil => simp [closeShares]
  | cons share rest ih =>
    have first := works share List.mem_cons_self
    rw [closeShares, first, if_neg Bool.false_ne_true,
      ih fun other member => works other (List.mem_cons_of_mem _ member), closeShare, List.filter_filter]
    simp [Bool.and_comm]

theorem served_of_lookup {conf share path : Text} (found : (sharePaths conf).lookup share = some path) :
    Served conf share path := by
  rw [Served, found]
  rfl

theorem kept_start (mounts : state.loadedDropIn = state.dropIn) : state.start.Kept where
  idle := nofun
  bound _ := rfl
  mounts := mounts
  served := nofun
  offered _ _ _ found := served_of_lookup found

theorem call_spec {hostname : Text} {opts : Options} (kept : state.Kept)
    (careful : Careful state (.call faults shares hostname opts)) :
    let result := writeConfigWithOptions faults shares hostname opts state
    result.2.Kept ∧ (result.1 = true → result.2.active = true → result.2.Agrees shares hostname opts) := by
  obtain ⟨daemon, query, smbd, reload, close⟩ := careful
  have mounted : applyServiceMountDependencies faults shares
      { state with conf := generateConfigWithOptions shares hostname opts } = _ :=
    applyServiceMountDependencies_spec daemon kept.mounts
  simp only [writeConfigWithOptions, mounted, query, Bool.true_eq_false, Bool.false_eq_true, if_false, false_or]
  split_ifs with stopped rebind failed
  · refine ⟨⟨fun _ => kept.idle stopped, fun active => ?_, rfl, ?_, fun active => ?_⟩, fun _ active => ?_⟩
    · exact absurd (stopped.symm.trans active) Bool.false_ne_true
    · rw [kept.idle stopped]
      exact nofun
    · exact absurd (stopped.symm.trans active) Bool.false_ne_true
    · exact absurd (stopped.symm.trans active) Bool.false_ne_true
  · rw [restart, smbd, if_neg Bool.false_ne_true]
    exact ⟨kept_start rfl, fun _ _ => ⟨rfl, rfl, rfl, ⟨rfl, rfl⟩, nofun⟩⟩
  · have active : state.active = true := by simpa using stopped
    have serves {share path : Text} (before : Served state.conf share path) :
        Served (generateConfigWithOptions shares hostname opts) share path :=
      served_of_not_closed before (by rw [reload failed]; exact List.not_mem_nil)
    refine ⟨⟨fun idle => absurd (idle.symm.trans active) Bool.false_ne_true, fun _ => ?_, rfl, ?_, ?_⟩, nofun⟩
    · exact (kept.bound active).trans (not_not.mp rebind)
    · exact fun connection member => serves (kept.served connection member)
    · exact fun _ share path found => serves (kept.offered active share path found)
  · have active : state.active = true := by simpa using stopped
    rw [closeShares_spec close]
    have serves : ∀ connection ∈ state.connections.filter (fun connection => connection.share ∉
        sharesRequiringDisconnect state.conf (generateConfigWithOptions shares hostname opts)),
        Served (generateConfigWithOptions shares hostname opts) connection.share connection.path := by
      intro connection member
      obtain ⟨listed, left⟩ := List.mem_filter.mp member
      exact served_of_not_closed (kept.served connection listed) (of_decide_eq_true left)
    have bound := (kept.bound active).trans (not_not.mp rebind)
    refine ⟨⟨fun idle => absurd (idle.symm.trans active) Bool.false_ne_true, fun _ => bound, rfl, serves, ?_⟩, ?_⟩
    · exact fun _ share path found => served_of_lookup found
    · exact fun _ _ => ⟨rfl, rfl, bound, ⟨rfl, rfl⟩, serves⟩

theorem kept_step (kept : state.Kept) {event : Event} (careful : Careful state event) : (step state event).Kept := by
  cases event with
  | call faults shares hostname opts => exact (call_spec kept careful).1
  | connect share =>
    simp only [step]
    split
    case h_1 path found =>
      split_ifs with active
      · refine ⟨fun idle => absurd (idle.symm.trans active) Bool.false_ne_true, kept.bound, kept.mounts,
          ?_, kept.offered⟩
        exact List.forall_mem_cons.mpr ⟨kept.offered active share path found, kept.served⟩
      · exact kept
    case h_2 => exact kept
  | disconnect connection =>
    refine ⟨fun idle => ?_, kept.bound, kept.mounts, fun other member => ?_, kept.offered⟩
    · simp only [step]
      rw [kept.idle idle]
      rfl
    · exact kept.served other (List.mem_of_mem_erase member)
  | start =>
    simp only [step]
    split_ifs
    · exact kept
    · exact kept_start kept.mounts
  | stop => exact ⟨fun _ => rfl, nofun, kept.mounts, nofun, nofun⟩
  | daemonReload => exact ⟨kept.idle, kept.bound, rfl, kept.served, kept.offered⟩

end Steps

/-- In a careful run, whenever a call returns nil with smbd active, smbd and systemd have what the
call wrote. -/
theorem samba_agrees {start : State} {events : List Event} {faults : Faults} {shares : List Share} {hostname : Text}
    {opts : Options} (kept : start.Kept)
    (careful : Guarded step Careful start (events ++ [.call faults shares hostname opts])) :
    let result := writeConfigWithOptions faults shares hostname opts (run step start events)
    result.1 = true → result.2.active = true → result.2.Agrees shares hostname opts := by
  have preserved : ∀ state event, State.Kept state → Careful state event → State.Kept (step state event) :=
    fun state event before allowed => kept_step before allowed
  exact (call_spec (guarded_run_invariant preserved careful.before kept) careful.at_split).2

def noFaults : Faults := ⟨false, false, false, false, false, false, fun _ => false⟩

def media : Share := ⟨"media", "/mnt/m", false, false, [], []⟩

def plainOptions : Options := ⟨false, false, []⟩

/-- Nothing is written yet and smbd runs. -/
def booted : State := State.start ⟨[], none, none, false, [], [], []⟩

theorem kept_booted : booted.Kept := kept_start rfl

def writes (faults : Faults) (shares : List Share) : Event := .call faults shares "nas" plainOptions

/-- A share is added, opened and removed again. -/
theorem removed_share_is_closed :
    let before := [writes noFaults [media], .connect media.name]
    let result := writeConfigWithOptions noFaults [] "nas" plainOptions (run step booted before)
    booted.Kept ∧ Guarded step Careful booted (before ++ [.call noFaults [] "nas" plainOptions]) ∧
      (result.1 = true ∧ result.2.active = true) ∧ result.2.Agrees [] "nas" plainOptions := by
  have careful : Guarded step Careful booted
      ([writes noFaults [media], .connect media.name] ++ [.call noFaults [] "nas" plainOptions]) :=
    ⟨⟨rfl, rfl, rfl, nofun, fun _ _ => rfl⟩, trivial, ⟨rfl, rfl, rfl, nofun, fun _ _ => rfl⟩, trivial⟩
  have returns : (writeConfigWithOptions noFaults [] "nas" plainOptions
      (run step booted [writes noFaults [media], .connect media.name])).1 = true := by decide +kernel
  have active : (writeConfigWithOptions noFaults [] "nas" plainOptions
      (run step booted [writes noFaults [media], .connect media.name])).2.active = true := by decide +kernel
  exact ⟨kept_booted, careful, ⟨returns, active⟩, samba_agrees kept_booted careful returns active⟩

/-- smbd's reload fails when the share is removed. The next call finds the file as it should be,
returns nil, and the client is still connected. -/
theorem connection_outlives_share :
    let opened := run step booted [writes noFaults [media], .connect media.name]
    let failed := writeConfigWithOptions { noFaults with reload := true } [] "nas" plainOptions opened
    let again := writeConfigWithOptions noFaults [] "nas" plainOptions failed.2
    failed.1 = false ∧ again.1 = true ∧ again.2.active = true ∧ again.2.connections = [⟨media.name, media.path⟩] ∧
      (sharePaths again.2.conf).lookup media.name = none := by
  decide +kernel

end Tierd.Sharing.Samba
