import Tierd.Backup.PoolForPath
import Tierd.Data.Rows
import Tierd.Data.Runs

namespace Tierd.Backup

open Tierd.Data Tierd.Data.Paths List

inductive Method where
  | rclone | rsync | cp
deriving DecidableEq

inductive Direction where
  | push | pull
deriving DecidableEq

structure Config where
  id : Nat
  method : Method
  direction : Direction
  deleteMode : Bool
  scheduleEnabled : Bool
  localPath : Text
deriving DecidableEq

structure RunRow where
  id : Nat
  configID : Nat
  running : Bool
deriving DecidableEq

/-- The flag files under `/sys/fs/smoothfs` that can be read. -/
abbrev Flags := List (Text × Text)

structure Launch where
  config : Config
  pools : List Pool
  flags : Flags
deriving DecidableEq

structure State where
  configs : List Config
  runs : List RunRow
  nextRun : Nat
  /-- The runs with a cancel function, which are those of this daemon. -/
  live : List Nat
  draining : Bool
  pools : List Pool
  flags : Flags
  started : List Launch
deriving DecidableEq

inductive GuardError where
  | listPools
  | unreadable (destination pool : Text)
  | spillActive (destination pool : Text)
deriving DecidableEq

def GuardError.text : GuardError → String
  | .listPools => "delete guard: list smoothfs pools"
  | .unreadable destination pool =>
    "refusing rsync --delete for smoothfs destination " ++ String.ofList destination ++
      ": cannot read spill status for pool " ++ String.ofList pool
  | .spillActive destination pool =>
    "refusing rsync --delete for spill-active smoothfs destination " ++ String.ofList destination ++
      " (pool " ++ String.ofList pool ++ ")"

/-- `none` where the flag cannot be read. -/
def smoothfsPoolHasAnySpill (flags : Flags) (uuid : Text) : Option Bool :=
  (flags.lookup uuid).map fun content => Text.trimSpace content = ['1']

/-- An rsync pull with `--delete`. -/
def Config.Deletes (cfg : Config) : Prop := cfg.deleteMode = true ∧ cfg.method = .rsync ∧ cfg.direction = .pull
deriving Decidable

/-- A pull with `--delete` into a pool that has spilled would remove files that only look absent. -/
def guardDeleteMode (state : State) (lists : Bool) (cfg : Config) : Except GuardError Unit :=
  if ¬ cfg.Deletes then .ok ()
  else if lists = false then .error .listPools
  else
    match smoothfsPoolForPath (cleanPath cfg.localPath) state.pools with
    | none => .ok ()
    | some pool =>
      match smoothfsPoolHasAnySpill state.flags pool.uuid with
      | none => .error (.unreadable (cleanPath cfg.localPath) pool.name)
      | some true => .error (.spillActive (cleanPath cfg.localPath) pool.name)
      | some false => .ok ()

/-- What the environment decides for one configuration: whether its slot is due and claimed, and
which statements of the database succeed. -/
structure Luck where
  due : Bool
  claimed : Bool
  reads : Bool
  creates : Bool
  lists : Bool
  records : Bool
deriving DecidableEq

def State.launch (state : State) (runID : Nat) (cfg : Config) : State :=
  { state with
    live := state.live ++ [runID]
    started := state.started ++ [⟨cfg, state.pools, state.flags⟩] }

def startRun (state : State) (runID : Nat) (cfg : Config) (allowDuringDrain : Bool) : Option State :=
  if state.draining = true ∧ allowDuringDrain = false then none
  else if runID ∈ state.live then none
  else some (state.launch runID cfg)

def failBackupRun (state : State) (runID : Nat) (records : Bool) : State :=
  if records then
    { state with runs := changeRow RunRow.id runID (fun row => { row with running := false }) state.runs }
  else state

def getBackupConfig (state : State) (id : Nat) : Option Config := state.configs.find? fun cfg => cfg.id = id

/-- Refused while a run of the configuration is marked as running. -/
def createBackupRun (state : State) (configID : Nat) (creates : Bool) : Option (Nat × State) :=
  if creates = false ∨ ∃ row ∈ state.runs, row.configID = configID ∧ row.running = true then none
  else some (state.nextRun,
    { state with runs := state.runs ++ [⟨state.nextRun, configID, true⟩], nextRun := state.nextRun + 1 })

/-- A run that cannot start because of a shutdown is marked as failed. -/
def startOrFail (state : State) (runID : Nat) (cfg : Config) (luck : Luck) : State :=
  (startRun state runID cfg false).getD (failBackupRun state runID luck.records)

def runBackup (state : State) (id : Nat) (luck : Luck) : State :=
  if state.draining = true ∨ luck.reads = false then state
  else
    match getBackupConfig state id with
    | none => state
    | some cfg =>
      match guardDeleteMode state luck.lists cfg with
      | .error _ => state
      | .ok _ =>
        match createBackupRun state id luck.creates with
        | none => state
        | some (runID, created) => startOrFail created runID cfg luck

/-- The row is created first here, and marked as failed when the guard refuses. -/
def tickConfig (luck : Nat → Luck) (state : State) (cfg : Config) : State :=
  if cfg.scheduleEnabled = false ∨ (luck cfg.id).due = false ∨ (luck cfg.id).claimed = false ∨
      (luck cfg.id).reads = false ∨ ∃ row ∈ state.runs, row.configID = cfg.id ∧ row.running = true then state
  else
    match getBackupConfig state cfg.id with
    | none => state
    | some full =>
      match createBackupRun state cfg.id (luck cfg.id).creates with
      | none => state
      | some (runID, created) =>
        match guardDeleteMode created (luck cfg.id).lists full with
        | .error _ => failBackupRun created runID (luck cfg.id).records
        | .ok _ => startOrFail created runID full (luck cfg.id)

def scheduleTick (state : State) (luck : Nat → Luck) : State :=
  if state.draining then state else state.configs.foldl (tickConfig luck) state

def resumeRun (luck : Nat → Luck) (state : State) (row : RunRow) : State :=
  match getBackupConfig state row.configID with
  | none => failBackupRun state row.id (luck row.configID).records
  | some cfg => (startRun state row.id cfg true).getD state

def resumeActiveRuns (state : State) (luck : Nat → Luck) : State :=
  (state.runs.filter fun row => row.running).reverse.foldl (resumeRun luck) state

/-- Runs begin by request, on schedule, and after a restart for the rows still marked as running. -/
inductive Event where
  | runBackup (id : Nat) (luck : Luck)
  | scheduleTick (luck : Nat → Luck)
  | restart (luck : Nat → Luck)
  | beginShutdown
  | finish (runID : Nat) (records : Bool)
  | saveConfig (cfg : Config)
  | deleteConfig (id : Nat)
  | setPools (pools : List Pool)
  | setFlags (flags : Flags)

def hasRunning (state : State) (configID : Nat) : Prop :=
  ∃ row ∈ state.runs, row.configID = configID ∧ row.running = true
deriving Decidable

def step (state : State) : Event → State
  | .runBackup id luck => runBackup state id luck
  | .scheduleTick luck => scheduleTick state luck
  | .restart luck => resumeActiveRuns { state with live := [], draining := false } luck
  | .beginShutdown => { state with draining := true }
  | .finish runID records => { failBackupRun state runID records with live := state.live.filter (· ≠ runID) }
  | .saveConfig cfg =>
    if hasRunning state cfg.id then state
    else { state with configs := state.configs.filter (fun other => other.id ≠ cfg.id) ++ [cfg] }
  | .deleteConfig id =>
    if hasRunning state id then state
    else { state with configs := state.configs.filter fun cfg => cfg.id ≠ id }
  | .setPools pools => { state with pools := pools }
  | .setFlags flags => { state with flags := flags }

/-- The pool a directory lies in: the innermost one. -/
def Pool.Holds (pool : Pool) (pools : List Pool) (path : Text) : Prop :=
  names pool.mountpoint <+: names path ∧
    ∀ other ∈ pools, names other.mountpoint <+: names path →
      (names other.mountpoint).length ≤ (names pool.mountpoint).length
deriving Decidable

/-- A pull with delete mode into a pool whose spill flag is set or cannot be read. -/
def Launch.Hazard (launch : Launch) : Prop :=
  launch.config.Deletes ∧ ∃ pool ∈ launch.pools, pool.Holds launch.pools launch.config.localPath ∧
    smoothfsPoolHasAnySpill launch.flags pool.uuid ≠ some false
deriving Decidable

structure ProperPools (pools : List Pool) : Prop where
  proper : ∀ pool ∈ pools, pool.Proper
  apart : ∀ pool ∈ pools, ∀ other ∈ pools, names pool.mountpoint = names other.mountpoint → pool = other

instance (pools : List Pool) : Decidable (ProperPools pools) :=
  decidable_of_iff ((∀ pool ∈ pools, pool.Proper) ∧
      ∀ pool ∈ pools, ∀ other ∈ pools, names pool.mountpoint = names other.mountpoint → pool = other)
    ⟨fun both => ⟨both.1, both.2⟩, fun proper => ⟨proper.proper, proper.apart⟩⟩

def Config.Rooted (cfg : Config) : Prop := cfg.Deletes → cfg.localPath.head? = some slash
deriving Decidable

/-- Destinations of such pulls are absolute paths, mountpoints are proper, and no run is resumed
that the guard would refuse now. -/
def Careful (state : State) : Event → Prop
  | .saveConfig cfg => cfg.Rooted
  | .setPools pools => ProperPools pools
  | .restart _ => ∀ row ∈ state.runs, row.running = true →
      ∀ cfg ∈ getBackupConfig state row.configID, ¬ Launch.Hazard ⟨cfg, state.pools, state.flags⟩
  | .runBackup _ _ | .scheduleTick _ | .beginShutdown | .finish _ _ | .deleteConfig _ | .setFlags _ => True

instance (state : State) : ∀ event, Decidable (Careful state event)
  | .saveConfig cfg => inferInstanceAs (Decidable cfg.Rooted)
  | .setPools pools => inferInstanceAs (Decidable (ProperPools pools))
  | .restart _ => inferInstanceAs (Decidable (∀ row ∈ state.runs, row.running = true →
      ∀ cfg ∈ getBackupConfig state row.configID, ¬ Launch.Hazard ⟨cfg, state.pools, state.flags⟩))
  | .runBackup _ _ | .scheduleTick _ | .beginShutdown | .finish _ _ | .deleteConfig _ | .setFlags _ => isTrue trivial

structure Sound (state : State) : Prop where
  pools : ProperPools state.pools
  rooted : ∀ cfg ∈ state.configs, cfg.Rooted
  safe : ∀ launch ∈ state.started, ¬ launch.Hazard

theorem cleanPath_head {path : Text} (absolute : path.head? = some slash) : (cleanPath path).head? = some slash := by
  rw [cleanPath_absolute absolute]
  rfl

theorem names_cleanPath {path : Text} (absolute : path.head? = some slash) : names (cleanPath path) = names path := by
  rw [cleanPath_absolute absolute, names_clean]

/-- The pool found is the innermost one. -/
theorem found_of_holds {pools : List Pool} {pool : Pool} {path : Text} (proper : ProperPools pools)
    (absolute : path.head? = some slash) (member : pool ∈ pools) (holds : pool.Holds pools path) :
    smoothfsPoolForPath (cleanPath path) pools = some pool := by
  have head := cleanPath_head absolute
  have same := names_cleanPath absolute
  have covers : pool.Covers (cleanPath path) := (covers_iff (proper.proper pool member) head).mpr (same ▸ holds.1)
  obtain ⟨found, result, longer⟩ := longest_of_covers member covers
  obtain ⟨foundMember, foundCovers⟩ := covers_of_found result
  have foundBelow : names found.mountpoint <+: names path :=
    same ▸ (covers_iff (proper.proper found foundMember) head).mp foundCovers
  have shorter := holds.2 found foundMember foundBelow
  have nested := prefix_of_prefix_length_le foundBelow holds.1 shorter
  have equal : names found.mountpoint = names pool.mountpoint := by
    by_contra further
    have strictly := clean_length_lt (proper.proper found foundMember).somewhere nested further
    rw [cleanPath_absolute (proper.proper pool member).absolute,
      cleanPath_absolute (proper.proper found foundMember).absolute] at longer
    omega
  rw [result, proper.apart found foundMember pool member equal]

theorem guard_ok {state : State} {lists : Bool} {cfg : Config} (pools : ProperPools state.pools) (rooted : cfg.Rooted)
    (passed : guardDeleteMode state lists cfg = .ok ()) : ¬ Launch.Hazard ⟨cfg, state.pools, state.flags⟩ := by
  rintro ⟨deletes, pool, member, holds, flagged⟩
  dsimp only at deletes member holds flagged
  have found := found_of_holds pools (rooted deletes) member holds
  simp only [guardDeleteMode, deletes, not_true_eq_false, if_false, found] at passed
  split at passed
  · cases passed
  · split at passed
    case h_1 => cases passed
    case h_2 => cases passed
    case h_3 clear => exact flagged clear

section Step

variable {state after : State} {cfg : Config} {runID : Nat}

structure Harmless (state after : State) : Prop where
  pools : after.pools = state.pools
  flags : after.flags = state.flags
  configs : after.configs = state.configs
  safe : ∀ launch ∈ after.started, launch ∈ state.started ∨ ¬ launch.Hazard

theorem Harmless.refl (state : State) : Harmless state state := ⟨rfl, rfl, rfl, fun _ => .inl⟩

theorem Harmless.trans {later : State} (first : Harmless state after) (second : Harmless after later) :
    Harmless state later where
  pools := second.pools.trans first.pools
  flags := second.flags.trans first.flags
  configs := second.configs.trans first.configs
  safe launch member := (second.safe launch member).elim (first.safe launch) .inr

theorem Harmless.sound (harmless : Harmless state after) (sound : Sound state) : Sound after where
  pools := harmless.pools ▸ sound.pools
  rooted := harmless.configs ▸ sound.rooted
  safe launch member := (harmless.safe launch member).elim (sound.safe launch) id

theorem failBackupRun_harmless {records : Bool} : Harmless state (failBackupRun state runID records) := by
  unfold failBackupRun
  split
  · exact ⟨rfl, rfl, rfl, fun _ => .inl⟩
  · exact .refl state

theorem launch_harmless (safe : ¬ Launch.Hazard ⟨cfg, state.pools, state.flags⟩) :
    Harmless state (state.launch runID cfg) := by
  refine ⟨rfl, rfl, rfl, fun launch member => ?_⟩
  rcases mem_append.mp member with old | new
  · exact .inl old
  · exact .inr (mem_singleton.mp new ▸ safe)

theorem startRun_harmless {allowDuringDrain : Bool} (safe : ¬ Launch.Hazard ⟨cfg, state.pools, state.flags⟩)
    (done : startRun state runID cfg allowDuringDrain = some after) : Harmless state after := by
  unfold startRun at done
  split_ifs at done
  obtain rfl := Option.some.inj done
  exact launch_harmless safe

theorem startOrFail_harmless {luck : Luck} (safe : ¬ Launch.Hazard ⟨cfg, state.pools, state.flags⟩) :
    Harmless state (startOrFail state runID cfg luck) := by
  unfold startOrFail
  cases started : startRun state runID cfg false with
  | none => exact failBackupRun_harmless
  | some after => exact startRun_harmless safe started

theorem createBackupRun_harmless {configID : Nat} {creates : Bool}
    (done : createBackupRun state configID creates = some (runID, after)) : Harmless state after := by
  unfold createBackupRun at done
  split_ifs at done
  obtain ⟨rfl, rfl⟩ := Prod.mk.inj (Option.some.inj done)
  exact ⟨rfl, rfl, rfl, fun _ => .inl⟩

theorem getBackupConfig_mem {id : Nat} (found : getBackupConfig state id = some cfg) : cfg ∈ state.configs :=
  mem_of_find?_eq_some found

theorem runBackup_harmless {id : Nat} {luck : Luck} (sound : Sound state) :
    Harmless state (runBackup state id luck) := by
  unfold runBackup
  split_ifs
  · exact .refl state
  split
  case h_1 => exact .refl state
  case h_2 cfg found =>
    split
    case h_1 => exact .refl state
    case h_2 passed =>
      have safe := guard_ok sound.pools (sound.rooted cfg (getBackupConfig_mem found)) passed
      split
      case h_1 => exact .refl state
      case h_2 runID created made =>
        have kept := createBackupRun_harmless made
        refine kept.trans (startOrFail_harmless ?_)
        rw [kept.pools, kept.flags]
        exact safe

theorem tickConfig_harmless {luck : Nat → Luck} (sound : Sound state) : Harmless state (tickConfig luck state cfg) := by
  unfold tickConfig
  split_ifs
  · exact .refl state
  split
  case h_1 => exact .refl state
  case h_2 full found =>
    split
    case h_1 => exact .refl state
    case h_2 runID created made =>
      have kept := createBackupRun_harmless made
      refine kept.trans ?_
      split
      case h_1 => exact failBackupRun_harmless
      case h_2 passed =>
        have stillSound := kept.sound sound
        have rooted := sound.rooted full (getBackupConfig_mem found)
        exact startOrFail_harmless (guard_ok stillSound.pools rooted passed)

theorem foldl_harmless {ι : Type} {handle : State → ι → State} {items : List ι}
    (round : ∀ item ∈ items, ∀ reached, Harmless state reached → Harmless reached (handle reached item)) :
    Harmless state (items.foldl handle state) := by
  have inductively : ∀ (left : List ι) (reached : State), (∀ item ∈ left, item ∈ items) → Harmless state reached →
      Harmless state (left.foldl handle reached) := by
    intro left
    induction left with
    | nil => exact fun reached _ harmless => harmless
    | cons item rest ih =>
      intro reached inside harmless
      refine ih _ (fun other member => inside other (mem_cons_of_mem item member)) ?_
      exact harmless.trans (round item (inside item mem_cons_self) reached harmless)
  exact inductively items state (fun _ member => member) (.refl state)

theorem scheduleTick_harmless {luck : Nat → Luck} (sound : Sound state) : Harmless state (scheduleTick state luck) := by
  unfold scheduleTick
  split_ifs
  · exact .refl state
  · exact foldl_harmless fun _ _ reached harmless => tickConfig_harmless (harmless.sound sound)

theorem resumeActiveRuns_harmless {luck : Nat → Luck}
    (safe : ∀ row ∈ state.runs, row.running = true → ∀ cfg ∈ getBackupConfig state row.configID,
      ¬ Launch.Hazard ⟨cfg, state.pools, state.flags⟩) : Harmless state (resumeActiveRuns state luck) := by
  refine foldl_harmless fun row member reached harmless => ?_
  obtain ⟨listed, running⟩ := mem_filter.mp (mem_reverse.mp member)
  unfold resumeRun
  split
  case h_1 => exact failBackupRun_harmless
  case h_2 cfg found =>
    cases started : startRun reached row.id cfg true with
    | none => exact .refl reached
    | some after =>
      refine startRun_harmless ?_ started
      rw [harmless.pools, harmless.flags]
      refine safe row listed (by simpa using running) cfg ?_
      rwa [getBackupConfig, harmless.configs] at found

theorem Sound.step {event : Event} (sound : Sound state) (careful : Careful state event) :
    Sound (step state event) := by
  cases event with
  | runBackup id luck => exact (runBackup_harmless sound).sound sound
  | scheduleTick luck => exact (scheduleTick_harmless sound).sound sound
  | restart luck =>
    have fresh : Sound { state with live := [], draining := false } := ⟨sound.pools, sound.rooted, sound.safe⟩
    have resumed : Harmless { state with live := [], draining := false }
        (resumeActiveRuns { state with live := [], draining := false } luck) := resumeActiveRuns_harmless careful
    exact resumed.sound fresh
  | beginShutdown => exact ⟨sound.pools, sound.rooted, sound.safe⟩
  | finish runID records =>
    have failed : Sound (failBackupRun state runID records) := failBackupRun_harmless.sound sound
    exact ⟨failed.pools, failed.rooted, failed.safe⟩
  | saveConfig cfg =>
    simp only [Backup.step]
    split_ifs
    · exact sound
    · refine ⟨sound.pools, forall_mem_append.mpr ⟨fun other kept => ?_, fun other single => ?_⟩, sound.safe⟩
      · exact sound.rooted other (mem_of_mem_filter kept)
      · obtain rfl := mem_singleton.mp single
        exact careful
  | deleteConfig id =>
    simp only [Backup.step]
    split_ifs
    · exact sound
    · exact ⟨sound.pools, fun other kept => sound.rooted other (mem_of_mem_filter kept), sound.safe⟩
  | setPools pools => exact ⟨careful, sound.rooted, sound.safe⟩
  | setFlags flags => exact ⟨sound.pools, sound.rooted, sound.safe⟩

end Step

/-- No careful run of requests, ticks and restarts starts a hazardous backup. -/
theorem no_hazardous_start {start : State} {events : List Event} (sound : Sound start)
    (careful : Guarded step Careful start events) : ∀ launch ∈ (run step start events).started, ¬ launch.Hazard := by
  have preserved : ∀ state event, Sound state → Careful state event → Sound (step state event) :=
    fun _ _ kept permitted => kept.step permitted
  exact (guarded_run_invariant preserved careful sound).safe

def mirrorState : State where
  configs := [⟨1, .rsync, .pull, true, true, "/mnt/tank/media"⟩]
  runs := []
  nextRun := 1
  live := []
  draining := false
  pools := [⟨"u", "tank", "/mnt/tank"⟩]
  flags := [("u", "0\n")]
  started := []

def goodLuck : Luck := ⟨true, true, true, true, true, true⟩

/-- A request is served, and refused once the flag is set. -/
theorem requests_stay_safe :
    (run step mirrorState [.runBackup 1 goodLuck, .finish 1 true, .setFlags [("u", "1\n")],
      .runBackup 1 goodLuck]).started.length = 1 ∧
    ∀ launch ∈ (run step mirrorState [.runBackup 1 goodLuck, .finish 1 true, .setFlags [("u", "1\n")],
      .runBackup 1 goodLuck]).started, ¬ launch.Hazard :=
  ⟨by decide, no_hazardous_start ⟨by decide, by decide, by decide⟩ (by decide)⟩

/-- The flag is set while a run is under way, and the daemon restarts. -/
theorem resumed_into_spill :
    ∃ launch ∈ (run step mirrorState [.runBackup 1 goodLuck, .setFlags [("u", "1\n")],
      .restart fun _ => goodLuck]).started, launch.Hazard := by
  decide

end Tierd.Backup
