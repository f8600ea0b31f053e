import Tierd.Backup.DriveJobs

namespace Tierd.Backup.Drive

open Tierd.Data List

/-- The job has what the kit says. -/
structure BackupConfig.Uses (cfg : BackupConfig) (kit : Kit) : Prop where
  password : cfg.cryptPassword = kit.password
  salt : cfg.cryptSalt = kit.salt
  account : cfg.googleAccountID = some kit.account
  folder : cfg.remotePath = kit.remotePath

/-- The kit at this place of the history was handed out, was acknowledged for the job, and is what
the job uses. -/
def Handler.KitOf (handler : Handler) (cfg : BackupConfig) (serial : Nat) : Prop :=
  (cfg.id, serial) ∈ handler.confirmed ∧ ∃ kit, handler.handedOut[serial]? = some kit ∧ cfg.Uses kit

def SameKeys (first second : BackupConfig) : Prop :=
  second.encrypt = first.encrypt ∧
    (first.encrypt = true → second.cryptPassword = first.cryptPassword ∧ second.cryptSalt = first.cryptSalt ∧
      second.googleAccountID = first.googleAccountID ∧ second.remotePath = first.remotePath)

variable {handler : Handler} {now : Nat} {req body : CreateBackupConfigRequest}
  {old : Option BackupConfig} {keys : Keys}

inductive Source (handler : Handler) (req : CreateBackupConfigRequest) (old : Option BackupConfig) : Keys → Prop
  | plain (flag : req.encrypt = false) (settled : ∀ cfg ∈ old, handler.HasRun cfg.id → cfg.encrypt = false) :
      Source handler req old Keys.none
  | kept {cfg : BackupConfig} (existing : cfg ∈ old) (flag : req.encrypt = true) (encrypted : cfg.encrypt = true)
      (account : req.googleAccountID = cfg.googleAccountID) (folder : req.remotePath = cfg.remotePath) :
      Source handler req old ⟨cfg.cryptPassword, cfg.cryptSalt, none⟩
  | fresh {session : RecoverySession} (waiting : (req.recoverySession, session) ∈ handler.recovery)
      (flag : req.encrypt = true) (account : req.googleAccountID = some session.kit.account)
      (folder : req.remotePath = session.kit.remotePath) (first : ∀ cfg ∈ old, ¬ handler.HasRun cfg.id) :
      Source handler req old ⟨session.kit.password, session.kit.salt, some session.serial⟩

theorem confirmedKit_eq_ok {account : Nat} (given : handler.confirmedKit now req account = .ok keys) :
    ∃ session, (req.recoverySession, session) ∈ handler.recovery ∧ session.kit.account = account ∧
      session.kit.remotePath = req.remotePath ∧
      keys = ⟨session.kit.password, session.kit.salt, some session.serial⟩ := by
  unfold Handler.confirmedKit at given
  split at given
  · exact nomatch given
  case h_2 session found =>
    split_ifs at given with refused
    have same := Except.ok.inj given
    simp only [not_or, ne_eq, not_not] at refused
    obtain ⟨_, account, folder, _⟩ := refused
    obtain ⟨_, _, split, _⟩ := lookup_eq_some_iff.mp found
    exact ⟨session, by simp [split], account, folder, same.symm⟩

theorem accountFields_source {account : Nat} (given : handler.accountFields now req old account = .ok keys)
    (asked : req.googleAccountID = some account) : Source handler req old keys := by
  simp only [Handler.accountFields, bind_eq_ok, ensure_eq_ok] at given
  obtain ⟨_, _, _, settled, given⟩ := given
  split_ifs at given with flag
  · obtain rfl := Except.ok.inj given
    exact .plain flag fun cfg existing ran => (settled cfg existing ran).symm.trans flag
  · rw [Bool.not_eq_false] at flag
    split at given
    case h_1 cfg found =>
      obtain ⟨existing, encrypted⟩ := Option.filter_eq_some_iff.mp found
      simp only [bind_eq_ok, ensure_eq_ok] at given
      obtain ⟨_, ⟨account, folder⟩, given⟩ := given
      obtain rfl := Except.ok.inj given
      exact .kept existing flag encrypted (asked.trans account.symm) folder.symm
    case h_2 found =>
      obtain ⟨session, waiting, account, folder, rfl⟩ := confirmedKit_eq_ok given
      refine .fresh waiting flag (asked.trans (congrArg some account.symm)) folder.symm fun cfg existing ran => ?_
      have encrypted : cfg.encrypt = true := (settled cfg existing ran).symm.trans flag
      rw [existing, Option.filter_some, if_pos encrypted] at found
      cases found

theorem validate_encrypt (valid : validateBackupConfig req.toSettings = .ok ()) (mounted : req.method ≠ some .rclone) :
    req.encrypt = false := by
  simp only [validateBackupConfig, validateMountConfig, bind_eq_ok, ensure_eq_ok, if_neg mounted] at valid
  obtain ⟨_, _, _, _, _, ⟨plain, _⟩, _⟩ := valid
  exact plain

theorem driveFields_source (valid : validateBackupConfig req.toSettings = .ok ())
    (given : handler.driveFields now req old = .ok keys) : Source handler req old keys := by
  unfold Handler.driveFields at given
  split_ifs at given with mounted
  · simp only [bind_eq_ok, ensure_eq_ok] at given
    obtain ⟨_, plain, given⟩ := given
    obtain rfl := Except.ok.inj given
    exact .plain (validate_encrypt valid mounted) fun cfg existing _ => plain cfg existing
  · split at given
    · cases given
    case h_2 account asked => exact accountFields_source given asked

def Handler.saved (handler : Handler) (configs : List BackupConfig) (next id : Nat) (keys : Keys) (session : Text) :
    Handler :=
  (Handler.noteKit { handler with configs := configs, nextConfig := next } id keys).consumeRecovery session

variable {after : Handler}

theorem createConfig_eq_ok (done : handler.createConfig now body = .ok after) :
    ∃ keys, Source handler body.trimmed none keys ∧
      after = handler.saved
        (handler.configs ++ [⟨body.trimmed.columns, handler.nextConfig, keys.password, keys.salt⟩])
        (handler.nextConfig + 1) handler.nextConfig keys body.trimmed.recoverySession := by
  simp only [Handler.createConfig, bind_eq_ok] at done
  obtain ⟨_, valid, keys, given, _, _, done⟩ := done
  exact ⟨keys, driveFields_source valid given, (Except.ok.inj done).symm⟩

theorem updateConfig_eq_ok {id : Nat} (done : handler.updateConfig id now body = .ok after) :
    ∃ old ∈ handler.configs, old.id = id ∧ ∃ keys, Source handler body.trimmed (some old) keys ∧
      after = handler.saved
        (changeRow BackupConfig.id id (fun _ => ⟨body.trimmed.columnsOver old, id, keys.password, keys.salt⟩)
          handler.configs)
        handler.nextConfig id keys body.trimmed.recoverySession := by
  simp only [Handler.updateConfig, bind_eq_ok, require_eq_ok] at done
  obtain ⟨_, valid, old, found, _, _, keys, given, _, _, done⟩ := done
  exact ⟨old, mem_of_find?_eq_some found, by simpa using List.find?_some found, keys,
    driveFields_source valid given, (Except.ok.inj done).symm⟩

theorem deleteConfig_eq_ok {id : Nat} (done : handler.deleteConfig id = .ok after) :
    after = { handler with
      configs := handler.configs.filter fun cfg => cfg.id ≠ id
      runs := handler.runs.filter fun row => row.configID ≠ id } := by
  simp only [Handler.deleteConfig, bind_eq_ok] at done
  obtain ⟨_, _, _, _, done⟩ := done
  exact (Except.ok.inj done).symm

theorem runBackup_eq_ok {id : Nat} {draining : Bool} {guard : Except String Unit}
    (done : handler.runBackup id draining guard = .ok after) :
    ∃ row : RunRow, after = { handler with runs := handler.runs ++ [row], nextRun := handler.nextRun + 1 } := by
  simp only [Handler.runBackup, Handler.createBackupRun, bind_eq_ok] at done
  obtain ⟨_, _, _, _, _, _, _, _, done⟩ := done
  exact ⟨_, (Except.ok.inj done).symm⟩

theorem after_keeps {property : Handler → Prop} {outcome : Except String Handler} (before : property handler)
    (done : ∀ after, outcome = .ok after → property after) : property (handler.after outcome) := by
  cases outcome with
  | error _ => exact before
  | ok after => exact done after rfl

structure Sound (handler : Handler) : Prop where
  ids : (handler.configs.map BackupConfig.id).Nodup
  below : ∀ cfg ∈ handler.configs, cfg.id < handler.nextConfig
  kits : ∀ entry ∈ handler.recovery, handler.handedOut[entry.2.serial]? = some entry.2.kit
  waiting : (handler.recovery.map fun entry => entry.2.serial).Nodup
  unused : ∀ entry ∈ handler.recovery, ∀ pair ∈ handler.confirmed, pair.2 ≠ entry.2.serial
  known : ∀ pair ∈ handler.confirmed, pair.2 < handler.handedOut.length
  once : (handler.confirmed.map Prod.snd).Nodup
  encrypted : ∀ cfg ∈ handler.configs, cfg.encrypt = true → ∃ serial, handler.KitOf cfg serial

theorem Sound.initial (accounts : List Nat) : Sound (.initial accounts) := by
  constructor <;> simp [Handler.initial]

/-- Kits may be dropped. -/
theorem Sound.drop (sound : Sound handler) {left : List (Text × RecoverySession)}
    (fewer : left.Sublist handler.recovery) :
    Sound { handler with recovery := left } where
  ids := sound.ids
  below := sound.below
  kits := fun entry member => sound.kits entry (fewer.subset member)
  waiting := sound.waiting.sublist (fewer.map _)
  unused := fun entry member => sound.unused entry (fewer.subset member)
  known := sound.known
  once := sound.once
  encrypted := sound.encrypted

theorem Handler.KitOf.append {cfg : BackupConfig} {serial : Nat} (has : handler.KitOf cfg serial) (kit : Kit) :
    Handler.KitOf { handler with handedOut := handler.handedOut ++ [kit] } cfg serial := by
  obtain ⟨acknowledged, found, handed, uses⟩ := has
  obtain ⟨within, _⟩ := List.getElem?_eq_some_iff.mp handed
  refine ⟨acknowledged, found, ?_, uses⟩
  rw [List.getElem?_append_left within]
  exact handed

theorem Sound.handOut (sound : Sound handler) (session : Text) (kit : Kit) :
    Sound (handler.handOut now session kit) := by
  have rest := sound.drop (filter_sublist (p := fun entry => decide (entry.1 ≠ session)))
  have earlier : ∀ entry ∈ handler.recovery.filter fun entry => entry.1 ≠ session,
      entry.2.serial < handler.handedOut.length := fun entry member =>
    (List.getElem?_eq_some_iff.mp (rest.kits entry member)).1
  refine ⟨sound.ids, sound.below, ?_, ?_, ?_, ?_, sound.once, ?_⟩
  · refine forall_mem_cons.mpr ⟨List.getElem?_concat_length, fun entry member => ?_⟩
    exact (List.getElem?_append_left (earlier entry member)).trans (rest.kits entry member)
  · refine nodup_cons.mpr ⟨fun again => ?_, rest.waiting⟩
    obtain ⟨entry, member, same⟩ := mem_map.mp again
    exact absurd (earlier entry member) (by simp [same])
  · refine forall_mem_cons.mpr ⟨fun pair member => (sound.known pair member).ne, fun entry member => ?_⟩
    exact rest.unused entry member
  · intro pair member
    refine (sound.known pair member).trans_le ?_
    simp [Handler.handOut]
  · intro cfg member flag
    obtain ⟨serial, has⟩ := sound.encrypted cfg member flag
    exact ⟨serial, has.append kit⟩

theorem Sound.prepareRecovery (sound : Sound handler) (session : Text) (generated : Option (Text × Text)) :
    Sound (handler.prepareRecovery now req session generated).1 := by
  have swept : Sound (handler.dropExpired now) := sound.drop filter_sublist
  unfold Handler.prepareRecovery
  split
  · exact sound
  · split
    · exact swept
    · exact swept.handOut session _

theorem Sound.saved (sound : Sound handler) (source : Source handler req old keys) (row : BackupConfig)
    {configs : List BackupConfig} {next : Nat} (ids : (configs.map BackupConfig.id).Nodup)
    (below : ∀ cfg ∈ configs, cfg.id < next) (changed : ∀ cfg ∈ configs, cfg = row ∨ cfg ∈ handler.configs)
    (previous : ∀ cfg ∈ old, cfg ∈ handler.configs ∧ cfg.id = row.id) (password : row.cryptPassword = keys.password)
    (salt : row.cryptSalt = keys.salt) (flag : row.encrypt = req.encrypt)
    (account : row.googleAccountID = req.googleAccountID) (folder : row.remotePath = req.remotePath) :
    Sound (handler.saved configs next row.id keys req.recoverySession) := by
  have rest := sound.drop (filter_sublist (p := fun entry => decide (entry.1 ≠ req.recoverySession)))
  have carried : ∀ cfg serial, handler.KitOf cfg serial →
      (handler.saved configs next row.id keys req.recoverySession).KitOf cfg serial := fun cfg serial has =>
    ⟨mem_append_left _ has.1, has.2⟩
  have places : ∀ pair ∈ (handler.saved configs next row.id keys req.recoverySession).confirmed,
      pair ∈ handler.confirmed ∨ keys.kit = some pair.2 := by
    intro pair member
    rcases mem_append.mp member with earlier | now
    · exact .inl earlier
    · simp only [Option.mem_toList, Option.map_eq_some_iff] at now
      obtain ⟨serial, taken, rfl⟩ := now
      exact .inr taken
  have taken : ∀ serial, keys.kit = some serial → ∃ entry ∈ handler.recovery,
      entry.1 = req.recoverySession ∧ entry.2.serial = serial := by
    intro serial kit
    cases source with
    | plain _ _ => exact nomatch kit
    | kept _ _ _ _ _ => exact nomatch kit
    | fresh waiting _ _ _ _ => exact ⟨_, waiting, rfl, Option.some.inj kit⟩
  refine ⟨ids, below, rest.kits, rest.waiting, ?_, ?_, ?_, ?_⟩
  · intro entry member pair acknowledged same
    have kept := mem_filter.mp member
    rcases places pair acknowledged with earlier | now
    · exact sound.unused entry kept.1 pair earlier same
    · obtain ⟨used, waiting, named, serial⟩ := taken _ now
      have one : used = entry := inj_on_of_nodup_map sound.waiting waiting kept.1 (serial.trans same)
      rw [one] at named
      simp [named] at kept
  · intro pair acknowledged
    rcases places pair acknowledged with earlier | now
    · exact sound.known pair earlier
    · obtain ⟨used, waiting, _, serial⟩ := taken _ now
      rw [← serial]
      exact (List.getElem?_eq_some_iff.mp (sound.kits used waiting)).1
  · rw [show (handler.saved configs next row.id keys req.recoverySession).confirmed =
      handler.confirmed ++ (keys.kit.map fun serial => (row.id, serial)).toList from rfl]
    cases kit : keys.kit with
    | none => simpa using sound.once
    | some serial =>
      refine nodup_map_concat sound.once fun pair acknowledged => ?_
      obtain ⟨used, waiting, _, rfl⟩ := taken _ kit
      exact sound.unused used waiting pair acknowledged
  · intro cfg member encrypts
    rcases changed cfg member with rfl | unchanged
    · cases source with
      | plain plain _ => simp [flag, plain] at encrypts
      | kept existing _ encrypted sameAccount sameFolder =>
        obtain ⟨inTable, same⟩ := previous _ existing
        obtain ⟨serial, acknowledged, kit, handed, uses⟩ := sound.encrypted _ inTable encrypted
        rw [same] at acknowledged
        exact ⟨serial, mem_append_left _ acknowledged, kit, handed, password.trans uses.password,
          salt.trans uses.salt, account.trans (sameAccount.trans uses.account),
          folder.trans (sameFolder.trans uses.folder)⟩
      | @fresh session waiting _ sameAccount sameFolder _ =>
        refine ⟨session.serial, mem_append_right _ (by simp), session.kit, sound.kits _ waiting, password, salt,
          account.trans sameAccount, folder.trans sameFolder⟩
    · obtain ⟨serial, has⟩ := sound.encrypted cfg unchanged encrypts
      exact ⟨serial, carried cfg serial has⟩

theorem Sound.createConfig (sound : Sound handler) (done : handler.createConfig now body = .ok after) :
    Sound after := by
  obtain ⟨keys, source, rfl⟩ := createConfig_eq_ok done
  refine sound.saved source ⟨body.trimmed.columns, handler.nextConfig, keys.password, keys.salt⟩ ?_ ?_ ?_
    (by simp) rfl rfl
    rfl rfl rfl
  · exact nodup_map_concat sound.ids fun cfg member => (sound.below cfg member).ne
  · refine forall_mem_append.mpr ⟨fun cfg member => (sound.below cfg member).trans (Nat.lt_succ_self _), ?_⟩
    simp
  · intro cfg member
    rcases mem_append.mp member with earlier | new
    · exact .inr earlier
    · exact .inl (mem_singleton.mp new)

theorem Sound.updateConfig (sound : Sound handler) {id : Nat}
    (done : handler.updateConfig id now body = .ok after) : Sound after := by
  obtain ⟨old, member, rfl, keys, source, rfl⟩ := updateConfig_eq_ok done
  refine sound.saved source ⟨body.trimmed.columnsOver old, old.id, keys.password, keys.salt⟩ ?_ ?_ ?_ ?_ rfl rfl rfl rfl
    rfl
  · rw [map_key_changeRow]
    · exact sound.ids
    · rfl
  · exact forall_changeRow sound.below fun _ _ _ => sound.below old member
  · intro cfg changed
    rcases mem_changeRow.mp changed with ⟨_, _, _, rfl⟩ | ⟨unchanged, _⟩
    · exact .inl rfl
    · exact .inr unchanged
  · intro cfg same
    rw [← Option.some.inj same]
    exact ⟨member, rfl⟩

theorem Sound.deleteConfig (sound : Sound handler) (id : Nat) (runs : List RunRow) :
    Sound { handler with configs := handler.configs.filter fun cfg => cfg.id ≠ id, runs := runs } where
  ids := sound.ids.sublist (filter_sublist.map _)
  below := fun cfg member => sound.below cfg (mem_of_mem_filter member)
  kits := sound.kits
  waiting := sound.waiting
  unused := sound.unused
  known := sound.known
  once := sound.once
  encrypted := fun cfg member => sound.encrypted cfg (mem_of_mem_filter member)

theorem Sound.runs (sound : Sound handler) (runs : List RunRow) (next : Nat) :
    Sound { handler with runs := runs, nextRun := next } :=
  ⟨sound.ids, sound.below, sound.kits, sound.waiting, sound.unused, sound.known, sound.once, sound.encrypted⟩

theorem Sound.step (sound : Sound handler) (event : Event) : Sound (handler.step event) := by
  cases event with
  | prepareRecovery now req session keys => exact sound.prepareRecovery session keys
  | createConfig now req => exact after_keeps sound fun _ done => sound.createConfig done
  | updateConfig id now req => exact after_keeps sound fun _ done => sound.updateConfig done
  | deleteConfig id =>
    refine after_keeps sound fun after done => ?_
    rw [deleteConfig_eq_ok done]
    exact sound.deleteConfig id _
  | runBackup id draining guard =>
    refine after_keeps sound fun after done => ?_
    obtain ⟨row, rfl⟩ := runBackup_eq_ok done
    exact sound.runs _ _
  | finishRun runID => exact sound.runs _ _
  | restart => exact sound.drop (nil_sublist _)

structure Settled (job : BackupConfig) (handler : Handler) : Prop where
  below : job.id < handler.nextConfig
  ran : ∀ cfg ∈ handler.configs, cfg.id = job.id → handler.HasRun job.id
  same : ∀ cfg ∈ handler.configs, cfg.id = job.id → SameKeys job cfg

variable {job : BackupConfig}

theorem Settled.createConfig (settled : Settled job handler)
    (done : handler.createConfig now body = .ok after) : Settled job after := by
  obtain ⟨keys, _, rfl⟩ := createConfig_eq_ok done
  have older : ∀ cfg ∈ handler.configs ++ [⟨body.trimmed.columns, handler.nextConfig, keys.password, keys.salt⟩],
      cfg.id = job.id → cfg ∈ handler.configs := by
    intro cfg member here
    rcases mem_append.mp member with earlier | new
    · exact earlier
    · rw [mem_singleton.mp new] at here
      exact absurd here settled.below.ne'
  exact ⟨settled.below.trans (Nat.lt_succ_self _), fun cfg member here => settled.ran cfg (older cfg member here) here,
    fun cfg member here => settled.same cfg (older cfg member here) here⟩

theorem Source.sameKeys {old row : BackupConfig} (source : Source handler req (some old) keys)
    (ran : handler.HasRun old.id) (password : row.cryptPassword = keys.password) (salt : row.cryptSalt = keys.salt)
    (flag : row.encrypt = req.encrypt) (account : row.googleAccountID = req.googleAccountID)
    (folder : row.remotePath = req.remotePath) : SameKeys old row := by
  cases source with
  | plain plain settled =>
    have never : old.encrypt = false := settled old rfl ran
    exact ⟨by rw [flag, plain, never], fun encrypts => by simp [never] at encrypts⟩
  | kept existing encrypts encrypted sameAccount sameFolder =>
    obtain rfl := Option.some.inj existing
    exact ⟨by rw [flag, encrypts, encrypted], fun _ =>
      ⟨password, salt, account.trans sameAccount, folder.trans sameFolder⟩⟩
  | fresh _ _ _ _ first => exact absurd ran (first old rfl)

theorem SameKeys.trans {first second third : BackupConfig} (earlier : SameKeys first second)
    (later : SameKeys second third) : SameKeys first third := by
  refine ⟨later.1.trans earlier.1, fun encrypts => ?_⟩
  obtain ⟨password, salt, account, folder⟩ := earlier.2 encrypts
  obtain ⟨laterPassword, laterSalt, laterAccount, laterFolder⟩ := later.2 (earlier.1.trans encrypts)
  exact ⟨laterPassword.trans password, laterSalt.trans salt, laterAccount.trans account, laterFolder.trans folder⟩

theorem Settled.updateConfig (settled : Settled job handler) {id : Nat}
    (done : handler.updateConfig id now body = .ok after) : Settled job after := by
  obtain ⟨old, member, rfl, keys, source, rfl⟩ := updateConfig_eq_ok done
  refine ⟨settled.below, fun cfg changed here => ?_, fun cfg changed here => ?_⟩
  · rcases mem_changeRow.mp changed with ⟨_, _, _, rfl⟩ | ⟨unchanged, _⟩
    · exact settled.ran old member here
    · exact settled.ran cfg unchanged here
  · rcases mem_changeRow.mp changed with ⟨_, _, _, rfl⟩ | ⟨unchanged, _⟩
    · have ran : handler.HasRun old.id := here ▸ settled.ran old member here
      exact (settled.same old member here).trans (source.sameKeys ran rfl rfl rfl rfl rfl)
    · exact settled.same cfg unchanged here

theorem Settled.deleteConfig (settled : Settled job handler) (id : Nat) :
    Settled job { handler with
      configs := handler.configs.filter fun cfg => cfg.id ≠ id
      runs := handler.runs.filter fun row => row.configID ≠ id } := by
  refine ⟨settled.below, fun cfg member here => ?_, fun cfg member => settled.same cfg (mem_of_mem_filter member)⟩
  obtain ⟨inTable, other⟩ := mem_filter.mp member
  obtain ⟨row, recorded, owner⟩ := settled.ran cfg inTable here
  refine ⟨row, mem_filter.mpr ⟨recorded, ?_⟩, owner⟩
  rw [owner, ← here]
  exact other

/-- More runs do not matter. -/
theorem Settled.runs (settled : Settled job handler) {runs : List RunRow} {next : Nat}
    (kept : handler.HasRun job.id → ∃ row ∈ runs, row.configID = job.id) :
    Settled job { handler with runs := runs, nextRun := next } :=
  ⟨settled.below, fun cfg member here => kept (settled.ran cfg member here), settled.same⟩

theorem Settled.prepareRecovery (settled : Settled job handler) (session : Text) (generated : Option (Text × Text)) :
    Settled job (handler.prepareRecovery now req session generated).1 := by
  unfold Handler.prepareRecovery
  split
  · exact settled
  · split <;> exact ⟨settled.below, settled.ran, settled.same⟩

theorem Settled.step (settled : Settled job handler) (event : Event) : Settled job (handler.step event) := by
  cases event with
  | prepareRecovery now req session keys => exact settled.prepareRecovery session keys
  | createConfig now req => exact after_keeps settled fun _ done => settled.createConfig done
  | updateConfig id now req => exact after_keeps settled fun _ done => settled.updateConfig done
  | deleteConfig id =>
    refine after_keeps settled fun after done => ?_
    rw [deleteConfig_eq_ok done]
    exact settled.deleteConfig id
  | runBackup id draining guard =>
    refine after_keeps settled fun after done => ?_
    obtain ⟨row, rfl⟩ := runBackup_eq_ok done
    refine settled.runs fun ⟨earlier, recorded, owner⟩ => ?_
    exact ⟨earlier, mem_append_left _ recorded, owner⟩
  | finishRun runID =>
    refine settled.runs fun ⟨row, recorded, owner⟩ => ?_
    have owners : job.id ∈ (changeRow RunRow.id runID (fun row => { row with running := false }) handler.runs).map
        RunRow.configID := by
      rw [map_changeRow]
      · exact mem_map.mpr ⟨row, recorded, owner⟩
      · exact fun _ => rfl
    exact mem_map.mp owners
  | restart => exact ⟨settled.below, settled.ran, settled.same⟩

def offsite : CreateBackupConfigRequest where
  name := "offsite"
  targetType := .gdrive
  host := []
  share := []
  smbUser := []
  smbPass := []
  sshUser := []
  sshPass := []
  localPath := "/data"
  remotePath := "nas"
  direction := some .push
  method := some .rclone
  parallelism := 0
  useSSH := false
  compress := false
  deleteMode := false
  scheduleEnabled := false
  scheduleTime := []
  scheduleDays := 0
  googleAccountID := some 1
  excludes := []
  encrypt := true
  recoverySession := "kit"
  recoveryConfirmed := true

/-- The kit is used up by the job, and the job that has run cannot be changed to plain text. -/
example :
    let final := run Handler.step (.initial [1])
      [.prepareRecovery 0 offsite "kit" (some ("key", "salt")), .createConfig 60 offsite,
        .createConfig 61 { offsite with name := "second" }, .runBackup 1 false (.ok ()), .finishRun 1,
        .updateConfig 1 62 { offsite with encrypt := false }]
    final.configs.map (fun cfg => (cfg.id, cfg.encrypt, cfg.cryptPassword)) = [(1, true, "key".toList)] ∧
      final.confirmed = [(1, 0)] ∧ final.recovery = [] := by
  decide

end Tierd.Backup.Drive
