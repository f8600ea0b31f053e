import Tierd.Data.Paths
import Tierd.Plugin.Bearer

namespace Tierd.Plugin.ModelInstall

open Tierd.Data Store List

def modelPathKey : Text := "MODEL_PATH"

/-- `pluginModelTemperatureConfigKey`. -/
def temperatureKey : Text := "LLAMA_ARG_TEMP"

def findModelVolume (volumes : List VolumeRow) : Option VolumeRow :=
  (volumes.find? fun volume => volume.bindPath = "/models".toList).or
    (volumes.find? fun volume => volume.name = "models".toList)

structure Job where
  /-- The service that mounts the volume with the model. -/
  service : Text
  containerPath : Text
  temperature : Text
  deriving DecidableEq

def resolveModelInstallTarget (tables : PluginTables) (filename temperature : Text) : Option Job :=
  (findModelVolume tables.volumes).map fun volume => {
    service := volume.service
    containerPath := Paths.clean (volume.bindPath ++ Paths.slash :: filename)
    temperature }

/-- Later rows replace earlier ones, whatever service they belong to. -/
def configRowsToMap (rows : List ConfigRow) : ConfigMap := rows.foldl (fun cfg row => cfg.insert row.key row.value) ∅

def withBearer (bearer : Option Text) (cfg : ConfigMap) : ConfigMap :=
  match bearer with
  | some value => if cfg.value bearerExpectedConfigKey = [] then cfg.insert bearerExpectedConfigKey value else cfg
  | none => cfg

theorem preserveBearer_eq (config : List ConfigRow) (listed : Bool) (cfg : ConfigMap) :
    preserveBearer config listed cfg = withBearer (if listed then storedBearer config else none) cfg := rfl

def Job.config (job : Job) (rows : List ConfigRow) : ConfigMap :=
  let cfg := (configRowsToMap rows).insert modelPathKey job.containerPath
  if job.temperature ≠ [] then cfg.insert temperatureKey job.temperature else cfg

inductive Phase
  | downloading
  /-- The record was read. -/
  | registering (rows : List ConfigRow)
  /-- `ReplaceConfig` looked for a generated token; its transaction comes next. -/
  | writing (rows : List ConfigRow) (bearer : Option Text)
  | written
  | failed

structure World where
  tables : Option PluginTables
  phase : Phase

/-- Other requests can come between any two steps of a job. -/
inductive Event
  | request (request : Request)
  | job (granted : Bool)

/-- The transaction of `ReplaceConfig` writes the map as it is. -/
def jobStep (job : Job) (world : World) (granted : Bool) : World :=
  match world.phase, world.tables with
  | .downloading, some tables =>
    { world with phase := if granted then .registering (listConfig tables.config) else .failed }
  | .registering rows, some tables =>
    { world with phase := .writing rows (if granted then storedBearer tables.config else none) }
  | .writing rows bearer, some tables =>
    match if granted then replaceConfig tables false (withBearer bearer (job.config rows)) else .error .notFound with
    | .ok after => { tables := some after, phase := .written }
    | .error _ => { world with phase := .failed }
  | .written, _ => world
  | _, _ => { world with phase := .failed }

def step (name : Text) (job : Job) (world : World) : Event → World
  | .request request => { world with tables := Store.step name world.tables request }
  | .job granted => jobStep job world granted

def start (tables : PluginTables) : World := ⟨some tables, .downloading⟩

/-- The last value read for a key, of any service. -/
def lastRead (rows : List ConfigRow) (key : Text) : Option Text :=
  (rows.reverse.find? fun row => row.key = key).map ConfigRow.value

theorem lookup_configRowsToMap (rows : List ConfigRow) (key : Text) :
    (configRowsToMap rows).lookup key = lastRead rows key := by
  unfold configRowsToMap lastRead
  induction rows using List.reverseRecOn with
  | nil => rfl
  | append_singleton rest row ih =>
    rw [foldl_append, reverse_append]
    by_cases same : row.key = key
    · subst same
      simp [AList.lookup_insert]
    · have other : key ≠ row.key := fun equal => same equal.symm
      simp only [foldl_cons, foldl_nil, AList.lookup_insert_ne other, ih]
      simp [same]

def Job.intended (job : Job) (rows : List ConfigRow) (bearer : Option Text) (key : Text) : Option Text :=
  if key = temperatureKey ∧ job.temperature ≠ [] then some job.temperature
  else if key = modelPathKey then some job.containerPath
  else if key = bearerExpectedConfigKey ∧ (lastRead rows key).getD [] = [] then bearer.or (lastRead rows key)
  else lastRead rows key

theorem lookup_config (job : Job) (rows : List ConfigRow) (key : Text) :
    (job.config rows).lookup key =
      if key = temperatureKey ∧ job.temperature ≠ [] then some job.temperature
      else if key = modelPathKey then some job.containerPath else lastRead rows key := by
  have path : ((configRowsToMap rows).insert modelPathKey job.containerPath).lookup key =
      if key = modelPathKey then some job.containerPath else lastRead rows key := by
    by_cases same : key = modelPathKey
    · subst same
      rw [AList.lookup_insert, if_pos rfl]
    · rw [AList.lookup_insert_ne same, if_neg same, lookup_configRowsToMap]
  unfold Job.config
  dsimp only
  by_cases given : job.temperature = []
  · have unset : ¬ (key = temperatureKey ∧ job.temperature ≠ []) := fun both => both.2 given
    rw [if_neg (by simpa using given), if_neg unset, path]
  · rw [if_pos given]
    by_cases same : key = temperatureKey
    · subst same
      rw [AList.lookup_insert, if_pos ⟨rfl, given⟩]
    · have other : ¬ (key = temperatureKey ∧ job.temperature ≠ []) := fun both => same both.1
      rw [AList.lookup_insert_ne same, if_neg other, path]

theorem lookup_withBearer (job : Job) (rows : List ConfigRow) (bearer : Option Text) (key : Text) :
    (withBearer bearer (job.config rows)).lookup key = job.intended rows bearer key := by
  have notTemperature : bearerExpectedConfigKey ≠ temperatureKey := by decide
  have notPath : bearerExpectedConfigKey ≠ modelPathKey := by decide
  have token : (job.config rows).lookup bearerExpectedConfigKey = lastRead rows bearerExpectedConfigKey := by
    rw [lookup_config, if_neg (fun both => notTemperature both.1), if_neg notPath]
  have value : (job.config rows).value bearerExpectedConfigKey = (lastRead rows bearerExpectedConfigKey).getD [] := by
    rw [ConfigMap.value, token]
  unfold withBearer Job.intended
  by_cases same : key = bearerExpectedConfigKey
  · subst same
    rw [if_neg (fun both => notTemperature both.1), if_neg notPath]
    cases bearer with
    | none => simp [token]
    | some stored =>
      dsimp only
      rw [value]
      by_cases missing : (lastRead rows bearerExpectedConfigKey).getD [] = []
      · rw [if_pos missing, AList.lookup_insert, if_pos ⟨rfl, missing⟩]
        rfl
      · rw [if_neg missing, token, if_neg (fun both => missing both.2)]
  · have other : (withBearer bearer (job.config rows)).lookup key = (job.config rows).lookup key := by
      unfold withBearer
      cases bearer with
      | none => rfl
      | some stored =>
        dsimp only
        split
        · exact AList.lookup_insert_ne same
        · rfl
    unfold withBearer at other
    rw [other, lookup_config]
    simp only [same, false_and, if_false]

/-- The rows after the transaction. -/
theorem mem_written {job : Job} {rows : List ConfigRow} {bearer : Option Text} {tables after : PluginTables}
    (written : replaceConfig tables false (withBearer bearer (job.config rows)) = .ok after) :
    ∃ primary, primaryServiceTx tables.services = some primary ∧ ∀ row, row ∈ after.config ↔
      if row.service = primary then job.intended rows bearer row.key = some row.value else row ∈ tables.config := by
  simp only [replaceConfig, bind_eq_ok, require_eq_ok, mapError_eq_ok, insertRows_eq_ok, pure_eq_ok] at written
  obtain ⟨primary, first, _, ⟨-, -, rfl⟩, rfl⟩ := written
  refine ⟨primary, first, fun row => ?_⟩
  obtain ⟨service, key, value⟩ := row
  rw [← lookup_withBearer, preserveBearer_eq, if_neg (by decide)]
  have inMap : ⟨key, value⟩ ∈ (withBearer bearer (job.config rows)).entries ↔
      (withBearer bearer (job.config rows)).lookup key = some value := by
    rw [← AList.mem_lookup_iff, Option.mem_def]
  constructor
  · intro member
    rcases mem_append.mp member with other | new
    · obtain ⟨kept, different⟩ := mem_filter.mp other
      rw [if_neg (of_decide_eq_true different)]
      exact kept
    · obtain ⟨⟨key', value'⟩, entry, same⟩ := mem_map.mp new
      cases same
      rw [if_pos rfl]
      exact inMap.mp entry
  · intro expected
    split at expected
    case isTrue same =>
      refine mem_append_right _ (mem_map.mpr ⟨⟨key, value⟩, inMap.mpr expected, ?_⟩)
      rw [← show service = primary from same]
    case isFalse different => exact mem_append_left _ (mem_filter.mpr ⟨expected, decide_eq_true different⟩)

/-- The entries that the job is there to change. -/
def Job.Own (job : Job) (row : ConfigRow) : Prop :=
  row.service = job.service ∧ (row.key = modelPathKey ∨ row.key = temperatureKey)

def Job.Framed (job : Job) (before after : List ConfigRow) : Prop :=
  ∀ row, ¬ job.Own row → (row ∈ after ↔ row ∈ before)

/-- The service with the model is the primary one, or the primary one has the path and the
temperature already; and for every other key the last value read, of any service, is the one that
the primary service has now. -/
structure Job.Faithful (job : Job) (rows : List ConfigRow) (bearer : Option Text) (config : List ConfigRow)
    (primary : Text) : Prop where
  model : primary = job.service ∨ ∀ value, (⟨primary, modelPathKey, value⟩ ∈ config ↔ value = job.containerPath)
  temperature : primary = job.service ∨ ∀ value, (⟨primary, temperatureKey, value⟩ ∈ config ↔
    if job.temperature = [] then lastRead rows temperatureKey = some value else value = job.temperature)
  others : ∀ key value, key ≠ modelPathKey → key ≠ temperatureKey → (⟨primary, key, value⟩ ∈ config ↔
    (if key = bearerExpectedConfigKey ∧ (lastRead rows key).getD [] = [] then bearer.or (lastRead rows key)
      else lastRead rows key) = some value)

theorem intended_path (job : Job) (rows : List ConfigRow) (bearer : Option Text) :
    job.intended rows bearer modelPathKey = some job.containerPath := by
  unfold Job.intended
  rw [if_neg (fun both => absurd both.1 (by decide)), if_pos rfl]

theorem intended_temperature (job : Job) (rows : List ConfigRow) (bearer : Option Text) :
    job.intended rows bearer temperatureKey =
      if job.temperature = [] then lastRead rows temperatureKey else some job.temperature := by
  unfold Job.intended
  by_cases given : job.temperature = []
  · rw [if_neg (fun both => both.2 given), if_neg (by decide), if_neg (fun both => absurd both.1 (by decide)),
      if_pos given]
  · rw [if_pos ⟨rfl, given⟩, if_neg given]

theorem intended_other {job : Job} {rows : List ConfigRow} {bearer : Option Text} {key : Text}
    (notPath : key ≠ modelPathKey)
    (notTemperature : key ≠ temperatureKey) :
    job.intended rows bearer key =
      if key = bearerExpectedConfigKey ∧ (lastRead rows key).getD [] = [] then bearer.or (lastRead rows key)
      else lastRead rows key := by
  unfold Job.intended
  rw [if_neg (fun both => notTemperature both.1), if_neg notPath]

theorem framed_iff {job : Job} {rows : List ConfigRow} {bearer : Option Text} {tables after : PluginTables}
    {primary : Text} (first : primaryServiceTx tables.services = some primary)
    (written : replaceConfig tables false (withBearer bearer (job.config rows)) = .ok after) :
    job.Framed tables.config after.config ↔ job.Faithful rows bearer tables.config primary := by
  obtain ⟨found, same, member⟩ := mem_written written
  obtain rfl : primary = found := Option.some.inj (first.symm.trans same)
  have asked : job.Framed tables.config after.config ↔ ∀ key value, ¬ job.Own ⟨primary, key, value⟩ →
      (⟨primary, key, value⟩ ∈ tables.config ↔ job.intended rows bearer key = some value) := by
    constructor
    · intro framed key value foreign
      rw [← framed _ foreign, member, if_pos rfl]
    · rintro same ⟨service, key, value⟩ foreign
      rw [member]
      dsimp only
      split
      case isTrue here =>
        subst here
        exact (same key value foreign).symm
      case isFalse => exact Iff.rfl
  rw [asked]
  constructor
  · intro same
    refine ⟨?_, ?_, fun key value notPath notTemperature => ?_⟩
    · refine or_iff_not_imp_left.mpr fun other value => ?_
      rw [same modelPathKey value (fun own => other own.1), intended_path, Option.some.injEq, eq_comm]
    · refine or_iff_not_imp_left.mpr fun other value => ?_
      rw [same temperatureKey value (fun own => other own.1), intended_temperature]
      split
      · exact Iff.rfl
      · rw [Option.some.injEq, eq_comm]
    · rw [same key value (fun own => own.2.elim notPath notTemperature), intended_other notPath notTemperature]
  · intro faithful key value foreign
    by_cases path : key = modelPathKey
    · subst path
      rcases faithful.model with own | stored
      · exact absurd ⟨own, Or.inl rfl⟩ foreign
      · rw [stored, intended_path, Option.some.injEq, eq_comm]
    · by_cases temperature : key = temperatureKey
      · subst temperature
        rcases faithful.temperature with own | stored
        · exact absurd ⟨own, Or.inr rfl⟩ foreign
        · rw [stored, intended_temperature]
          split
          · exact Iff.rfl
          · rw [Option.some.injEq, eq_comm]
      · rw [faithful.others key value path temperature, intended_other path temperature]

def Remembers (past : PluginTables → Prop) (world : World) : Prop :=
  match world.phase with
  | .registering rows => ∃ tables, past tables ∧ rows = listConfig tables.config
  | .writing rows bearer => (∃ tables, past tables ∧ rows = listConfig tables.config) ∧
      (bearer = none ∨ ∃ tables, past tables ∧ bearer = storedBearer tables.config)
  | _ => True

theorem Remembers.mono {past longer : PluginTables → Prop} {world : World}
    (more : ∀ tables, past tables → longer tables)
    (remembers : Remembers past world) : Remembers longer world := by
  unfold Remembers at *
  split at remembers
  · exact remembers.imp fun tables read => ⟨more tables read.1, read.2⟩
  · refine ⟨remembers.1.imp fun tables read => ⟨more tables read.1, read.2⟩, remembers.2.imp_right fun known => ?_⟩
    exact known.imp fun tables read => ⟨more tables read.1, read.2⟩
  · trivial

theorem remembers_step {past : PluginTables → Prop} {name : Text} {job : Job} {world : World}
    (present : ∀ tables, world.tables = some tables → past tables) (remembers : Remembers past world) (event : Event) :
    Remembers past (step name job world event) := by
  obtain ⟨tables, phase⟩ := world
  cases event with
  | request request => exact remembers
  | job granted =>
    cases tables with
    | none => cases phase <;> exact trivial
    | some tables =>
      have now : past tables := present tables rfl
      cases phase with
      | downloading =>
        cases granted with
        | false => trivial
        | true => exact ⟨tables, now, rfl⟩
      | registering rows =>
        cases granted with
        | false => exact ⟨remembers, Or.inl rfl⟩
        | true => exact ⟨remembers, Or.inr ⟨tables, now, rfl⟩⟩
      | writing rows bearer =>
        simp only [step, jobStep]
        split <;> trivial
      | written => trivial
      | failed => trivial

/-- The tables at some moment of a run. -/
def Past (name : Text) (job : Job) (initial : PluginTables) (events : List Event) (tables : PluginTables) : Prop :=
  ∃ earlier, earlier <+: events ∧ (run (step name job) (start initial) earlier).tables = some tables

theorem remembers_run (name : Text) (job : Job) (initial : PluginTables) (events : List Event) :
    Remembers (Past name job initial events) (run (step name job) (start initial) events) := by
  induction events using List.reverseRecOn with
  | nil => trivial
  | append_singleton earlier event ih =>
    rw [run_append, run_cons, run_nil]
    refine remembers_step (fun tables now => ⟨earlier, prefix_append _ _, now⟩)
      (ih.mono fun tables read => ?_) event
    obtain ⟨before, among, found⟩ := read
    exact ⟨before, among.trans (prefix_append _ _), found⟩

/-- When the job writes, in whatever run, it keeps to its own entries exactly if what it read
earlier is what the primary service has now. -/
theorem model_install_framed_iff (name : Text) (job : Job) (initial : PluginTables) (events : List Event)
    {rows : List ConfigRow} {bearer : Option Text} {tables after : PluginTables}
    (ready : run (step name job) (start initial) events = ⟨some tables, .writing rows bearer⟩)
    (writes : run (step name job) (start initial) (events ++ [.job true]) = ⟨some after, .written⟩) :
    (∃ read, Past name job initial events read ∧ rows = listConfig read.config) ∧
    ∃ primary, primaryServiceTx tables.services = some primary ∧
      (job.Framed tables.config after.config ↔ job.Faithful rows bearer tables.config primary) := by
  have remembers := remembers_run name job initial events
  rw [ready] at remembers
  rw [run_append, ready, run_cons, run_nil] at writes
  simp only [step, jobStep, if_true] at writes
  split at writes
  case h_2 => cases (World.mk.inj writes).2
  case h_1 stored written =>
    obtain rfl : stored = after := Option.some.inj (World.mk.inj writes).1
    obtain ⟨primary, first, -⟩ := mem_written written
    exact ⟨remembers.1, primary, first, framed_iff first written⟩

def plainRow (service : String) (ordinal : Nat) : ServiceRow where
  service := service.toList
  artifactType := .ociImage
  imageRef := []
  distroSummary := []
  dependsOn := []
  health := none
  ordinal := ordinal
  pinnedImage := []

def plainTables (services : List ServiceRow) (config : List ConfigRow) : PluginTables where
  plugin := ⟨[], .stopped, [], .ociImage, [], [], 1, false⟩
  services := services
  instances := []
  volumes := [⟨"llama", "models", .flat, [], [], false, "/models", []⟩]
  ports := []
  config := config
  containerRefs := []
  bearerToken := none

def alone : PluginTables := plainTables [plainRow "llama" 0] [⟨"llama", "THREADS", "8"⟩]

def llamaJob : Job := ⟨"llama", "/models/m.gguf", []⟩

/-- With one service and no other request the job keeps to its entries. -/
theorem alone_is_framed : ∃ after,
    run (step "llama".toList llamaJob) (start alone) [.job true, .job true, .job true] = ⟨some after, .written⟩ ∧
      llamaJob.Framed alone.config after.config := by
  refine ⟨_, rfl, ?_⟩
  have framed := (model_install_framed_iff "llama".toList llamaJob alone [.job true, .job true] rfl rfl).2
  obtain ⟨primary, first, exactly⟩ := framed
  obtain rfl : "llama".toList = primary := Option.some.inj first
  refine exactly.mpr ⟨Or.inl rfl, Or.inl rfl, fun key value _ _ => ?_⟩
  have rows : lastRead (listConfig alone.config) key = if "THREADS".toList = key then some "8".toList else none := by
    have sorted : (listConfig alone.config).reverse = [⟨"llama".toList, "THREADS".toList, "8".toList⟩] := rfl
    unfold lastRead
    rw [sorted, List.find?_singleton]
    by_cases same : "THREADS".toList = key <;> simp [same]
  have none : storedBearer alone.config = none := rfl
  have stored : ⟨"llama".toList, key, value⟩ ∈ alone.config ↔ "THREADS".toList = key ∧ "8".toList = value := by
    have only : alone.config = [⟨"llama".toList, "THREADS".toList, "8".toList⟩] := rfl
    rw [only, mem_singleton, ConfigRow.mk.injEq, eq_comm (a := key), eq_comm (a := value)]
    exact and_iff_right rfl
  rw [rows, if_pos rfl, none, Option.none_or, ite_self, stored]
  by_cases same : "THREADS".toList = key
  · simp only [same, true_and, if_true, Option.some.injEq]
  · simp only [same, false_and, if_false, reduceCtorEq]

def pair : PluginTables := plainTables [plainRow "llama" 0, plainRow "app" 1]
  [⟨"app", "THREADS", "8"⟩, ⟨"llama", "THREADS", "4"⟩]

/-- The primary service gets the value of the other one and the path of a model that it does not
serve. -/
theorem foreign_values_written :
    (resolveModelInstallTarget pair "m.gguf".toList []) = some llamaJob ∧
    ∃ after, run (step "chat".toList llamaJob) (start pair) [.job true, .job true, .job true] = ⟨some after, .written⟩ ∧
      ⟨"app".toList, "THREADS".toList, "8".toList⟩ ∈ pair.config ∧
      ⟨"app".toList, "THREADS".toList, "8".toList⟩ ∉ after.config ∧
      ⟨"app".toList, modelPathKey, "/models/m.gguf".toList⟩ ∈ after.config ∧
      ⟨"llama".toList, modelPathKey, "/models/m.gguf".toList⟩ ∉ after.config := by
  refine ⟨rfl, _, rfl, ?_⟩
  decide +kernel

end Tierd.Plugin.ModelInstall
