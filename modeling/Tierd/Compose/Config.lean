import Tierd.Data.EnvFile
import Tierd.Compose.Install

namespace Tierd.Compose

open Tierd.Data List

inductive FieldType where
  | string | number | bool | url | select
deriving DecidableEq

/-- One entry of `x-smoothnas.config` as it stands in the document. -/
structure RawField where
  key : Text
  type : Text
  default : Text
  secret : Bool
  min : Text
  max : Text
  options : List Text
deriving DecidableEq

structure ConfigDecl where
  key : Text
  type : FieldType
  default : Text
  secret : Bool
  min : Text
  max : Text
  options : List Text
deriving DecidableEq

inductive ConfigError where
  | keyRequired (index : Nat)
  | duplicateKey (key : Text)
  | optionsRequired (key : Text)
  | unknownType (key type : Text)
  | mustBeSecret (key : Text)
  | secretDefault (key : Text)
  | controlCharacters (key : Text)
  | notFinite (key value : Text)
  | belowMinimum (key value min : Text)
  | aboveMaximum (key value max : Text)
  | notBool (key value : Text)
  | notURL (key value : Text)
  | notInOptions (key value : Text) (options : List Text)
deriving DecidableEq

/-- `reSecretName`. -/
def looksSecret (key : Text) : Bool :=
  ["password".toList, "secret".toList, "token".toList, "bearer".toList, "_key".toList].any fun ending =>
    ending.isSuffixOf (key.map Text.foldCase)

def fieldType (raw : RawField) : Except ConfigError FieldType :=
  if raw.type = [] ∨ raw.type = "string" then .ok .string
  else if raw.type = "number" then .ok .number
  else if raw.type = "bool" ∨ raw.type = "boolean" then .ok .bool
  else if raw.type = "url" then .ok .url
  else if raw.type = "select" then
    if raw.options = [] then .error (.optionsRequired raw.key) else .ok .select
  else .error (.unknownType raw.key raw.type)

def checkField (index : Nat) (seen : List Text) (raw : RawField) : Except ConfigError ConfigDecl := do
  ensure (raw.key ≠ []) (.keyRequired index)
  ensure (raw.key ∉ seen) (.duplicateKey raw.key)
  let type ← fieldType raw
  ensure (looksSecret raw.key → raw.secret) (.mustBeSecret raw.key)
  ensure (raw.secret → raw.default = []) (.secretDefault raw.key)
  return ⟨raw.key, type, raw.default, raw.secret, raw.min, raw.max, raw.options⟩

def configSchemaFrom (index : Nat) (seen : List Text) : List RawField → Except ConfigError (List ConfigDecl)
  | [] => .ok []
  | raw :: rest => do
      let decl ← checkField index seen raw
      let more ← configSchemaFrom (index + 1) (raw.key :: seen) rest
      return decl :: more

def configSchema (fields : List RawField) : Except ConfigError (List ConfigDecl) := configSchemaFrom 0 [] fields

theorem checkField_key {index : Nat} {seen : List Text} {raw : RawField} {decl : ConfigDecl}
    (checked : checkField index seen raw = .ok decl) : decl.key = raw.key ∧ raw.key ∉ seen := by
  simp only [checkField, bind_eq_ok, ensure_eq_ok, pure_eq_ok] at checked
  obtain ⟨_, _, _, fresh, _, _, _, _, _, _, rfl⟩ := checked
  exact ⟨rfl, fresh⟩

theorem configSchemaFrom_nodup {index : Nat} {seen : List Text} {fields : List RawField} {schema : List ConfigDecl}
    (parsed : configSchemaFrom index seen fields = .ok schema) :
    (schema.map ConfigDecl.key).Nodup ∧ ∀ decl ∈ schema, decl.key ∉ seen := by
  induction fields generalizing index seen schema with
  | nil =>
    obtain rfl := Except.ok.inj parsed
    simp
  | cons raw rest ih =>
    simp only [configSchemaFrom, bind_eq_ok, pure_eq_ok] at parsed
    obtain ⟨decl, checked, more, later, rfl⟩ := parsed
    obtain ⟨same, fresh⟩ := checkField_key checked
    obtain ⟨distinct, others⟩ := ih later
    have apart : decl.key ∉ more.map ConfigDecl.key := by
      intro listed
      obtain ⟨other, member, equal⟩ := mem_map.mp listed
      exact others other member (equal.trans same ▸ mem_cons_self)
    refine ⟨nodup_cons.mpr ⟨apart, distinct⟩, forall_mem_cons.mpr ⟨same ▸ fresh, ?_⟩⟩
    exact fun other member listed => others other member (mem_cons_of_mem _ listed)

/-- `strconv.ParseFloat`, with the tests made on its result. -/
structure Numbers (ϕ : Type) where
  parse : Text → Option ϕ
  finite : ϕ → Bool
  less : ϕ → ϕ → Bool

section Values

variable {ϕ : Type} (numbers : Numbers ϕ)

def validateNumber (decl : ConfigDecl) (value : Text) : Except ConfigError Unit :=
  match numbers.parse value with
  | none => .error (.notFinite decl.key value)
  | some number => do
      ensure (numbers.finite number) (.notFinite decl.key value)
      checkWhen (decl.min ≠ []) (ensure (∀ low ∈ numbers.parse decl.min, ¬ numbers.less number low)
        (.belowMinimum decl.key value decl.min))
      checkWhen (decl.max ≠ []) (ensure (∀ high ∈ numbers.parse decl.max, ¬ numbers.less high number)
        (.aboveMaximum decl.key value decl.max))

def validateConfigValue (decl : ConfigDecl) (value : Text) : Except ConfigError Unit := do
  ensure ('\n' ∉ value ∧ '\r' ∉ value ∧ '\x00' ∉ value) (.controlCharacters decl.key)
  checkWhen (value ≠ []) (match decl.type with
    | .string => .ok ()
    | .number => validateNumber numbers decl value
    | .bool => ensure (value = "true" ∨ value = "false") (.notBool decl.key value)
    | .url => ensure (Text.startsWith value "http://" ∨ Text.startsWith value "https://")
        (.notURL decl.key value)
    | .select => ensure (value ∈ decl.options) (.notInOptions decl.key value decl.options))

/-- One field of the loop of `ResolveConfigEnv`; the maps are those for `.env` and for secrets. -/
def resolveField (given : Dictionary Text) (maps : Dictionary Text × Dictionary Text) (decl : ConfigDecl) :
    Except ConfigError (Dictionary Text × Dictionary Text) :=
  if decl.secret then
    match given.lookup decl.key with
    | some value => .ok (maps.1, maps.2.insert decl.key value)
    | none => .ok maps
  else do
    let value := (given.lookup decl.key).getD decl.default
    validateConfigValue numbers decl value
    return (maps.1.insert decl.key value, maps.2)

def resolveConfigEnv (schema : List ConfigDecl) (given : Dictionary Text) :
    Except ConfigError (Dictionary Text × Dictionary Text) :=
  schema.foldlM (resolveField numbers given) (∅, ∅)

/-- The entries of `.env`. -/
def environment (schema : List ConfigDecl) (given : Dictionary Text) : List (Text × Text) :=
  (schema.filter fun decl => !decl.secret).map fun decl => (decl.key, (given.lookup decl.key).getD decl.default)

variable {numbers} {schema : List ConfigDecl} {given : Dictionary Text}

theorem single_of_validate {decl : ConfigDecl} {value : Text}
    (valid : validateConfigValue numbers decl value = .ok ()) :
    '\n' ∉ value := by
  simp only [validateConfigValue, bind_eq_ok, ensure_eq_ok] at valid
  obtain ⟨_, plain, _⟩ := valid
  exact plain.1

/-- The values that are written to `.env` are valid. -/
def Valid (numbers : Numbers ϕ) (given : Dictionary Text) (decl : ConfigDecl) : Prop :=
  decl.secret = false → validateConfigValue numbers decl ((given.lookup decl.key).getD decl.default) = .ok ()

theorem resolveField_env {maps after : Dictionary Text × Dictionary Text} {decl : ConfigDecl}
    (resolved : resolveField numbers given maps decl = .ok after) :
    after.1 = Dictionary.insertAll (environment [decl] given) maps.1 ∧ Valid numbers given decl := by
  unfold resolveField at resolved
  split_ifs at resolved with secret
  · refine ⟨?_, fun plain => absurd secret (by simp [plain])⟩
    split at resolved
    all_goals
      obtain rfl := Except.ok.inj resolved
      simp [environment, secret, Dictionary.insertAll]
  · simp only [bind_eq_ok, pure_eq_ok] at resolved
    obtain ⟨_, valid, rfl⟩ := resolved
    refine ⟨?_, fun _ => valid⟩
    simp [environment, secret, Dictionary.insertAll]

theorem resolveField_ok (maps : Dictionary Text × Dictionary Text) {decl : ConfigDecl}
    (valid : Valid numbers given decl) :
    ∃ after, resolveField numbers given maps decl = .ok after := by
  unfold resolveField
  split_ifs with secret
  · split
    · exact ⟨_, rfl⟩
    · exact ⟨_, rfl⟩
  · exact ⟨_, bind_eq_ok.mpr ⟨(), valid (by simpa using secret), rfl⟩⟩

theorem environment_cons (decl : ConfigDecl) (rest : List ConfigDecl) :
    environment (decl :: rest) given = environment [decl] given ++ environment rest given := by
  cases secret : decl.secret <;> simp [environment, secret]

theorem foldlM_resolveField {maps after : Dictionary Text × Dictionary Text}
    (resolved : schema.foldlM (resolveField numbers given) maps = .ok after) :
    after.1 = Dictionary.insertAll (environment schema given) maps.1 ∧ ∀ decl ∈ schema, Valid numbers given decl := by
  induction schema generalizing maps with
  | nil =>
    obtain rfl := Except.ok.inj resolved
    exact ⟨rfl, nofun⟩
  | cons decl rest ih =>
    obtain ⟨between, first, later⟩ := bind_eq_ok.mp (foldlM_cons.symm.trans resolved)
    obtain ⟨env, valid⟩ := resolveField_env first
    obtain ⟨rest_env, rest_valid⟩ := ih later
    refine ⟨?_, forall_mem_cons.mpr ⟨valid, rest_valid⟩⟩
    rw [rest_env, env, environment_cons decl rest]
    exact foldl_append.symm

theorem foldlM_resolveField_ok (maps : Dictionary Text × Dictionary Text)
    (valid : ∀ decl ∈ schema, Valid numbers given decl) :
    ∃ after, schema.foldlM (resolveField numbers given) maps = .ok after := by
  induction schema generalizing maps with
  | nil => exact ⟨maps, rfl⟩
  | cons decl rest ih =>
    obtain ⟨between, first⟩ := resolveField_ok maps (valid decl mem_cons_self)
    obtain ⟨after, later⟩ := ih between fun other member => valid other (mem_cons_of_mem _ member)
    exact ⟨after, foldlM_cons.trans (bind_eq_ok.mpr ⟨between, first, later⟩)⟩

end Values

/-- A document and the fields it declares. -/
structure Plugin where
  document : Document
  fields : List RawField
  schema : List ConfigDecl
  parsed : configSchema fields = .ok schema
  agrees : document.schema = .ok (schema.map fun decl => (decl.key, decl.secret))

/-- Secret by the schema or by the list of secrets. -/
def Plugin.Secret (plugin : Plugin) (key : Text) : Prop :=
  key ∈ plugin.document.secretKeys ∨ (key, true) ∈ plugin.schema.map fun decl => (decl.key, decl.secret)
deriving Decidable

structure Host where
  volumes : Project → Except String TierPaths
  spell : Project → Text

inductive MaterialiseError where
  | noProject
  | volumes (message : String)
  | config (error : ConfigError)
deriving DecidableEq

def composeYaml : Text := "compose.yaml"

def dotEnv : Text := ".env"

section Materialise

variable {ϕ : Type} (numbers : Numbers ϕ) (host : Host)

/-- `GetComposeConfig`. -/
def getComposeConfig (rows : ComposeRows) : Dictionary Text := Dictionary.insertAll rows.config ∅

def composeConfigEnv (fields : List RawField) (rows : ComposeRows) : Except ConfigError (Dictionary Text) := do
  let schema ← configSchema fields
  if schema = [] then return ∅
  else
    let maps ← resolveConfigEnv numbers schema (getComposeConfig rows)
    return maps.1

def renderEnv (env : Dictionary Text) : Text := EnvFile.render env

/-- The files in the directory of the project afterwards; without an environment `.env` is left
alone. -/
def materialise (fields : List RawField) (rows : ComposeRows) (dir : Directory Text) :
    Except MaterialiseError (Directory Text) := do
  let project ← require rows.project .noProject
  let paths ← (host.volumes (expandInstances project fun _ => some rows.instanceCount)).mapError .volumes
  let env ← (composeConfigEnv numbers fields rows).mapError .config
  let written := dir.insert composeYaml (host.spell (resolveProject paths project fun _ => some rows.instanceCount))
  return if env.keys = [] then written else written.insert dotEnv (renderEnv env)

end Materialise

section Stored

variable {faults : Statement → Bool} {document : Document} {project : Project} {config : Dictionary Text}

theorem runSteps_append {ε σ : Type} {first second : List (Except ε (σ → σ))} {state : σ}
    (done : (runSteps state (first ++ second)).1 = .ok ()) :
    (runSteps state (first ++ second)).2 = (runSteps (runSteps state first).2 second).2 := by
  induction first generalizing state with
  | nil => rfl
  | cons step rest ih =>
    cases step with
    | error error => simp [runSteps] at done
    | ok change => exact ih done

/-- The steps that do not depend on the answers. -/
def fixedSteps (faults : Statement → Bool) (document : Document) (project : Project) :
    List (Except InstallError (ComposeRows → ComposeRows)) :=
  write faults .setManifestYAML (fun rows => { rows with project := some project }) ::
    (imagesSteps faults document ++ instancesSteps faults document project)

theorem installSteps_eq : installSteps faults document project config =
    fixedSteps faults document project ++ (configSteps faults document config ++ [write faults .get id]) := by
  simp [installSteps, fixedSteps]

/-- The rows beside the answers. -/
def ComposeRows.base (rows : ComposeRows) : ComposeRows := { rows with secrets := [], config := [] }

variable {change : ComposeRows → ComposeRows}

theorem configSteps_keep_base
    (member : .ok change ∈ configSteps faults document config ++ [write faults .get id]) (rows : ComposeRows) :
    (change rows).base = rows.base := by
  rcases mem_append.mp member with configured | got
  · unfold configSteps at configured
    split at configured
    · cases mem_singleton.mp configured
    · rcases mem_append.mp configured with secret | answered
      · obtain ⟨_, _, written⟩ := mem_map.mp secret
        obtain ⟨_, rfl⟩ := write_eq_ok.mp written
        rfl
      · obtain ⟨_, _, written⟩ := mem_map.mp answered
        obtain ⟨_, rfl⟩ := write_eq_ok.mp written
        rfl
  · obtain ⟨_, rfl⟩ := write_eq_ok.mp (mem_singleton.mp got).symm
    rfl

theorem fixedSteps_keep_config
    (member : .ok change ∈ fixedSteps faults document project) (rows : ComposeRows) :
    (change rows).config = rows.config := by
  rcases mem_cons.mp member with yaml | other
  · obtain ⟨_, rfl⟩ := write_eq_ok.mp yaml.symm
    rfl
  · rcases mem_append.mp other with images | instances
    · unfold imagesSteps at images
      split at images
      · cases images
      · obtain ⟨_, rfl⟩ := write_eq_ok.mp (mem_singleton.mp images).symm
        rfl
    · unfold instancesSteps at instances
      split at instances
      · cases instances
      · obtain ⟨_, rfl⟩ := write_eq_ok.mp (mem_singleton.mp instances).symm
        rfl
      · cases mem_singleton.mp instances

theorem config_of_writes (entries : List (Text × Text)) {rows : ComposeRows}
    (done : (runSteps rows (entries.map fun (key, value) =>
      write faults (.setComposeConfig key) fun rows => { rows with config := rows.config ++ [(key, value)] })).1 =
        .ok ()) :
    (runSteps rows (entries.map fun (key, value) =>
      write faults (.setComposeConfig key) fun rows =>
        { rows with config := rows.config ++ [(key, value)] })).2.config =
        rows.config ++ entries := by
  induction entries generalizing rows with
  | nil => simp [runSteps]
  | cons entry rest ih =>
    obtain ⟨key, value⟩ := entry
    by_cases fails : faults (.setComposeConfig key) = true
    · simp [write, fails, runSteps] at done
    · have first : write faults (.setComposeConfig key)
          (fun rows => { rows with config := rows.config ++ [(key, value)] }) = .ok _ :=
        write_eq_ok.mpr ⟨by simpa using fails, rfl⟩
      simp only [map_cons, first, runSteps] at done ⊢
      rw [ih done]
      simp

theorem secretSteps_keep_config {entries : List (Text × Text)}
    (member : .ok change ∈ entries.map fun (key, value) =>
      write faults (.setComposeSecret key) fun rows => { rows with secrets := rows.secrets ++ [(key, value)] })
    (rows : ComposeRows) : (change rows).config = rows.config := by
  obtain ⟨_, _, written⟩ := mem_map.mp member
  obtain ⟨_, rfl⟩ := write_eq_ok.mp written
  rfl

theorem stored_of_installSteps {fields : List (Text × Bool)} (schema : document.schema = .ok fields)
    (done : (runSteps .inserted (installSteps faults document project config)).1 = .ok ()) :
    let rows := (runSteps .inserted (installSteps faults document project config)).2
    rows.base = (runSteps .inserted (fixedSteps faults document project)).2.base ∧
      rows.config = answers document fields config false := by
  have steps := (runSteps_fst_eq_ok ComposeRows.inserted).mp done
  rw [installSteps_eq] at done steps ⊢
  have split := runSteps_append done
  dsimp only
  rw [split]
  refine ⟨runSteps_keeps ComposeRows.base (fun change member => configSteps_keep_base member) _, ?_⟩
  have fixedConfig : (runSteps ComposeRows.inserted (fixedSteps faults document project)).2.config = [] :=
    runSteps_keeps ComposeRows.config (fun change member => fixedSteps_keep_config member) _
  generalize (runSteps ComposeRows.inserted (fixedSteps faults document project)).2 = rows at fixedConfig ⊢
  have all : (runSteps rows (configSteps faults document config ++ [write faults .get id])).1 = .ok () :=
    (runSteps_fst_eq_ok rows).mpr fun step member => steps step (mem_append_right _ member)
  have answered : (runSteps rows (configSteps faults document config)).1 = .ok () :=
    (runSteps_fst_eq_ok rows).mpr fun step member => steps step
      (mem_append_right _ (mem_append_left _ member))
  rw [runSteps_append all, runSteps_keeps ComposeRows.config (fun change member rows => ?_) _]
  · simp only [configSteps, schema] at answered ⊢
    rw [runSteps_append answered, config_of_writes]
    · rw [runSteps_keeps ComposeRows.config (fun change member => secretSteps_keep_config member), fixedConfig]
      rfl
    · exact (runSteps_fst_eq_ok _).mpr fun step member =>
        (runSteps_fst_eq_ok rows).mp answered step (mem_append_right _ member)
  · obtain ⟨_, rfl⟩ := write_eq_ok.mp (mem_singleton.mp member).symm
    rfl

end Stored

section Secrets

variable (plugin : Plugin)

def Plugin.answer (config : Dictionary Text) (decl : ConfigDecl) : Text :=
  if plugin.Secret decl.key then decl.default else (config.lookup decl.key).getD decl.default

variable {plugin} {faults : Statement → Bool} {tiers : TierAssignments} {config : Dictionary Text} {rows : ComposeRows}

theorem answers_nodup (document : Document) (fields : List (Text × Bool)) (config : Dictionary Text) (secret : Bool) :
    ((answers document fields config secret).map Prod.fst).Nodup := by
  unfold answers
  rw [map_map]
  exact (filter_sublist.map Sigma.fst).nodup config.nodupKeys

theorem mem_answers {document : Document} {fields : List (Text × Bool)} {key value : Text} :
    (key, value) ∈ answers document fields config false ↔
      (key ∈ document.secretKeys ∨ key ∈ fields.map Prod.fst) ∧ ¬ (key ∈ document.secretKeys ∨ (key, true) ∈ fields) ∧
        config.lookup key = some value := by
  have entry : config.lookup key = some value ↔ ⟨key, value⟩ ∈ config.entries := AList.mem_lookup_iff
  rw [entry, answers, mem_map]
  constructor
  · rintro ⟨⟨_, _⟩, member, same⟩
    obtain ⟨rfl, rfl⟩ := Prod.mk.inj same
    obtain ⟨listed, chosen⟩ := mem_filter.mp member
    obtain ⟨declared, plain⟩ := of_decide_eq_true chosen
    exact ⟨declared, fun secret => absurd (plain.mpr secret) nofun, listed⟩
  · rintro ⟨declared, plain, listed⟩
    refine ⟨⟨key, value⟩, mem_filter.mpr ⟨listed, decide_eq_true ⟨declared, ?_⟩⟩, rfl⟩
    exact ⟨nofun, fun secret => absurd secret plain⟩

theorem lookup_of_installed {decl : ConfigDecl} (declared : decl ∈ plugin.schema)
    (stored : rows.config =
      answers plugin.document (plugin.schema.map fun decl => (decl.key, decl.secret)) config false) :
    (getComposeConfig rows).lookup decl.key = if plugin.Secret decl.key then none else config.lookup decl.key := by
  have named : decl.key ∈ (plugin.schema.map fun decl => (decl.key, decl.secret)).map Prod.fst :=
    mem_map.mpr ⟨_, mem_map.mpr ⟨decl, declared, rfl⟩, rfl⟩
  refine Option.ext fun value => ?_
  rw [getComposeConfig, stored, Dictionary.lookup_insertAll (answers_nodup ..), mem_answers, AList.lookup_empty]
  constructor
  · rintro (⟨_, plain, found⟩ | ⟨_, absent⟩)
    · exact (if_neg plain).trans found
    · cases absent
  · intro found
    split_ifs at found with secret
    exact .inl ⟨.inr named, secret, found⟩

theorem resolveConfigEnv_congr {ϕ : Type} (numbers : Numbers ϕ) {schema : List ConfigDecl}
    {given other : Dictionary Text}
    (same : ∀ decl ∈ schema, given.lookup decl.key = other.lookup decl.key) :
    resolveConfigEnv numbers schema given = resolveConfigEnv numbers schema other := by
  unfold resolveConfigEnv
  generalize ((∅, ∅) : Dictionary Text × Dictionary Text) = maps
  induction schema generalizing maps with
  | nil => rfl
  | cons decl rest ih =>
    have first : resolveField numbers given maps decl = resolveField numbers other maps decl := by
      simp only [resolveField, same decl mem_cons_self]
    rw [foldlM_cons, foldlM_cons, first]
    exact bind_congr fun between => ih (fun later member => same later (mem_cons_of_mem _ member)) between

structure Stored (faults : Statement → Bool) (plugin : Plugin) (tiers : TierAssignments) (config : Dictionary Text)
    (rows : ComposeRows) : Prop where
  base : ∃ project, plugin.document.project = .ok project ∧
    rows.base = (runSteps .inserted (fixedSteps faults plugin.document (overrideTiers tiers project))).2.base
  project : ∃ project, rows.project = some project
  answered : ∀ decl ∈ plugin.schema,
    (getComposeConfig rows).lookup decl.key = if plugin.Secret decl.key then none else config.lookup decl.key

theorem stored_of_installed
    (installed : installCompose faults none plugin.document tiers config = (.ok (), some rows)) :
    Stored faults plugin tiers config rows := by
  cases parsed : plugin.document.project with
  | error message =>
    simp only [installCompose, parsed] at installed
    split_ifs at installed
    all_goals cases (Prod.mk.inj installed).1
  | ok project =>
    simp only [installCompose, parsed] at installed
    split_ifs at installed
    · cases (Prod.mk.inj installed).1
    · cases (Prod.mk.inj installed).1
    · obtain ⟨done, same⟩ := Prod.mk.inj installed
      obtain rfl := Option.some.inj same
      have stored := stored_of_installSteps plugin.agrees done
      have steps := (runSteps_fst_eq_ok ComposeRows.inserted).mp done
      exact ⟨⟨project, parsed, stored.1⟩, ⟨_, project_of_installSteps _ steps⟩,
        fun decl declared => lookup_of_installed declared stored.2⟩

end Secrets

section Files

variable {ϕ : Type} (numbers : Numbers ϕ) (host : Host) (plugin : Plugin)

/-- The files are the same for all answers to secret keys, and `.env` reads as the environment. -/
def SecretsStayOut (faults : Statement → Bool) (tiers : TierAssignments) (config : Dictionary Text)
    (rows : ComposeRows) (dir : Directory Text) : Prop :=
  (∀ other otherRows, (∀ key, ¬ plugin.Secret key → other.lookup key = config.lookup key) →
    installCompose faults none plugin.document tiers other = (.ok (), some otherRows) →
    materialise numbers host plugin.fields otherRows dir = materialise numbers host plugin.fields rows dir) ∧
  ∀ after, materialise numbers host plugin.fields rows dir = .ok after →
    ∃ env, composeConfigEnv numbers plugin.fields rows = .ok env ∧ EnvFile.Spells ((after.lookup dotEnv).getD []) env

def Unwritten (config : Dictionary Text) (rows : ComposeRows) : Prop :=
  (∃ project ∈ rows.project, ∃ message,
    host.volumes (expandInstances project fun _ => some rows.instanceCount) = .error message) ∨
  ∃ decl ∈ plugin.schema, decl.secret = false ∧
    ∃ error, validateConfigValue numbers decl (plugin.answer config decl) = .error error

def Legible (dir : Directory Text) : Prop :=
  (∀ decl ∈ plugin.schema, decl.secret = false → '=' ∉ decl.key ∧ '\n' ∉ decl.key) ∧
    ((∀ decl ∈ plugin.schema, decl.secret = true) → '=' ∉ (dir.lookup dotEnv).getD [])

variable {numbers host plugin} {faults : Statement → Bool} {tiers : TierAssignments} {config : Dictionary Text}
  {rows : ComposeRows} {dir : Directory Text}

theorem valid_iff (stored : Stored faults plugin tiers config rows) {decl : ConfigDecl}
    (declared : decl ∈ plugin.schema) :
    Valid numbers (getComposeConfig rows) decl ↔
      (decl.secret = false → validateConfigValue numbers decl (plugin.answer config decl) = .ok ()) := by
  have value : ((getComposeConfig rows).lookup decl.key).getD decl.default = plugin.answer config decl := by
    rw [stored.answered decl declared, Plugin.answer]
    split <;> rfl
  rw [Valid, value]

variable {env : Dictionary Text}

theorem composeConfigEnv_eq_ok (resolved : composeConfigEnv numbers plugin.fields rows = .ok env) :
    env = Dictionary.insertAll (environment plugin.schema (getComposeConfig rows)) ∅ ∧
      ∀ decl ∈ plugin.schema, Valid numbers (getComposeConfig rows) decl := by
  simp only [composeConfigEnv, plugin.parsed, bind_eq_ok, Except.ok.injEq] at resolved
  obtain ⟨schema, rfl, resolved⟩ := resolved
  split_ifs at resolved with none_declared
  · obtain rfl := pure_eq_ok.mp resolved
    simp [none_declared, environment, Dictionary.insertAll]
  · obtain ⟨maps, found, same⟩ := bind_eq_ok.mp resolved
    obtain rfl := pure_eq_ok.mp same
    exact foldlM_resolveField found

theorem composeConfigEnv_ok (valid : ∀ decl ∈ plugin.schema, Valid numbers (getComposeConfig rows) decl) :
    ∃ env, composeConfigEnv numbers plugin.fields rows = .ok env := by
  obtain ⟨maps, found⟩ := foldlM_resolveField_ok (∅, ∅) valid
  simp only [composeConfigEnv, plugin.parsed, bind_eq_ok, Except.ok.injEq]
  by_cases none_declared : plugin.schema = []
  · exact ⟨∅, plugin.schema, rfl, by simp [none_declared]⟩
  · exact ⟨maps.1, plugin.schema, rfl, by rw [if_neg none_declared]; exact bind_eq_ok.mpr ⟨maps, found, rfl⟩⟩

theorem materialise_congr {other : Dictionary Text} {otherRows : ComposeRows}
    (stored : Stored faults plugin tiers config rows) (otherStored : Stored faults plugin tiers other otherRows)
    (agree : ∀ key, ¬ plugin.Secret key → other.lookup key = config.lookup key) :
    materialise numbers host plugin.fields otherRows dir = materialise numbers host plugin.fields rows dir := by
  obtain ⟨project, read, base⟩ := stored.base
  obtain ⟨_, otherRead, otherBase⟩ := otherStored.base
  obtain rfl := Except.ok.inj (read.symm.trans otherRead)
  have same : otherRows.base = rows.base := otherBase.trans base.symm
  have projects : otherRows.base.project = rows.base.project := congrArg ComposeRows.project same
  have counts : otherRows.base.instanceCount = rows.base.instanceCount := congrArg ComposeRows.instanceCount same
  simp only [ComposeRows.base] at projects counts
  have answered : ∀ decl ∈ plugin.schema,
      (getComposeConfig otherRows).lookup decl.key = (getComposeConfig rows).lookup decl.key := by
    intro decl declared
    rw [stored.answered decl declared, otherStored.answered decl declared]
    split
    · rfl
    · case isFalse plain => exact agree decl.key plain
  have env : composeConfigEnv numbers plugin.fields otherRows = composeConfigEnv numbers plugin.fields rows := by
    unfold composeConfigEnv
    rw [plugin.parsed]
    simp only [resolveConfigEnv_congr numbers answered, bind, Except.bind]
  simp only [materialise, projects, counts, env]

theorem environment_nodup : ((environment plugin.schema (getComposeConfig rows)).map Prod.fst).Nodup := by
  rw [environment, map_map]
  exact (filter_sublist.map ConfigDecl.key).nodup (configSchemaFrom_nodup plugin.parsed).1

theorem spells_environment_iff (resolved : composeConfigEnv numbers plugin.fields rows = .ok env) :
    EnvFile.Spells (renderEnv env) env ↔ ∀ decl ∈ plugin.schema, decl.secret = false → '=' ∉ decl.key ∧
      '\n' ∉ decl.key := by
  obtain ⟨rfl, valid⟩ := composeConfigEnv_eq_ok resolved
  have once : ((environment plugin.schema (getComposeConfig rows)).map Prod.fst).Nodup := environment_nodup
  have found (key value : Text) :
      (Dictionary.insertAll (environment plugin.schema (getComposeConfig rows)) ∅).lookup key = some value ↔
        ∃ decl ∈ plugin.schema, decl.secret = false ∧
          (decl.key, ((getComposeConfig rows).lookup decl.key).getD decl.default) = (key, value) := by
    rw [Dictionary.lookup_insertAll once, AList.lookup_empty]
    simp only [reduceCtorEq, and_false, or_false, environment, mem_map, mem_filter,
      Bool.not_eq_true', and_assoc]
  rw [renderEnv, EnvFile.spells_render_iff]
  · constructor
    · intro legible decl declared plain
      exact legible decl.key (AList.lookup_isSome.mp (by rw [(found _ _).mpr ⟨decl, declared, plain, rfl⟩]; rfl))
    · intro legible key member
      obtain ⟨value, here⟩ := Option.isSome_iff_exists.mp (AList.lookup_isSome.mpr member)
      obtain ⟨decl, declared, plain, same⟩ := (found key value).mp here
      exact (Prod.mk.inj same).1 ▸ legible decl declared plain
  · intro key value here
    obtain ⟨decl, declared, plain, same⟩ := (found key value).mp here
    exact (Prod.mk.inj same).2 ▸ single_of_validate (valid decl declared plain)

theorem keys_eq_nil_iff (resolved : composeConfigEnv numbers plugin.fields rows = .ok env) :
    env.keys = [] ↔ ∀ decl ∈ plugin.schema, decl.secret = true := by
  obtain ⟨rfl, _⟩ := composeConfigEnv_eq_ok resolved
  constructor
  · intro empty decl declared
    by_contra plain
    have listed : decl.key ∈ (environment plugin.schema (getComposeConfig rows)).map Prod.fst :=
      mem_map.mpr ⟨_, mem_map.mpr ⟨decl, mem_filter.mpr ⟨declared, by simpa using plain⟩, rfl⟩, rfl⟩
    have member : decl.key ∈ Dictionary.insertAll (environment plugin.schema (getComposeConfig rows)) ∅ :=
      EnvFile.mem_insertAll listed
    have key := AList.mem_keys.mp member
    rw [empty] at key
    cases key
  · intro secret
    have nothing : plugin.schema.filter (fun decl => !decl.secret) = [] := by simpa using secret
    rw [environment, nothing]
    rfl

theorem materialise_eq_ok {after : Directory Text} :
    materialise numbers host plugin.fields rows dir = .ok after ↔
      ∃ project, rows.project = some project ∧
        ∃ paths, host.volumes (expandInstances project fun _ => some rows.instanceCount) = .ok paths ∧
          ∃ env, composeConfigEnv numbers plugin.fields rows = .ok env ∧
            (let written := dir.insert composeYaml
              (host.spell (resolveProject paths project fun _ => some rows.instanceCount))
            if env.keys = [] then written else written.insert dotEnv (renderEnv env)) = after := by
  simp only [materialise, bind_eq_ok, require_eq_ok, mapError_eq_ok, pure_eq_ok]

theorem lookup_dotEnv (written : Directory Text) (yaml : Text) :
    (if env.keys = [] then written.insert composeYaml yaml
      else (written.insert composeYaml yaml).insert dotEnv (renderEnv env)).lookup dotEnv =
        if env.keys = [] then written.lookup dotEnv else some (renderEnv env) := by
  split
  · exact AList.lookup_insert_ne (by decide)
  · exact AList.lookup_insert _

theorem spells_iff_legible {after : Directory Text}
    (resolved : composeConfigEnv numbers plugin.fields rows = .ok env)
    (there : after.lookup dotEnv = if env.keys = [] then dir.lookup dotEnv else some (renderEnv env)) :
    EnvFile.Spells ((after.lookup dotEnv).getD []) env ↔ Legible plugin dir := by
  rw [there, Legible, ← keys_eq_nil_iff resolved, ← spells_environment_iff resolved]
  by_cases empty : env.keys = []
  · obtain rfl : env = ∅ := AList.ext (map_eq_nil_iff.mp empty)
    have nothing : EnvFile.Spells (renderEnv ∅) ∅ := fun key => rfl
    rw [if_pos empty, EnvFile.spells_empty_iff]
    exact ⟨fun absent => ⟨nothing, fun _ => absent⟩, fun both => both.2 empty⟩
  · rw [if_neg empty, Option.getD_some]
    simp only [empty, false_implies, and_true]

/-- The files keep secrets out and read back exactly for legible keys, or when nothing is written.
-/
theorem secrets_stay_out_iff (numbers : Numbers ϕ) (host : Host) (dir : Directory Text)
    (installed : installCompose faults none plugin.document tiers config = (.ok (), some rows)) :
    SecretsStayOut numbers host plugin faults tiers config rows dir ↔
      Unwritten numbers host plugin config rows ∨ Legible plugin dir := by
  have stored := stored_of_installed installed
  obtain ⟨project, read⟩ := stored.project
  constructor
  · rintro ⟨_, reads⟩
    refine or_iff_not_imp_left.mpr fun written => ?_
    have valid : ∀ decl ∈ plugin.schema, Valid numbers (getComposeConfig rows) decl := by
      refine fun decl declared => (valid_iff stored declared).mpr fun plain => ?_
      cases checked : validateConfigValue numbers decl (plugin.answer config decl) with
      | ok => rfl
      | error error => exact absurd (.inr ⟨decl, declared, plain, error, checked⟩) written
    obtain ⟨env, resolved⟩ := composeConfigEnv_ok valid
    cases paths : host.volumes (expandInstances project fun _ => some rows.instanceCount) with
    | error message => exact absurd (.inl ⟨project, read, message, paths⟩) written
    | ok found =>
      obtain ⟨_, same, spells⟩ := reads _ (materialise_eq_ok.mpr ⟨project, read, found, paths, env, resolved, rfl⟩)
      obtain rfl := Except.ok.inj (resolved.symm.trans same)
      exact (spells_iff_legible resolved (lookup_dotEnv dir _)).mp spells
  · intro condition
    refine ⟨fun other otherRows agree otherInstalled =>
      materialise_congr stored (stored_of_installed otherInstalled) agree, fun after done => ?_⟩
    obtain ⟨_, same, paths, found, env, resolved, rfl⟩ := materialise_eq_ok.mp done
    obtain rfl := Option.some.inj (read.symm.trans same)
    rcases condition with (⟨other, listed, message, failed⟩ | ⟨decl, declared, plain, error, failed⟩) | legible
    · obtain rfl := Option.some.inj (read.symm.trans listed)
      cases found.symm.trans failed
    · have valid := (composeConfigEnv_eq_ok resolved).2 decl declared
      cases ((valid_iff stored declared).mp valid plain).symm.trans failed
    · exact ⟨env, resolved, (spells_iff_legible resolved (lookup_dotEnv dir _)).mpr legible⟩

end Files

section Samples

def declaring (key : Text) (parsed : configSchema [⟨"TOKEN", [], [], true, [], [], []⟩,
    ⟨key, [], "80", false, [], [], []⟩] = .ok [⟨"TOKEN", .string, [], true, [], [], []⟩,
      ⟨key, .string, "80", false, [], [], []⟩]) : Plugin where
  document := ⟨"app", .ok ⟨∅, ∅⟩, true, [], .ok [("TOKEN", true), (key, false)], []⟩
  fields := [⟨"TOKEN", [], [], true, [], [], []⟩, ⟨key, [], "80", false, [], [], []⟩]
  schema := [⟨"TOKEN", .string, [], true, [], [], []⟩, ⟨key, .string, "80", false, [], [], []⟩]
  parsed := parsed
  agrees := rfl

def plainHost : Host where
  volumes _ := .ok ⟨fun _ _ => ['/'], fun _ _ => rfl, fun _ _ => by decide⟩
  spell _ := []

def noNumbers : Numbers Unit := ⟨fun _ => none, fun _ => true, fun _ _ => false⟩

def noTiers : TierAssignments := ⟨∅, []⟩

/-- A token and no other answer: `.env` holds the default of the other key. -/
theorem port_stays_legible :
    let plugin := declaring "PORT".toList (by decide)
    let config : Dictionary Text := AList.singleton "TOKEN".toList "x".toList
    let rows : ComposeRows := ⟨some ⟨∅, ∅⟩, [], 1, false, [("TOKEN".toList, "x".toList)], []⟩
    installCompose (fun _ => false) none plugin.document noTiers config = (.ok (), some rows) ∧
      (SecretsStayOut noNumbers plainHost plugin (fun _ => false) noTiers config rows ∅ ↔
        Unwritten noNumbers plainHost plugin config rows ∨ Legible plugin ∅) ∧ Legible plugin ∅ :=
  ⟨by rfl, secrets_stay_out_iff noNumbers plainHost ∅ (by rfl), by decide, by decide⟩

/-- The key `A=B` is declared and materialised; `.env` then assigns to `A`. -/
theorem key_with_equals_sign :
    let plugin := declaring "A=B".toList (by decide)
    let rows : ComposeRows := ⟨some ⟨∅, ∅⟩, [], 1, false, [], []⟩
    installCompose (fun _ => false) none plugin.document noTiers ∅ = (.ok (), some rows) ∧
      ((materialise noNumbers plainHost plugin.fields rows ∅).toOption.bind fun after => after.lookup dotEnv) =
        some "A=B=80\n".toList ∧
      EnvFile.read "A=B=80\n".toList = [("A".toList, "B=80".toList)] ∧
      ((composeConfigEnv noNumbers plugin.fields rows).toOption.bind fun env => env.lookup "A=B".toList) =
        some "80".toList :=
  ⟨by rfl, by rfl, by decide, by rfl⟩

end Samples

end Tierd.Compose
