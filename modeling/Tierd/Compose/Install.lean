import Tierd.Plugin.VolumePaths
import Tierd.Compose.Project

namespace Tierd.Compose

open Tierd.Data List
open Tierd.Plugin (HostPath join resolveTierBoundHostPath servicePathSegment)

structure TierAssignments where
  perVolume : Dictionary Text
  default : Text

def TierAssignments.resolve (tiers : TierAssignments) (service volume : Text) : Text :=
  let composite := (tiers.perVolume.lookup (service ++ '/' :: volume)).getD []
  let bare := (tiers.perVolume.lookup volume).getD []
  if composite ≠ [] then composite else if bare ≠ [] then bare else tiers.default

/-- What the functions of the compose package read from the text of a document.  Where they cannot
read the images or the secret keys the installation goes on without them. -/
structure Document where
  name : Text
  project : Except String Project
  instancesReadable : Bool
  images : List (Text × Text)
  schema : Except String (List (Text × Bool))
  secretKeys : List Text

/-- The volumes with a tier, sorted by name. -/
def tieredVolumes (project : Project) : List (Text × Text) :=
  ((project.volumes.entries.filter fun entry => entry.2.tier ≠ []).map fun entry =>
    (entry.1, entry.2.tier)).insertionSort
    fun first second => first.1 ≤ second.1

def setVolumeTier (volumes : Dictionary VolumeDef) (volume tier : Text) : Dictionary VolumeDef :=
  match volumes.lookup volume with
  | some declared => volumes.insert volume { declared with tier := tier }
  | none => volumes

def overrideTiers (tiers : TierAssignments) (project : Project) : Project :=
  { project with
    volumes := (tieredVolumes project).foldl
      (fun volumes (volume, _) =>
        if tiers.resolve [] volume = [] then volumes else setVolumeTier volumes volume (tiers.resolve [] volume))
      project.volumes }

/-- The rows of a compose plugin. -/
structure ComposeRows where
  project : Option Project
  images : List (Text × Text)
  instanceCount : Int
  configurable : Bool
  secrets : List (Text × Text)
  config : List (Text × Text)
deriving DecidableEq

/-- The rows `InsertCompose` writes. -/
def ComposeRows.inserted : ComposeRows := ⟨none, [], 1, false, [], []⟩

inductive Statement where
  | insertCompose
  | setManifestYAML
  | recordComposeImages
  | setComposeInstances
  | setComposeSecret (key : Text)
  | setComposeConfig (key : Text)
  | get
deriving DecidableEq

inductive InstallError where
  | nameRequired
  | volumes (message : String)
  | exists
  | tooManyScalable (count : Nat)
  | schema (message : String)
  | database (statement : Statement)
deriving DecidableEq

section Install

variable (faults : Statement → Bool)

def write (statement : Statement) (change : ComposeRows → ComposeRows) :
    Except InstallError (ComposeRows → ComposeRows) :=
  if faults statement then .error (.database statement) else .ok change

def answers (document : Document) (fields : List (Text × Bool)) (config : Dictionary Text) (secret : Bool) :
    List (Text × Text) :=
  let isSecret (key : Text) : Prop := key ∈ document.secretKeys ∨ (key, true) ∈ fields
  let isDeclared (key : Text) : Prop := key ∈ document.secretKeys ∨ key ∈ fields.map Prod.fst
  (config.entries.filter fun entry => isDeclared entry.1 ∧ (secret = true ↔ isSecret entry.1)).map fun entry =>
    (entry.1, entry.2)

def imagesSteps (document : Document) : List (Except InstallError (ComposeRows → ComposeRows)) :=
  if document.images = [] then []
  else [write faults .recordComposeImages fun rows => { rows with images := document.images }]

/-- The scalable service, of which there may be one. -/
def instancesSteps (document : Document) (project : Project) : List (Except InstallError (ComposeRows → ComposeRows)) :=
  match if document.instancesReadable then scalableServices project else [] with
  | [] => []
  | [spec] =>
    [write faults .setComposeInstances fun rows => { rows with instanceCount := spec.count, configurable := true }]
  | specs => [.error (.tooManyScalable specs.length)]

def configSteps (document : Document) (config : Dictionary Text) :
    List (Except InstallError (ComposeRows → ComposeRows)) :=
  match document.schema with
  | .error message => [.error (.schema message)]
  | .ok fields =>
    ((answers document fields config true).map fun (key, value) =>
      write faults (.setComposeSecret key) fun rows => { rows with secrets := rows.secrets ++ [(key, value)] }) ++
    ((answers document fields config false).map fun (key, value) =>
      write faults (.setComposeConfig key) fun rows => { rows with config := rows.config ++ [(key, value)] })

/-- What `installCompose` does after the first row. -/
def installSteps (document : Document) (project : Project) (config : Dictionary Text) :
    List (Except InstallError (ComposeRows → ComposeRows)) :=
  write faults .setManifestYAML (fun rows => { rows with project := some project }) ::
    (imagesSteps faults document ++ instancesSteps faults document project ++ configSteps faults document config ++
      [write faults .get id])

/-- The steps up to the first that fails. -/
def runSteps {ε σ : Type} (state : σ) : List (Except ε (σ → σ)) → Except ε Unit × σ
  | [] => (.ok (), state)
  | .ok change :: rest => runSteps (change state) rest
  | .error error :: _ => (.error error, state)

/-- The names in the document are not checked. -/
def installCompose (installed : Option ComposeRows) (document : Document) (tiers : TierAssignments)
    (config : Dictionary Text) : Except InstallError Unit × Option ComposeRows :=
  if document.name = [] then (.error .nameRequired, installed)
  else
    match document.project with
    | .error message => (.error (.volumes message), installed)
    | .ok project =>
      if faults .insertCompose then (.error (.database .insertCompose), installed)
      else
        match installed with
        | some rows => (.error .exists, some rows)
        | none =>
          let ran := runSteps ComposeRows.inserted (installSteps faults document (overrideTiers tiers project) config)
          (ran.1, some ran.2)

end Install

inductive Touched where
  | project (path : HostPath)
  | volume (mountPoint path : HostPath)
deriving DecidableEq

def projectDir (root : HostPath) (name : Text) : HostPath := join root [name]

abbrev TierProvider := Text → Except String HostPath

def tierVolume (provider : TierProvider) (name : Text) (entry : Text × Text) : Except String Touched := do
  let mountPoint ← provider entry.2
  return .volume mountPoint (resolveTierBoundHostPath mountPoint name "compose" entry.1)

/-- One tier that is not ready fails them all. -/
def resolveComposeTierVolumes (provider : TierProvider) (name : Text) (tiered : List (Text × Text)) :
    Except String (List Touched) :=
  findAll (tierVolume provider name) tiered

/-- The directories of the volumes, then the directory of the project and its files; there is an
`.env` when there is something to write to it. -/
def materialisePaths (root : HostPath) (provider : TierProvider) (document : Document) (project : Project)
    (count : Int) (env : Bool) : List Touched :=
  if document.instancesReadable then
    match resolveComposeTierVolumes provider document.name
      (tieredVolumes (expandInstances project fun _ => some count)) with
    | .error _ => []
    | .ok volumes =>
      volumes ++
        ([projectDir root document.name, join (projectDir root document.name) ["compose.yaml"]] ++
          if env then [join (projectDir root document.name) [".env"]] else []).map .project
  else []

/-- Nothing is removed unless the project went down. -/
def teardownPaths (root : HostPath) (name : Text) (down : Bool) : List Touched :=
  if down then [.project (projectDir root name)] else []

def StrictlyInside (directory path : HostPath) : Prop := ∃ below, below ≠ [] ∧ path = directory ++ below

def pluginsDir (mountPoint : HostPath) : HostPath := mountPoint ++ [".plugins".toList]

/-- At or below the directory of the project, which is strictly inside the root; strictly inside the
directory of the plugin on a tier, which is strictly inside `.plugins`. -/
def Contained (root : HostPath) (name : Text) : Touched → Prop
  | .project path => StrictlyInside root (projectDir root name) ∧ projectDir root name <+: path
  | .volume mountPoint path =>
    StrictlyInside (pluginsDir mountPoint) (join (pluginsDir mountPoint) [name]) ∧
      StrictlyInside (join (pluginsDir mountPoint) [name]) path

section Condition

variable (faults : Statement → Bool) (installed : Option ComposeRows) (document : Document) (tiers : TierAssignments)
  (config : Dictionary Text) (root : HostPath) (provider : TierProvider)

structure InstallsSafely : Prop where
  contained : ∀ rows project, installCompose faults installed document tiers config = (.ok (), some rows) →
    rows.project = some project → ∀ count env down,
      ∀ touched ∈ materialisePaths root provider document project count env ++ teardownPaths root document.name down,
        Contained root document.name touched
  nothingLeft : ∀ error, (installCompose faults installed document tiers config).1 = .error error →
    (installCompose faults installed document tiers config).2 = installed

/-- Read from the directory, the text goes up no further than it comes down again on the same way,
and then on. -/
def Descends (directory : HostPath) (parts : List Text) : Prop :=
  let relative := Paths.Relative.ofParts (parts.flatMap fun part => part.splitOn Paths.slash)
  ∃ below, below ≠ [] ∧ relative.below = directory.drop (directory.length - relative.ups) ++ below

/-- The statements after the first. -/
def statements (project : Project) : List Statement :=
  .setManifestYAML ::
    ((if document.images = [] then [] else [.recordComposeImages]) ++
      (if document.instancesReadable ∧ scalableServices project ≠ [] then [.setComposeInstances] else []) ++
      (match document.schema with
        | .error _ => []
        | .ok fields =>
          (answers document fields config true).map (fun entry => .setComposeSecret entry.1) ++
            (answers document fields config false).map (fun entry => .setComposeConfig entry.1)) ++ [.get])

/-- Nothing is refused once the plugin has its row. -/
structure Completes (project : Project) : Prop where
  executes : ∀ statement ∈ statements document config project, faults statement = false
  scalable : document.instancesReadable → (scalableServices project).length ≤ 1
  schema : ∃ fields, document.schema = .ok fields

/-- The names stay in their directories, at any number of instances for which all tiers are there.
-/
structure NamesDescend (project : Project) : Prop where
  name : Descends root [document.name]
  volumes : document.instancesReadable → ∀ count,
    (∀ entry ∈ tieredVolumes (expandInstances project fun _ => some count), ∃ mountPoint,
      provider entry.2 = .ok mountPoint) →
    ∀ entry ∈ tieredVolumes (expandInstances project fun _ => some count), ∀ mountPoint,
      provider entry.2 = .ok mountPoint →
      Descends (pluginsDir mountPoint) [document.name] ∧
        Descends (join (pluginsDir mountPoint) [document.name])
          [servicePathSegment document.name "compose", entry.1]

/-- The document is refused before anything is written, or it completes and its names descend. -/
def SafeToInstall : Prop :=
  document.name = [] ∨ ∀ project, document.project = .ok project →
    faults .insertCompose = true ∨ installed ≠ none ∨
      Completes faults document config (overrideTiers tiers project) ∧
        NamesDescend document root provider (overrideTiers tiers project)

end Condition

theorem join_append (base : HostPath) (first second : List Text) :
    join base (first ++ second) = join (join base first) second := by
  unfold join
  rw [flatMap_append, Paths.follow_append]

theorem strictlyInside_join_iff {directory : HostPath} {parts : List Text} :
    StrictlyInside directory (join directory parts) ↔ Descends directory parts := by
  unfold StrictlyInside Descends join
  rw [Paths.follow_eq_reach]
  exact exists_congr fun below => and_congr_right fun _ => Paths.Relative.reach_eq_append_iff

theorem join_plugins (mountPoint : HostPath) : join mountPoint [".plugins".toList] = pluginsDir mountPoint := rfl

theorem contained_volume_iff {root mountPoint : HostPath} {name volume : Text} :
    Contained root name (.volume mountPoint (resolveTierBoundHostPath mountPoint name "compose" volume)) ↔
      Descends (pluginsDir mountPoint) [name] ∧
        Descends (join (pluginsDir mountPoint) [name]) [servicePathSegment name "compose", volume] := by
  have path : resolveTierBoundHostPath mountPoint name "compose" volume =
      join (join (pluginsDir mountPoint) [name]) [servicePathSegment name "compose", volume] := by
    rw [← join_plugins, ← join_append, ← join_append]
    rfl
  rw [path, ← strictlyInside_join_iff, ← strictlyInside_join_iff]
  rfl

theorem contained_projectDir_iff {root : HostPath} {name : Text} :
    Contained root name (.project (projectDir root name)) ↔ Descends root [name] :=
  (and_iff_left (prefix_refl _)).trans strictlyInside_join_iff

section Touched

variable {root : HostPath} {provider : TierProvider} {document : Document} {project : Project}

theorem tierVolume_eq_ok {name : Text} {entry : Text × Text} {touched : Touched} :
    tierVolume provider name entry = .ok touched ↔ ∃ mountPoint, provider entry.2 = .ok mountPoint ∧
      .volume mountPoint (resolveTierBoundHostPath mountPoint name "compose" entry.1) = touched := by
  simp only [tierVolume, bind_eq_ok, pure_eq_ok]

theorem contained_of_namesDescend (descend : NamesDescend document root provider project) {count : Int}
    {env down : Bool}
    {touched : Touched} (member : touched ∈ materialisePaths root provider document project count env ++
      teardownPaths root document.name down) : Contained root document.name touched := by
  have below (parts : List Text)
    (plain : join (projectDir root document.name) parts = projectDir root document.name ++ parts) :
      Contained root document.name (.project (join (projectDir root document.name) parts)) :=
    ⟨strictlyInside_join_iff.mpr descend.name, plain ▸ prefix_append _ _⟩
  have itself : Contained root document.name (.project (projectDir root document.name)) :=
    contained_projectDir_iff.mpr descend.name
  rcases mem_append.mp member with made | removed
  · unfold materialisePaths at made
    split at made
    case isFalse => simp at made
    case isTrue readable =>
      split at made
      case h_1 => simp at made
      case h_2 volumes resolved =>
        rcases mem_append.mp made with onTier | inProject
        · obtain ⟨entry, listed, found⟩ := exists_item_of_findAll resolved onTier
          obtain ⟨mountPoint, provided, rfl⟩ := tierVolume_eq_ok.mp found
          refine contained_volume_iff.mpr
            (descend.volumes readable count (fun other inTiered => ?_) entry listed mountPoint provided)
          obtain ⟨_, _, foundOther⟩ := exists_value_of_findAll resolved inTiered
          obtain ⟨otherMount, otherProvided, _⟩ := tierVolume_eq_ok.mp foundOther
          exact ⟨otherMount, otherProvided⟩
        · have listed : touched = .project (projectDir root document.name) ∨
              touched = .project (join (projectDir root document.name) ["compose.yaml"]) ∨
              touched = .project (join (projectDir root document.name) [".env"]) := by
            cases env <;> simp only [map_append, mem_append, map_cons, mem_cons, map_nil,
              not_mem_nil, or_false, Bool.false_eq_true, if_false, if_true] at inProject <;> tauto
          rcases listed with rfl | rfl | rfl
          · exact itself
          · exact below _ rfl
          · exact below _ rfl
  · cases down with
    | false => simp [teardownPaths] at removed
    | true =>
      obtain rfl := mem_singleton.mp removed
      exact itself

theorem namesDescend_of_contained
    (contained : ∀ count env down, ∀ touched ∈ materialisePaths root provider document project count env ++
      teardownPaths root document.name down, Contained root document.name touched) :
    NamesDescend document root provider project := by
  constructor
  · refine contained_projectDir_iff.mp (contained 0 false true _ (mem_append_right _ ?_))
    exact mem_singleton_self _
  · intro readable count ready entry listed mountPoint provided
    have each : ∀ other ∈ tieredVolumes (expandInstances project fun _ => some count),
        ∃ touched, tierVolume provider document.name other = .ok touched := by
      intro other inTiered
      obtain ⟨otherMount, otherProvided⟩ := ready other inTiered
      exact ⟨_, tierVolume_eq_ok.mpr ⟨otherMount, otherProvided, rfl⟩⟩
    obtain ⟨volumes, resolved⟩ := exists_findAll each
    obtain ⟨touched, member, found⟩ := exists_value_of_findAll resolved listed
    obtain ⟨_, again, rfl⟩ := tierVolume_eq_ok.mp found
    obtain rfl := Except.ok.inj (provided.symm.trans again)
    refine contained_volume_iff.mp (contained count false false _ (mem_append_left _ ?_))
    have resolvedHere : resolveComposeTierVolumes provider document.name
      (tieredVolumes (expandInstances project fun _ => some count)) = .ok volumes := resolved
    simp only [materialisePaths, readable, resolvedHere, if_true]
    exact mem_append_left _ member

end Touched

theorem runSteps_fst_eq_ok {ε σ : Type} {steps : List (Except ε (σ → σ))} (state : σ) :
    (runSteps state steps).1 = .ok () ↔ ∀ step ∈ steps, ∃ change, step = .ok change := by
  induction steps generalizing state with
  | nil => simp [runSteps]
  | cons first rest ih =>
    cases first with
    | error error => simp [runSteps]
    | ok change => simp [runSteps, ih]

theorem runSteps_keeps {ε σ ρ : Type} (read : σ → ρ) {steps : List (Except ε (σ → σ))}
    (kept : ∀ change, .ok change ∈ steps → ∀ state, read (change state) = read state) (state : σ) :
    read (runSteps state steps).2 = read state := by
  induction steps generalizing state with
  | nil => rfl
  | cons first rest ih =>
    cases first with
    | error error => rfl
    | ok change =>
      have later := ih (fun other member => kept other (mem_cons_of_mem _ member)) (change state)
      exact later.trans (kept change mem_cons_self state)

section Steps

variable {faults : Statement → Bool} {document : Document} {project : Project} {config : Dictionary Text}

variable {change : ComposeRows → ComposeRows}

theorem write_eq_ok {statement : Statement} {made : ComposeRows → ComposeRows} :
    write faults statement change = .ok made ↔ faults statement = false ∧ change = made := by
  unfold write
  split <;> simp_all

theorem exists_write_eq_ok {statement : Statement} :
    (∃ made, write faults statement change = .ok made) ↔ faults statement = false := by
  simp only [write_eq_ok, exists_and_left, exists_eq', and_true]

theorem instancesSteps_ok_iff :
    (∀ step ∈ instancesSteps faults document project, ∃ change, step = .ok change) ↔
      (document.instancesReadable → (scalableServices project).length ≤ 1) ∧
        (document.instancesReadable ∧ scalableServices project ≠ [] → faults .setComposeInstances = false) := by
  unfold instancesSteps
  cases document.instancesReadable with
  | false => simp
  | true =>
    rcases scalableServices project with _ | ⟨spec, _ | ⟨other, more⟩⟩
    · simp
    · simp [exists_write_eq_ok]
    · simp

theorem configSteps_ok_iff :
    (∀ step ∈ configSteps faults document config, ∃ change, step = .ok change) ↔
      ∃ fields, document.schema = .ok fields ∧
        (∀ entry ∈ answers document fields config true, faults (.setComposeSecret entry.1) = false) ∧
          ∀ entry ∈ answers document fields config false, faults (.setComposeConfig entry.1) = false := by
  unfold configSteps
  cases document.schema with
  | error message => simp
  | ok fields =>
    simp only [forall_mem_append, forall_mem_map, exists_write_eq_ok, Except.ok.injEq, exists_eq_left']

theorem imagesSteps_ok_iff :
    (∀ step ∈ imagesSteps faults document, ∃ change, step = .ok change) ↔
      ∀ statement ∈ (if document.images = [] then [] else [.recordComposeImages]), faults statement = false := by
  unfold imagesSteps
  split <;> simp [exists_write_eq_ok]

theorem installSteps_ok_iff :
    (∀ step ∈ installSteps faults document project config, ∃ change, step = .ok change) ↔
      Completes faults document config project := by
  simp only [installSteps, forall_mem_cons, forall_mem_append, not_mem_nil, false_implies,
    implies_true, and_true,
    exists_write_eq_ok, imagesSteps_ok_iff, instancesSteps_ok_iff, configSteps_ok_iff]
  constructor
  · intro ⟨yaml, ⟨⟨recorded, atMostOne, instances⟩, fields, schema, secrets, answered⟩, got⟩
    refine ⟨?_, atMostOne, fields, schema⟩
    simp only [statements, schema, forall_mem_cons, forall_mem_append, forall_mem_map, not_mem_nil,
      false_implies, implies_true, and_true]
    refine ⟨yaml, ⟨⟨recorded, ?_⟩, secrets, answered⟩, got⟩
    split
    case isTrue scalable => simpa using instances scalable
    case isFalse => simp
  · intro ⟨executes, atMostOne, fields, schema⟩
    simp only [statements, schema, forall_mem_cons, forall_mem_append, forall_mem_map, not_mem_nil,
      false_implies, implies_true, and_true] at executes
    obtain ⟨yaml, ⟨⟨recorded, instances⟩, secrets, answered⟩, got⟩ := executes
    refine ⟨yaml, ⟨⟨recorded, atMostOne, fun scalable => ?_⟩, fields, schema, secrets, answered⟩, got⟩
    exact instances _ (by rw [if_pos scalable]; exact mem_singleton_self _)

theorem imagesSteps_keep_project (member : .ok change ∈ imagesSteps faults document)
    (rows : ComposeRows) : (change rows).project = rows.project := by
  unfold imagesSteps at member
  split at member
  · cases member
  · obtain ⟨_, rfl⟩ := write_eq_ok.mp (mem_singleton.mp member).symm
    rfl

theorem instancesSteps_keep_project
    (member : .ok change ∈ instancesSteps faults document project) (rows : ComposeRows) :
    (change rows).project = rows.project := by
  unfold instancesSteps at member
  split at member
  · cases member
  · obtain ⟨_, rfl⟩ := write_eq_ok.mp (mem_singleton.mp member).symm
    rfl
  · cases mem_singleton.mp member

theorem configSteps_keep_project
    (member : .ok change ∈ configSteps faults document config) (rows : ComposeRows) :
    (change rows).project = rows.project := by
  unfold configSteps at member
  split at member
  · cases mem_singleton.mp member
  · rcases mem_append.mp member with secret | answered
    · obtain ⟨_, _, written⟩ := mem_map.mp secret
      obtain ⟨_, rfl⟩ := write_eq_ok.mp written
      rfl
    · obtain ⟨_, _, written⟩ := mem_map.mp answered
      obtain ⟨_, rfl⟩ := write_eq_ok.mp written
      rfl

theorem project_of_installSteps (rows : ComposeRows)
    (done : ∀ step ∈ installSteps faults document project config, ∃ change, step = .ok change) :
    (runSteps rows (installSteps faults document project config)).2.project = some project := by
  have sound := exists_write_eq_ok.mp (done _ mem_cons_self)
  rw [installSteps, write_eq_ok.mpr ⟨sound, rfl⟩, runSteps]
  refine runSteps_keeps ComposeRows.project (fun change member => ?_) _
  simp only [mem_append, mem_singleton] at member
  rcases member with ((images | instances) | configured) | got
  · exact imagesSteps_keep_project images
  · exact instancesSteps_keep_project instances
  · exact configSteps_keep_project configured
  · obtain ⟨_, rfl⟩ := write_eq_ok.mp got.symm
    exact fun _ => rfl

end Steps

section Safety

variable {faults : Statement → Bool} {installed : Option ComposeRows} {document : Document} {tiers : TierAssignments}
  {config : Dictionary Text}

theorem installCompose_refused (project : Project) (parsed : document.project = .ok project)
    (refused : faults .insertCompose = true ∨ installed ≠ none) :
    ∃ error, installCompose faults installed document tiers config = (.error error, installed) := by
  unfold installCompose
  split
  · exact ⟨_, rfl⟩
  · rw [parsed]
    dsimp only
    split
    · exact ⟨_, rfl⟩
    case isFalse sound =>
      cases installed with
      | none => simp_all
      | some rows => exact ⟨_, rfl⟩

theorem installCompose_inserted (tiers : TierAssignments) (config : Dictionary Text) (named : document.name ≠ [])
    {project : Project} (parsed : document.project = .ok project)
    (sound : faults .insertCompose = false) :
    installCompose faults none document tiers config =
      ((runSteps ComposeRows.inserted (installSteps faults document (overrideTiers tiers project) config)).1,
        some (runSteps ComposeRows.inserted
          (installSteps faults document (overrideTiers tiers project) config)).2) := by
  simp [installCompose, named, parsed, sound]

theorem InstallsSafely.of_refused {root : HostPath} {provider : TierProvider}
    (refused : ∃ error, installCompose faults installed document tiers config = (.error error, installed)) :
    InstallsSafely faults installed document tiers config root provider := by
  obtain ⟨error, result⟩ := refused
  constructor
  · intro rows project done
    rw [result] at done
    cases done
  · intro _ _
    rw [result]

end Safety

/-- An installation is safe in both respects exactly if it is refused at once, or nothing fails
after the first row and the names of the project and of its volumes lead to places below their
directories. -/
theorem installs_safely_iff (faults : Statement → Bool) (installed : Option ComposeRows) (document : Document)
    (tiers : TierAssignments) (config : Dictionary Text) (root : HostPath) (provider : TierProvider) :
    InstallsSafely faults installed document tiers config root provider ↔
      SafeToInstall faults installed document tiers config root provider := by
  unfold SafeToInstall
  by_cases named : document.name = []
  · simp only [named, true_or, iff_true]
    exact InstallsSafely.of_refused ⟨_, if_pos named⟩
  simp only [named, false_or]
  cases parsed : document.project with
  | error message =>
    refine iff_of_true (InstallsSafely.of_refused ⟨.volumes message, ?_⟩) nofun
    simp [installCompose, named, parsed]
  | ok project =>
    simp only [Except.ok.injEq, forall_eq']
    by_cases refused : faults .insertCompose = true ∨ installed ≠ none
    · refine iff_of_true (InstallsSafely.of_refused (installCompose_refused project parsed refused)) ?_
      tauto
    push Not at refused
    obtain ⟨sound, rfl⟩ := refused
    have sound : faults .insertCompose = false := by simpa using sound
    have result := installCompose_inserted tiers config named parsed sound
    simp only [sound, Bool.false_eq_true, ne_eq, not_true_eq_false, false_or, ← installSteps_ok_iff]
    constructor
    · intro safe
      have done : ∀ step ∈ installSteps faults document (overrideTiers tiers project) config,
          ∃ change, step = .ok change := by
        rw [← runSteps_fst_eq_ok ComposeRows.inserted]
        cases outcome : (runSteps ComposeRows.inserted
            (installSteps faults document (overrideTiers tiers project) config)).1 with
        | ok => rfl
        | error error =>
          have left := safe.nothingLeft error (by rw [result, outcome])
          rw [result] at left
          cases left
      refine ⟨done, namesDescend_of_contained fun count env down => ?_⟩
      refine safe.contained _ _ ?_ (project_of_installSteps ComposeRows.inserted done) count env down
      rw [result, (runSteps_fst_eq_ok _).mpr done]
    · intro ⟨done, descend⟩
      constructor
      · intro rows stored installedNow holds count env down touched member
        rw [result] at installedNow
        obtain rfl := Option.some.inj (congrArg Prod.snd installedNow)
        rw [project_of_installSteps ComposeRows.inserted done] at holds
        obtain rfl := Option.some.inj holds
        exact contained_of_namesDescend descend member
      · intro error failed
        rw [result, (runSteps_fst_eq_ok _).mpr done] at failed
        cases failed

def sampleRoot : HostPath := ["var", "lib", "compose"]

def sampleProvider : TierProvider := fun _ => .ok ["mnt", "pool"]

/-- A document with one image and one tiered volume. -/
def sampleDocument (name volume : Text) (instances : List (Text × Instances)) : Document where
  name := name
  project := .ok
    { services := (instances.map fun (service, counts) => ⟨service, some counts, [], [], []⟩).toAList
      volumes := [⟨volume, false, "ssd", [], []⟩].toAList }
  instancesReadable := true
  images := [("app", "app:1")]
  schema := .ok []
  secretKeys := []

example : SafeToInstall (fun _ => false) none (sampleDocument "app" "data" []) ⟨∅, []⟩ ∅ sampleRoot
    sampleProvider := by
  refine .inr fun project parsed => .inr (.inr ?_)
  obtain rfl := Except.ok.inj parsed
  refine ⟨⟨fun _ _ => rfl, fun _ => by decide, [], rfl⟩, ⟨["app"], by decide, rfl⟩, ?_⟩
  intro _ _ _ entry listed mountPoint provided
  obtain rfl := Except.ok.inj provided
  obtain rfl := mem_singleton.mp listed
  exact ⟨⟨["app".toList], by decide, rfl⟩, ["compose".toList, "data".toList], by decide, rfl⟩

/-- With the name `..` the teardown removes what the root is in; a volume goes to the directory of
another plugin; the second scalable service is refused when the plugin has its row. -/
theorem names_escape_and_rows_stay :
    ((installCompose (fun _ => false) none (sampleDocument ".." "data" []) ⟨∅, []⟩ ∅).1 = .ok () ∧
      .project ["var", "lib"] ∈ teardownPaths sampleRoot ".." true) ∧
    ((installCompose (fun _ => false) none (sampleDocument "app" "../../other" []) ⟨∅, []⟩ ∅).1 = .ok () ∧
      ∃ rows project, (installCompose (fun _ => false) none (sampleDocument "app" "../../other" [])
        ⟨∅, []⟩ ∅).2 = some rows ∧ rows.project = some project ∧
        .volume ["mnt", "pool"] ["mnt", "pool", ".plugins", "other"] ∈
          materialisePaths sampleRoot sampleProvider (sampleDocument "app" "../../other" []) project 1 false) ∧
    ∃ rows, installCompose (fun _ => false) none
      (sampleDocument "app" "data" [("one", ⟨none, 0, 0⟩), ("two", ⟨none, 0, 0⟩)]) ⟨∅, []⟩ ∅ =
        (.error (.tooManyScalable 2), some rows) := by
  refine ⟨⟨by decide, by decide⟩, ⟨by decide, _, _, rfl, rfl, by decide⟩, _, rfl⟩

end Tierd.Compose
