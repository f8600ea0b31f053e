import Tierd.Data.Paths
import Tierd.Data.Guards
import Tierd.Data.Runs
import Tierd.Plugin.ContainerNames

namespace Tierd.Plugin

open Tierd.Data List

abbrev HostPath := List Text

/-- `filepath.Join` below a cleaned path; empty elements disappear. -/
def join (base : HostPath) (parts : List Text) : HostPath :=
  Paths.follow base (parts.flatMap fun part => part.splitOn Paths.slash)

def servicePathSegment (pluginName service : Text) : Text := if service = pluginName then [] else service

def instanceSegment (instNum : Nat) : Text := "instance-" ++ decimal instNum

def resolveTierBoundHostPath (mountPoint : HostPath) (pluginName service volumeName : Text) : HostPath :=
  join mountPoint [".plugins", pluginName, servicePathSegment pluginName service, volumeName]

def stripVolumeSuffix (hostPath : HostPath) (volumeName : Text) : HostPath :=
  if hostPath.getLast? = some volumeName ∧ 1 < hostPath.length then hostPath.dropLast else hostPath

/-- The root of flat volumes and the mount point of the tier chosen for a tier-bound volume, if
there is one. -/
structure Placement where
  pluginsRoot : HostPath
  mountPoint : Text → Text → Option HostPath

/-- A row of `plugin_volumes` with its rows of `plugin_volume_paths`; an unresolved path is empty.
-/
structure VolumeRow where
  service : Text
  name : Text
  perInstance : Bool
  paths : List (Nat × Option HostPath)
deriving DecidableEq

section Install

variable (placement : Placement) (pluginName : Text) (count : Nat)

/-- One volume of `resolveVolumePaths`. -/
def volumePaths (service : Text) (volume : Volume) : Except String (List (Nat × Option HostPath)) :=
  let segment := servicePathSegment pluginName service
  let instances := (List.range count).map (· + 1)
  match volume.mode with
  | .flat =>
    .ok (if volume.perInstance then
      instances.map fun n =>
        (n, some (join placement.pluginsRoot [pluginName, segment, instanceSegment n, volume.name]))
    else [(1, some (join placement.pluginsRoot [pluginName, segment, volume.name]))])
  | .tierBound =>
    match placement.mountPoint service volume.name with
    | none => .ok (if volume.perInstance then instances.map fun n => (n, none) else [(1, none)])
    | some mountPoint =>
      let base := stripVolumeSuffix (resolveTierBoundHostPath mountPoint pluginName service volume.name) volume.name
      .ok (if volume.perInstance then instances.map fun n => (n, some (join base [instanceSegment n, volume.name]))
        else [(1, some (join base [volume.name]))])
  | .other mode =>
    .error ("resolveVolumePaths: unknown mode " ++ quoted mode ++ " for volume " ++ quoted volume.name ++ "/" ++
      quoted service)

def resolveVolumePaths (services : List Service) : Except String (List VolumeRow) :=
  let volumes := services.flatMap fun service => service.volumes.map fun volume => (service, volume)
  findAll
    (fun (service, volume) => do
      let paths ← volumePaths placement pluginName count service.name volume
      return ⟨service.name, volume.name, volume.perInstance, paths⟩)
    volumes

end Install

/-- `swapInstanceSegment`: the first segment that names the old instance is replaced. -/
def swapInstanceSegment (path : HostPath) (oldN newN : Nat) : Option HostPath :=
  match path with
  | [] => none
  | segment :: rest =>
    if segment = instanceSegment oldN then some (instanceSegment newN :: rest)
    else (swapInstanceSegment rest oldN newN).map (segment :: ·)

inductive ScaleError where
  | targetInvalid
  | notConfigurable
  | acrossSingletonBoundary
  | unresolved (service volume : Text)
  | noSegment (service volume : Text) (instNum : Nat)
deriving DecidableEq

/-- The parts of a `PluginRecord` that scaling reads and writes. -/
structure VolumeRecord where
  count : Nat
  configurable : Bool
  volumes : List VolumeRow
deriving DecidableEq

/-- `computeNewInstancePaths` for one volume.  The template is whichever entry the iteration of the
map meets first. -/
def newPaths (added : List Nat) (pick : Nat) (row : VolumeRow) : Except ScaleError (List (Nat × Option HostPath)) :=
  if row.perInstance then do
    let resolved := row.paths.filterMap fun (n, path) => path.map fun host => (n, host)
    let (templateInst, template) ← require resolved[pick % resolved.length]? (.unresolved row.service row.name)
    findAll
      (fun n => do
        let host ← require (swapInstanceSegment template templateInst n) (.noSegment row.service row.name n)
        return (n, some host))
      added
  else .ok []

/-- `Scale` of a manifest plugin, with nothing failing; `pick` stands for the order of the maps. -/
def VolumeRecord.scale (record : VolumeRecord) (target : Nat) (pick : Text → Text → Nat) :
    Except ScaleError VolumeRecord :=
  if target < 1 then .error .targetInvalid
  else if record.configurable = false then .error .notConfigurable
  else if target = record.count then .ok record
  else if (record.count = 1) ≠ (target = 1) then .error .acrossSingletonBoundary
  else if record.count < target then do
    let added := (List.range (target - record.count)).map (· + record.count + 1)
    let volumes ← findAll
      (fun row => do
        let more ← newPaths added (pick row.service row.name) row
        return { row with paths := row.paths ++ more })
      record.volumes
    return { record with count := target, volumes := volumes }
  else
    .ok { record with
      count := target
      volumes := record.volumes.map fun row =>
        { row with paths := row.paths.filter fun (n, _) => ¬ (target < n ∧ n ≤ record.count) } }

structure ScaleRequest where
  target : Nat
  pick : Text → Text → Nat

/-- A request that fails changes nothing. -/
def VolumeRecord.step (record : VolumeRecord) (request : ScaleRequest) : VolumeRecord :=
  match record.scale request.target request.pick with
  | .ok scaled => scaled
  | .error _ => record

def homeOf (placement : Placement) (pluginName service : Text) (volume : Volume) : Option HostPath :=
  match volume.mode with
  | .flat => some (join placement.pluginsRoot [pluginName])
  | .tierBound => (placement.mountPoint service volume.name).map (join · [".plugins", pluginName])
  | .other _ => none

/-- The segments below the plugin's own directory. -/
def segmentsOf (pluginName service : Text) (volume : Volume) (n : Nat) : HostPath :=
  (if service = pluginName then [] else [service]) ++ (if volume.perInstance then [instanceSegment n] else []) ++
    [volume.name]

def VolumeRecord.Canonical (placement : Placement) (manifest : Manifest) (record : VolumeRecord) : Prop :=
  ∀ row ∈ record.volumes, ∃ service ∈ manifest.services, ∃ volume ∈ service.volumes,
    row.service = service.name ∧ row.name = volume.name ∧ row.perInstance = volume.perInstance ∧
    ∀ n path, (n, some path) ∈ row.paths → 1 ≤ n ∧ (volume.perInstance = false → n = 1) ∧
      ∃ home, homeOf placement manifest.name service.name volume = some home ∧
        path = home ++ segmentsOf manifest.name service.name volume n

section Segments

/-- A name that a path does not treat specially. -/
def PlainSegment (part : Text) : Prop := Paths.slash ∉ part ∧ part ≠ ['.'] ∧ part ≠ ['.', '.']

theorem plain_of_label {text : Text} (lead : text.head?.any isLower = true) (chars : text.all isLabelChar = true) :
    PlainSegment text ∧ text ≠ [] := by
  have allowed := all_eq_true.mp chars
  refine ⟨⟨fun slash => absurd (allowed _ slash) (by decide), ?_, ?_⟩, ?_⟩ <;> rintro rfl <;>
    exact absurd lead (by decide)

theorem plain_of_matchesVolumeName {text : Text} (valid : matchesVolumeName text = true) :
    PlainSegment text ∧ text ≠ [] := by
  simp only [matchesVolumeName, Bool.and_eq_true] at valid
  exact plain_of_label valid.1.1 valid.1.2

theorem plain_of_matchesName {text : Text} (valid : matchesName text = true) : PlainSegment text ∧ text ≠ [] := by
  simp only [matchesName, Bool.and_eq_true] at valid
  exact plain_of_label valid.1.1.1 valid.1.1.2

theorem plain_instanceSegment (n : Nat) : PlainSegment (instanceSegment n) := by
  have lead : ∃ rest, instanceSegment n = 'i' :: rest := ⟨_, rfl⟩
  refine ⟨fun slash => ?_, ?_, ?_⟩
  · rcases mem_append.mp slash with literal | number
    · exact absurd literal (by decide)
    · exact not_mem_decimal (by decide) number
  · obtain ⟨rest, spelled⟩ := lead
    simp [spelled]
  · obtain ⟨rest, spelled⟩ := lead
    simp [spelled]

theorem instanceSegment_ne_nil (n : Nat) : instanceSegment n ≠ [] := by
  have lead : ∃ rest, instanceSegment n = 'i' :: rest := ⟨_, rfl⟩
  obtain ⟨rest, spelled⟩ := lead
  simp [spelled]

theorem instanceSegment_inj {m n : Nat} (same : instanceSegment m = instanceSegment n) : m = n :=
  decimal_inj (append_cancel_left same)

theorem plain_servicePathSegment {pluginName service : Text} (plain : PlainSegment service) :
    PlainSegment (servicePathSegment pluginName service) := by
  unfold servicePathSegment
  split
  · exact ⟨by simp, by simp, by simp⟩
  · exact plain

theorem join_plain {parts : List Text} (base : HostPath) (plain : ∀ part ∈ parts, PlainSegment part) :
    join base parts = base ++ parts.filter (· ≠ []) := by
  induction parts generalizing base with
  | nil => simp [join, Paths.follow]
  | cons part rest ih =>
    obtain ⟨slashless, dot, dots⟩ := plain part mem_cons_self
    have single : part.splitOn Paths.slash = [part] := splitOn_eq_singleton slashless
    have entered : join base (part :: rest) = join (Paths.enter base part) rest := by
      simp [join, single, Paths.follow]
    rw [entered, ih _ fun other member => plain other (mem_cons_of_mem _ member)]
    by_cases empty : part = []
    · simp [Paths.enter, empty]
    · simp [Paths.enter, empty, dot, dots]

end Segments

section Canonical

variable {placement : Placement} {manifest : Manifest} {record : VolumeRecord}

theorem join_segments (base : HostPath) (pluginName : Text) {service : Text} {before after : List Text}
    (nonempty : service ≠ []) (plain : PlainSegment service)
    (plainBefore : ∀ part ∈ before, PlainSegment part ∧ part ≠ [])
    (plainAfter : ∀ part ∈ after, PlainSegment part ∧ part ≠ []) :
    join base (before ++ servicePathSegment pluginName service :: after) =
      base ++ before ++ (if service = pluginName then [] else [service]) ++ after := by
  have keptBefore : before.filter (· ≠ []) = before := by simpa using fun part member => (plainBefore part member).2
  have keptAfter : after.filter (· ≠ []) = after := by simpa using fun part member => (plainAfter part member).2
  rw [join_plain]
  · rw [filter_append, filter_cons, keptBefore, keptAfter]
    unfold servicePathSegment
    split <;> simp [nonempty]
  · intro part member
    rcases mem_append.mp member with early | member
    · exact (plainBefore part early).1
    rcases mem_cons.mp member with rfl | late
    · exact plain_servicePathSegment plain
    · exact (plainAfter part late).1

theorem join_kept (base : HostPath) {parts : List Text} (plain : ∀ part ∈ parts, PlainSegment part ∧ part ≠ []) :
    join base parts = base ++ parts := by
  rw [join_plain base fun part member => (plain part member).1]
  congr 1
  simpa using fun part member => (plain part member).2

theorem entries_canonical {pluginName service : Text} {volume : Volume} {count : Nat} {home : HostPath}
    {build : List Text → HostPath} (named : PlainSegment volume.name ∧ volume.name ≠ [])
    (builds : ∀ rest, (∀ part ∈ rest, PlainSegment part ∧ part ≠ []) →
      build rest = home ++ (if service = pluginName then [] else [service]) ++ rest)
    {n : Nat} {path : HostPath}
    (entry : (n, some path) ∈ if volume.perInstance then
      ((List.range count).map (· + 1)).map fun m => (m, some (build [instanceSegment m, volume.name]))
      else [(1, some (build [volume.name]))]) :
    1 ≤ n ∧ (volume.perInstance = false → n = 1) ∧ path = home ++ segmentsOf pluginName service volume n := by
  cases perInstance : volume.perInstance with
  | true =>
    rw [if_pos perInstance] at entry
    obtain ⟨m, numbered, same⟩ := mem_map.mp entry
    obtain ⟨k, -, rfl⟩ := mem_map.mp numbered
    cases same
    refine ⟨by omega, nofun, ?_⟩
    have marked : PlainSegment (instanceSegment (k + 1)) ∧ instanceSegment (k + 1) ≠ [] :=
      ⟨plain_instanceSegment _, instanceSegment_ne_nil _⟩
    rw [builds _ (by simpa using ⟨marked, named⟩)]
    simp [segmentsOf, perInstance]
  | false =>
    rw [if_neg (by simp [perInstance])] at entry
    cases mem_singleton.mp entry
    refine ⟨le_rfl, fun _ => rfl, ?_⟩
    rw [builds _ (by simpa using named)]
    simp [segmentsOf, perInstance]

/-- What install records for one volume. -/
theorem volumePaths_canonical {service : Service} {volume : Volume} {count : Nat}
    {paths : List (Nat × Option HostPath)} (valid : manifest.Valid) (listed : service ∈ manifest.services)
    (member : volume ∈ service.volumes)
    (resolved : volumePaths placement manifest.name count service.name volume = .ok paths) {n : Nat} {path : HostPath}
    (entry : (n, some path) ∈ paths) :
    1 ≤ n ∧ (volume.perInstance = false → n = 1) ∧
      ∃ home, homeOf placement manifest.name service.name volume = some home ∧
        path = home ++ segmentsOf manifest.name service.name volume n := by
  have serviceValid := valid.services service listed
  have plugin := plain_of_matchesName valid.name
  obtain ⟨plainService, nonempty⟩ := plain_of_matchesName serviceValid.name
  have named := plain_of_matchesVolumeName (serviceValid.volumeNames volume member)
  have hidden : PlainSegment ".plugins".toList ∧ ".plugins".toList ≠ [] :=
    ⟨⟨by decide, by decide, by decide⟩, by decide⟩
  cases mode : volume.mode with
  | other text => simp [volumePaths, mode] at resolved
  | flat =>
    simp only [volumePaths, mode, Except.ok.injEq] at resolved
    subst resolved
    have builds (rest : List Text) (plain : ∀ part ∈ rest, PlainSegment part ∧ part ≠ []) :=
      join_segments placement.pluginsRoot manifest.name nonempty plainService (forall_mem_singleton.mpr plugin)
        plain
    obtain ⟨positive, shared, spelled⟩ := entries_canonical named builds entry
    refine ⟨positive, shared, _, ?_, spelled⟩
    simp only [homeOf, mode]
    rw [join_kept _ (forall_mem_singleton.mpr plugin)]
  | tierBound =>
    cases mounted : placement.mountPoint service.name volume.name with
    | none =>
      simp only [volumePaths, mode, mounted, Except.ok.injEq] at resolved
      subst resolved
      split at entry <;> simp at entry
    | some mountPoint =>
      simp only [volumePaths, mode, mounted, Except.ok.injEq] at resolved
      subst resolved
      have ownDirectory : ∀ part ∈ [".plugins".toList, manifest.name], PlainSegment part ∧ part ≠ [] :=
        forall_mem_cons.mpr ⟨hidden, forall_mem_singleton.mpr plugin⟩
      have base : stripVolumeSuffix
          (resolveTierBoundHostPath mountPoint manifest.name service.name volume.name) volume.name =
          mountPoint ++ [".plugins".toList, manifest.name] ++
            (if service.name = manifest.name then [] else [service.name]) := by
        have whole := join_segments mountPoint manifest.name nonempty plainService ownDirectory
          (forall_mem_singleton.mpr named)
        have unfolded : resolveTierBoundHostPath mountPoint manifest.name service.name volume.name = _ := whole
        have deep : 1 < (mountPoint ++ [".plugins".toList, manifest.name] ++
            (if service.name = manifest.name then [] else [service.name]) ++ [volume.name]).length := by
          simp only [length_append, length_cons, length_nil]
          omega
        rw [unfolded, stripVolumeSuffix, if_pos ⟨List.getLast?_concat, deep⟩, dropLast_concat]
      rw [base] at entry
      have builds (rest : List Text) (plain : ∀ part ∈ rest, PlainSegment part ∧ part ≠ []) :=
        join_kept (mountPoint ++ [".plugins".toList, manifest.name] ++
          (if service.name = manifest.name then [] else [service.name])) plain
      obtain ⟨positive, shared, spelled⟩ := entries_canonical named builds entry
      refine ⟨positive, shared, _, ?_, spelled⟩
      simp only [homeOf, mode, mounted, Option.map_some]
      rw [join_kept _ ownDirectory]

theorem resolveVolumePaths_canonical {count : Nat} (configurable : Bool) {volumes : List VolumeRow}
    (valid : manifest.Valid)
    (resolved : resolveVolumePaths placement manifest.name count manifest.services = .ok volumes) :
    VolumeRecord.Canonical placement manifest ⟨count, configurable, volumes⟩ := by
  intro row member
  obtain ⟨⟨service, volume⟩, listed, found⟩ := exists_item_of_findAll resolved member
  simp only [mem_flatMap, mem_map, Prod.mk.injEq] at listed
  obtain ⟨service, listed, volume, inService, rfl, rfl⟩ := listed
  simp only [bind_eq_ok, pure_eq_ok] at found
  obtain ⟨paths, resolvedPaths, rfl⟩ := found
  exact ⟨service, listed, volume, inService, rfl, rfl, rfl,
    fun n path => volumePaths_canonical valid listed inService resolvedPaths⟩

end Canonical

/-- No name stands where another kind of segment may stand: `shared`, `services` and `numbered`
keep the segments of two volumes apart, `markers` is what the swap of a segment relies on, and
`homes` says that the plugin's directories on two tiers are not inside each other. -/
structure Separate (placement : Placement) (manifest : Manifest) : Prop where
  shared : ∀ service ∈ manifest.services, ∀ volume ∈ service.volumes, ∀ other ∈ service.volumes,
    volume.perInstance = false → other.perInstance = true →
    homeOf placement manifest.name service.name volume = homeOf placement manifest.name service.name other →
    ∀ n, 1 ≤ n → volume.name ≠ instanceSegment n
  services : ∀ service ∈ manifest.services, ∀ volume ∈ service.volumes, ∀ extra ∈ manifest.services,
    ∀ other ∈ extra.volumes, service.name = manifest.name → extra.name ≠ manifest.name → volume.perInstance = false →
    homeOf placement manifest.name service.name volume = homeOf placement manifest.name extra.name other →
    volume.name ≠ extra.name
  numbered : ∀ service ∈ manifest.services, ∀ volume ∈ service.volumes, ∀ extra ∈ manifest.services,
    ∀ other ∈ extra.volumes, service.name = manifest.name → extra.name ≠ manifest.name → volume.perInstance = true →
    other.perInstance = false → volume.name = other.name →
    homeOf placement manifest.name service.name volume = homeOf placement manifest.name extra.name other →
    ∀ n, 1 ≤ n → extra.name ≠ instanceSegment n
  markers : ∀ service ∈ manifest.services, ∀ volume ∈ service.volumes, volume.perInstance = true →
    ∀ home, homeOf placement manifest.name service.name volume = some home → ∀ n, 1 ≤ n →
      instanceSegment n ∉ home ∧ (service.name = manifest.name ∨ service.name ≠ instanceSegment n)
  homes : ∀ service ∈ manifest.services, ∀ volume ∈ service.volumes, ∀ other ∈ manifest.services,
    ∀ further ∈ other.volumes, ∀ home elsewhere, homeOf placement manifest.name service.name volume = some home →
    homeOf placement manifest.name other.name further = some elsewhere → home <+: elsewhere → home = elsewhere

/-- The directories of different (service, volume, instance) triples are not equal or nested. -/
def VolumeRecord.Disjoint (record : VolumeRecord) : Prop :=
  ∀ row ∈ record.volumes, ∀ other ∈ record.volumes, ∀ n path, (n, some path) ∈ row.paths →
    ∀ m further, (m, some further) ∈ other.paths →
      (row.service, row.name, n) ≠ (other.service, other.name, m) → ¬ path <+: further

def VolumeRecord.Inside (placement : Placement) (manifest : Manifest) (record : VolumeRecord) : Prop :=
  ∀ row ∈ record.volumes, ∀ n path, (n, some path) ∈ row.paths →
    ∃ service ∈ manifest.services, ∃ volume ∈ service.volumes, row.service = service.name ∧ row.name = volume.name ∧
      ∃ home, homeOf placement manifest.name service.name volume = some home ∧ home <+: path ∧ home ≠ path

section Runs

variable {placement : Placement} {manifest : Manifest} {record : VolumeRecord}

theorem swapInstanceSegment_at {lead rest : HostPath} {oldN newN : Nat} (absent : instanceSegment oldN ∉ lead) :
    swapInstanceSegment (lead ++ instanceSegment oldN :: rest) oldN newN =
      some (lead ++ instanceSegment newN :: rest) := by
  induction lead with
  | nil => simp [swapInstanceSegment]
  | cons segment lead ih =>
    obtain ⟨other, later⟩ := ne_and_not_mem_of_not_mem_cons absent
    simp only [cons_append, swapInstanceSegment, if_neg (Ne.symm other), ih later, Option.map_some]

theorem swap_canonical {service : Service} {volume : Volume} {home : HostPath} {old new : Nat}
    (separate : Separate placement manifest) (listed : service ∈ manifest.services) (member : volume ∈ service.volumes)
    (perInstance : volume.perInstance = true) (positive : 1 ≤ old)
    (own : homeOf placement manifest.name service.name volume = some home) :
    swapInstanceSegment (home ++ segmentsOf manifest.name service.name volume old) old new =
      some (home ++ segmentsOf manifest.name service.name volume new) := by
  obtain ⟨notHome, notService⟩ := separate.markers service listed volume member perInstance home own old positive
  have spelled (k : Nat) : home ++ segmentsOf manifest.name service.name volume k =
      (home ++ if service.name = manifest.name then [] else [service.name]) ++ instanceSegment k :: [volume.name] := by
    simp [segmentsOf, perInstance]
  rw [spelled old, spelled new]
  refine swapInstanceSegment_at ?_
  rcases notService with same | differs
  · simpa [same] using notHome
  · split
    · simpa using notHome
    · simpa using ⟨notHome, differs.symm⟩

theorem newPaths_canonical {row : VolumeRow} {service : Service} {volume : Volume} {added : List Nat} {pick : Nat}
    {more : List (Nat × Option HostPath)} (separate : Separate placement manifest)
    (listed : service ∈ manifest.services) (member : volume ∈ service.volumes)
    (flag : row.perInstance = volume.perInstance)
    (canonical : ∀ n path, (n, some path) ∈ row.paths → 1 ≤ n ∧ (volume.perInstance = false → n = 1) ∧
      ∃ home, homeOf placement manifest.name service.name volume = some home ∧
        path = home ++ segmentsOf manifest.name service.name volume n)
    (positive : ∀ n ∈ added, 1 ≤ n) (made : newPaths added pick row = .ok more) {n : Nat} {path : HostPath}
    (entry : (n, some path) ∈ more) :
    1 ≤ n ∧ (volume.perInstance = false → n = 1) ∧
      ∃ home, homeOf placement manifest.name service.name volume = some home ∧
        path = home ++ segmentsOf manifest.name service.name volume n := by
  cases perInstance : volume.perInstance with
  | false =>
    rw [newPaths, if_neg (by simp [flag, perInstance])] at made
    cases made
    cases entry
  | true =>
    rw [newPaths, if_pos (flag.trans perInstance)] at made
    simp only [bind_eq_ok, require_eq_ok] at made
    obtain ⟨⟨old, template⟩, chosen, made⟩ := made
    obtain ⟨new, inAdded, found⟩ := exists_item_of_findAll made entry
    simp only [bind_eq_ok, require_eq_ok, pure_eq_ok, Prod.mk.injEq, Option.some.injEq] at found
    obtain ⟨host, swapped, rfl, rfl⟩ := found
    have stored : (old, some template) ∈ row.paths := by
      obtain ⟨⟨k, held⟩, inPaths, same⟩ := mem_filterMap.mp (mem_of_getElem? chosen)
      obtain ⟨kept, rfl, pair⟩ := Option.map_eq_some_iff.mp same
      cases pair
      exact inPaths
    obtain ⟨oldPositive, -, home, own, rfl⟩ := canonical old template stored
    rw [swap_canonical separate listed member perInstance oldPositive own, Option.some.injEq] at swapped
    exact ⟨positive new inAdded, fun shared => Bool.noConfusion shared, home, own, swapped.symm⟩

theorem VolumeRecord.Canonical.scale {target : Nat} {pick : Text → Text → Nat} {scaled : VolumeRecord}
    (separate : Separate placement manifest) (canonical : record.Canonical placement manifest)
    (done : record.scale target pick = .ok scaled) : scaled.Canonical placement manifest := by
  simp only [VolumeRecord.scale] at done
  split at done
  · cases done
  split at done
  · cases done
  split at done
  · cases done
    exact canonical
  split at done
  · cases done
  split at done
  · simp only [bind_eq_ok, pure_eq_ok] at done
    obtain ⟨volumes, made, rfl⟩ := done
    intro row member
    obtain ⟨old, inRecord, found⟩ := exists_item_of_findAll made member
    simp only [bind_eq_ok, pure_eq_ok] at found
    obtain ⟨more, madePaths, rfl⟩ := found
    obtain ⟨service, listed, volume, inService, service_eq, name_eq, flag, paths⟩ := canonical old inRecord
    refine ⟨service, listed, volume, inService, service_eq, name_eq, flag, fun n path entry => ?_⟩
    rcases mem_append.mp entry with kept | new
    · exact paths n path kept
    · refine newPaths_canonical separate listed inService flag paths ?_ madePaths new
      intro k inAdded
      obtain ⟨j, -, rfl⟩ := mem_map.mp inAdded
      omega
  · cases done
    intro row member
    obtain ⟨old, inRecord, rfl⟩ := mem_map.mp member
    obtain ⟨service, listed, volume, inService, service_eq, name_eq, flag, paths⟩ := canonical old inRecord
    exact ⟨service, listed, volume, inService, service_eq, name_eq, flag,
      fun n path entry => paths n path (mem_filter.mp entry).1⟩

theorem VolumeRecord.Canonical.step {request : ScaleRequest} (separate : Separate placement manifest)
    (canonical : record.Canonical placement manifest) : (record.step request).Canonical placement manifest := by
  unfold VolumeRecord.step
  split
  · next scaled done => exact canonical.scale separate done
  · exact canonical

theorem VolumeRecord.Canonical.inside (canonical : record.Canonical placement manifest) :
    record.Inside placement manifest := by
  intro row member n path entry
  obtain ⟨service, listed, volume, inService, service_eq, name_eq, -, paths⟩ := canonical row member
  obtain ⟨-, -, home, own, rfl⟩ := paths n path entry
  refine ⟨service, listed, volume, inService, service_eq, name_eq, home, own, prefix_append _ _, ?_⟩
  simp [segmentsOf]

/-- Two volumes in one directory of the plugin: whichever segments they have, the first stands in
the second only where a name of the manifest looks like another kind of segment. -/
theorem segments_apart {service other : Service} {volume further : Volume} {home : HostPath} {n m : Nat}
    (valid : manifest.Valid) (separate : Separate placement manifest) (listed : service ∈ manifest.services)
    (otherListed : other ∈ manifest.services) (member : volume ∈ service.volumes)
    (otherMember : further ∈ other.volumes)
    (positive : 1 ≤ n) (otherPositive : 1 ≤ m) (single : volume.perInstance = false → n = 1)
    (otherSingle : further.perInstance = false → m = 1)
    (ownHome : homeOf placement manifest.name service.name volume = some home)
    (otherHome : homeOf placement manifest.name other.name further = some home)
    (nested : segmentsOf manifest.name service.name volume n <+: segmentsOf manifest.name other.name further m) :
    (service.name, volume.name, n) = (other.name, further.name, m) := by
  have together := ownHome.trans otherHome.symm
  have sharedApart (sameService : service.name = other.name) (per : volume.perInstance = false)
      (otherPer : further.perInstance = true) : volume.name ≠ instanceSegment m := by
    obtain rfl : service = other := inj_on_of_nodup_map valid.servicesOnce listed otherListed sameService
    exact separate.shared service listed volume member further otherMember per otherPer together m otherPositive
  have bothShared (per : volume.perInstance = false) (otherPer : further.perInstance = false) : n = m :=
    (single per).trans (otherSingle otherPer).symm
  by_cases own : service.name = manifest.name <;> by_cases otherOwn : other.name = manifest.name <;>
    cases per : volume.perInstance <;> cases otherPer : further.perInstance <;>
    simp only [segmentsOf, own, otherOwn, per, otherPer, if_true, if_false, Bool.false_eq_true, nil_append,
      cons_append, append_nil, cons_prefix_cons, prefix_nil, nil_prefix, and_true, and_false,
      reduceCtorEq] at nested
  · rw [own, otherOwn, nested, bothShared per otherPer]
  · exact absurd nested (sharedApart (own.trans otherOwn.symm) per otherPer)
  · rw [own, otherOwn, nested.2, instanceSegment_inj nested.1]
  · exact absurd nested (separate.services service listed volume member other otherListed further otherMember own
      otherOwn per together)
  · exact absurd nested (separate.services service listed volume member other otherListed further otherMember own
      otherOwn per together)
  · exact absurd nested.1.symm (separate.numbered service listed volume member other otherListed further otherMember own
      otherOwn per otherPer nested.2 together n positive)
  · rcases (separate.markers other otherListed further otherMember otherPer home otherHome n positive).2 with
      same | differs
    · exact absurd same otherOwn
    · exact absurd nested.1.symm differs
  · exact absurd nested.1 (separate.numbered other otherListed further otherMember service listed volume member otherOwn
      own otherPer per nested.2.symm together.symm m otherPositive)
  · rw [nested.1, nested.2, bothShared per otherPer]
  · exact absurd nested.2 (sharedApart nested.1 per otherPer)
  · rw [nested.1, nested.2.2, instanceSegment_inj nested.2.1]

theorem VolumeRecord.Canonical.disjoint (valid : manifest.Valid) (separate : Separate placement manifest)
    (canonical : record.Canonical placement manifest) : record.Disjoint := by
  intro row member other otherMember n path entry m further otherEntry different nested
  obtain ⟨service, listed, volume, inService, service_eq, name_eq, -, paths⟩ := canonical row member
  obtain ⟨extra, otherListed, mount, inExtra, extra_eq, mount_eq, -, otherPaths⟩ := canonical other otherMember
  obtain ⟨positive, single, home, ownHome, rfl⟩ := paths n path entry
  obtain ⟨otherPositive, otherSingle, elsewhere, otherHome, rfl⟩ := otherPaths m further otherEntry
  have above : home <+: elsewhere ++ segmentsOf manifest.name extra.name mount m :=
    (prefix_append home _).trans nested
  have same : home = elsewhere := by
    rcases prefix_or_prefix_of_prefix above (prefix_append elsewhere _) with inside | outside
    · exact separate.homes service listed volume inService extra otherListed mount inExtra home elsewhere ownHome
        otherHome inside
    · exact (separate.homes extra otherListed mount inExtra service listed volume inService elsewhere home otherHome
        ownHome outside).symm
  subst same
  have apart := segments_apart valid separate listed otherListed inService inExtra positive otherPositive
    single otherSingle
    ownHome otherHome ((prefix_append_right_inj home).mp nested)
  exact different (by rw [service_eq, name_eq, extra_eq, mount_eq, apart])

/-- For every accepted manifest, every number of instances and every history of scaling. -/
theorem volumes_stay_disjoint (resources : ResourceSyntax) (accepted : validateManifest resources manifest = [])
    (native : manifest.isCompose = false) (separate : Separate placement manifest) (count : Nat)
    (volumes : List VolumeRow)
    (resolved : resolveVolumePaths placement manifest.name count manifest.services = .ok volumes)
    (requests : List ScaleRequest) :
    (run VolumeRecord.step ⟨count, manifest.configurable, volumes⟩ requests).Disjoint ∧
      (run VolumeRecord.step ⟨count, manifest.configurable, volumes⟩ requests).Inside placement manifest := by
  have valid := Manifest.valid_of_validateManifest accepted native
  have kept (state : VolumeRecord) (request : ScaleRequest) (canonical : state.Canonical placement manifest) :
      (state.step request).Canonical placement manifest := canonical.step separate
  have canonical := run_invariant kept requests
    (resolveVolumePaths_canonical manifest.configurable valid resolved)
  exact ⟨canonical.disjoint valid separate, canonical.inside⟩

theorem ne_instanceSegment {text : Text} (unmarked : "instance-".toList.isPrefixOf text = false) (n : Nat) :
    text ≠ instanceSegment n := by
  intro same
  have marked : "instance-".toList.isPrefixOf text = true :=
    isPrefixOf_iff_prefix.mpr (same ▸ prefix_append _ _)
  rw [unmarked] at marked
  cases marked

end Runs

def flatVolume (name : Text) (perInstance : Bool) : Volume := ⟨name, .flat, [], "/data", perInstance⟩

/-- Services by their names and flat volumes. -/
def flatManifest (name : Text) (services : List (Text × List Volume)) : Manifest :=
  { plainManifest name [] with
    services := services.map fun (service, volumes) => { plainService service with volumes := volumes } }

def flatPlacement : Placement := ⟨["plugins"], fun _ _ => none⟩

def separateManifest : Manifest :=
  flatManifest "app"
    [("app", [flatVolume "data" true, flatVolume "conf" false]),
      ("db", [flatVolume "data" true])]

theorem separateManifest_separate : Separate flatPlacement separateManifest := by
  have unmarked : ∀ service ∈ separateManifest.services,
      "instance-".toList.isPrefixOf service.name = false ∧
        ∀ volume ∈ service.volumes, "instance-".toList.isPrefixOf volume.name = false := by decide
  have oneHome : ∀ service ∈ separateManifest.services, ∀ volume ∈ service.volumes,
      homeOf flatPlacement separateManifest.name service.name volume =
        some ["plugins".toList, "app".toList] := by decide
  refine ⟨?_, by decide, ?_, ?_, ?_⟩
  · intro service listed volume member other otherMember _ _ _ n _
    exact ne_instanceSegment ((unmarked service listed).2 volume member) n
  · intro service listed volume member extra otherListed other otherMember _ _ _ _ _ _ n _
    exact ne_instanceSegment (unmarked extra otherListed).1 n
  · intro service listed volume member _ home own n _
    obtain rfl : ["plugins".toList, "app".toList] = home :=
      Option.some.inj ((oneHome service listed volume member).symm.trans own)
    have homeUnmarked : ∀ part ∈ ["plugins".toList, "app".toList], "instance-".toList.isPrefixOf part =
      false := by decide
    exact ⟨fun inHome => ne_instanceSegment (homeUnmarked _ inHome) n rfl,
      Or.inr (ne_instanceSegment (unmarked service listed).1 n)⟩
  · intro service listed volume member other otherListed further otherMember home elsewhere own otherHome _
    rw [oneHome service listed volume member] at own
    rw [oneHome other otherListed further otherMember] at otherHome
    exact Option.some.inj (own.symm.trans otherHome)

def nestingManifest : Manifest :=
  flatManifest "app"
    [("app", [flatVolume "db" false]), ("db", [flatVolume "data" false])]

def numberedManifest : Manifest :=
  flatManifest "instance-1" [("instance-1", [flatVolume "data" true])]

/-- The first manifest gets one volume inside another, and scaling the second from two instances to
three makes a directory outside the plugin's own. -/
theorem volumes_nest_or_leave :
    (validateManifest anyResource nestingManifest = [] ∧
      ∃ volumes, resolveVolumePaths flatPlacement nestingManifest.name 1 nestingManifest.services = .ok volumes ∧
        ¬ VolumeRecord.Disjoint ⟨1, true, volumes⟩) ∧
    (validateManifest anyResource numberedManifest = [] ∧
      ∃ volumes, resolveVolumePaths flatPlacement numberedManifest.name 2 numberedManifest.services = .ok volumes ∧
        ¬ (run VolumeRecord.step ⟨2, true, volumes⟩ [⟨3, fun _ _ => 0⟩]).Inside flatPlacement numberedManifest) := by
  refine ⟨⟨by decide, _, rfl, fun disjoint => ?_⟩, by decide, _, rfl, fun inside => ?_⟩
  · exact disjoint _ mem_cons_self _ (mem_cons_of_mem _ mem_cons_self) 1 _ mem_cons_self 1 _
      mem_cons_self (by decide) (by decide)
  · have escaped : (3, some ["plugins".toList, "instance-3".toList, "instance-1".toList, "data".toList]) ∈
        [(1, some ["plugins".toList, "instance-1".toList, "instance-1".toList, "data".toList]),
          (2, some ["plugins".toList, "instance-1".toList, "instance-2".toList, "data".toList]),
          (3, some ["plugins".toList, "instance-3".toList, "instance-1".toList, "data".toList])] := by decide
    obtain ⟨service, listed, volume, member, -, -, home, own, above, -⟩ := inside _ mem_cons_self 3 _ escaped
    have oneHome : ∀ service ∈ numberedManifest.services, ∀ volume ∈ service.volumes,
        homeOf flatPlacement numberedManifest.name service.name volume =
          some ["plugins".toList, "instance-1".toList] := by decide
    obtain rfl : ["plugins".toList, "instance-1".toList] = home :=
      Option.some.inj ((oneHome service listed volume member).symm.trans own)
    exact absurd above (by decide)

/-- Scaled from two instances to four and back to three. -/
theorem separateManifest_stays_disjoint :
    ∃ volumes, resolveVolumePaths flatPlacement "app" 2 separateManifest.services = .ok volumes ∧
      (run VolumeRecord.step ⟨2, true, volumes⟩ [⟨4, fun _ _ => 1⟩, ⟨3, fun _ _ => 0⟩]).count = 3 ∧
      (run VolumeRecord.step ⟨2, true, volumes⟩ [⟨4, fun _ _ => 1⟩, ⟨3, fun _ _ => 0⟩]).Disjoint :=
  ⟨_, rfl, by decide,
    (volumes_stay_disjoint anyResource (by decide) rfl separateManifest_separate 2 _ rfl _).1⟩

end Tierd.Plugin
