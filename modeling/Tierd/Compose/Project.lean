import Tierd.Data.Segments
import Tierd.Data.Dictionary

namespace Tierd.Compose

open Tierd.Data

inductive Mount where
  | short (text : Text)
  | long (type source : Text) (rest : Text)
deriving DecidableEq

/-- `x-smoothnas.instances` of a service. -/
structure Instances where
  count : Option Int
  min : Int
  max : Int
deriving DecidableEq

structure ServiceDef where
  instances : Option Instances
  mounts : List Mount
  dependsOn : List Text
  rest : Text
deriving DecidableEq

/-- `x-smoothnas` of a volume; `tier` is empty when there is none. -/
structure VolumeDef where
  perInstance : Bool
  tier : Text
  minSize : Text
  rest : Text
deriving DecidableEq

/-- What else a document holds is kept as text. -/
structure Project where
  services : Dictionary ServiceDef
  volumes : Dictionary VolumeDef
deriving DecidableEq

structure InstanceSpec where
  service : Text
  count : Int
deriving DecidableEq

/-- The services with instances, sorted by name. -/
def scalableServices (project : Project) : List InstanceSpec :=
  (project.services.entries.filterMap fun entry =>
    entry.2.instances.map fun instances => (⟨entry.1, instances.count.getD 1⟩ : InstanceSpec)).insertionSort
      fun first second => first.service ≤ second.service

def perInstanceVolumes (project : Project) : List Text :=
  (project.volumes.entries.filter fun entry => entry.2.perInstance).map Sigma.fst

def cutColon (text : Text) : Option (Text × Text) :=
  if ':' ∈ text then some (text.takeWhile (· ≠ ':'), (text.dropWhile (· ≠ ':')).drop 1) else none

def instanceName (service : Text) (i : Nat) : Text := service ++ '-' :: decimal i

def volumeName (service : Text) (i : Nat) (volume : Text) : Text := instanceName service i ++ '-' :: volume

section Instances

variable (perInst : List Text) (service : Text)

def templateOf : Mount → Option Text
  | .short text =>
    match cutColon text with
    | some (name, _) => if name ∈ perInst then some name else none
    | none => none
  | .long _ _ _ => none

/-- `rewriteInstanceMounts` at one mount; the long form is left alone. -/
def rewriteInstanceMount (i : Nat) : Mount → Mount
  | .short text =>
    match cutColon text with
    | some (name, rest) => if name ∈ perInst then .short (volumeName service i name ++ ':' :: rest) else .short text
    | none => .short text
  | .long type source rest => .long type source rest

def usedVolumes (tmpl : ServiceDef) : List Text := (tmpl.mounts.filterMap (templateOf perInst)).dedup

def instantiate (tmpl : ServiceDef) (i : Nat) : ServiceDef :=
  { tmpl with instances := none, mounts := tmpl.mounts.map (rewriteInstanceMount perInst service i) }

end Instances

/-- `deepCopyVolumeDef`. -/
def copyVolumeDef (volume : VolumeDef) : VolumeDef := { volume with perInstance := false }

/-- The number of instances: `counts`, or else as declared, and at least one. -/
def instanceCount (counts : Text → Option Int) (spec : InstanceSpec) : Nat :=
  (max 1 ((counts spec.service).getD spec.count)).toNat

def instanceNumbers (counts : Text → Option Int) (spec : InstanceSpec) : List Nat :=
  (List.range (instanceCount counts spec)).map (· + 1)

structure Expansion where
  services : Dictionary ServiceDef
  volumes : Dictionary VolumeDef
  usedTemplateVols : List Text

def volumeWrites (perInst : List Text) (counts : Text → Option Int) (spec : InstanceSpec) (tmpl : ServiceDef) :
    List (Text × Text) :=
  (instanceNumbers counts spec).flatMap fun i =>
    (usedVolumes perInst tmpl).map fun volume => (volume, volumeName spec.service i volume)

/-- One round of the loop over the scalable services. -/
def expandService (perInst : List Text) (counts : Text → Option Int) (state : Expansion) (spec : InstanceSpec) :
    Expansion :=
  match state.services.lookup spec.service with
  | none => state
  | some tmpl => {
      services := Dictionary.insertAll
        ((instanceNumbers counts spec).map fun i =>
          (instanceName spec.service i, instantiate perInst spec.service tmpl i))
        (state.services.erase spec.service)
      volumes := Dictionary.copyAll copyVolumeDef (volumeWrites perInst counts spec tmpl) state.volumes
      usedTemplateVols := state.usedTemplateVols ++ usedVolumes perInst tmpl }

def expandInstances (project : Project) (counts : Text → Option Int) : Project :=
  let specs := scalableServices project
  if specs = [] then project
  else
    let state := specs.foldl (expandService (perInstanceVolumes project) counts) ⟨project.services, project.volumes, []⟩
    ⟨state.services, Directory.removeNames state.volumes state.usedTemplateVols⟩

structure TierPaths where
  path : Text → Text → Text
  absolute : ∀ volume tier, (path volume tier).head? = some '/'
  colonFree : ∀ volume tier, ':' ∉ path volume tier

def tieredBind (paths : TierPaths) (project : Project) (volume : Text) : Option Text :=
  (project.volumes.lookup volume).bind fun declared =>
    if declared.tier = [] then none else some (paths.path volume declared.tier)

def rewriteShortMount (binds : Text → Option Text) (text : Text) : Text :=
  match cutColon text with
  | some (name, rest) =>
    match binds name with
    | some host => host ++ ':' :: rest
    | none => text
  | none => text

def rewriteMount (binds : Text → Option Text) : Mount → Mount
  | .short text => .short (rewriteShortMount binds text)
  | .long type source rest =>
    match binds source with
    | some host => .long "bind".toList host rest
    | none => .long type source rest

def rewriteTieredBinds (binds : Text → Option Text) (project : Project) : Project where
  services := Dictionary.mapValues
    (fun service => { service with mounts := service.mounts.map (rewriteMount binds) }) project.services
  volumes := Directory.removeWhere (fun name => (binds name).isSome) project.volumes

/-- `composeSpecResolved`: the project that is written to disk. -/
def resolveProject (paths : TierPaths) (project : Project) (counts : Text → Option Int) : Project :=
  let expanded := expandInstances project counts
  rewriteTieredBinds (tieredBind paths expanded) expanded

end Tierd.Compose
