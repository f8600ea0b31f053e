import Tierd.Data.Rows
import Tierd.Data.Segments
import Tierd.Plugin.Manifest

namespace Tierd.Plugin.Store

open Tierd.Data

inductive State where
  | installed | pulling | creating | starting | running | stopped | failed | degraded
deriving DecidableEq, Repr

structure PluginRow where
  version : Text
  state : State
  manifest : Text
  artifactType : ArtifactType
  imageRef : Text
  distroSummary : Text
  instanceCount : Nat
  instanceConfigurable : Bool
deriving DecidableEq

structure ServiceRow where
  service : Text
  artifactType : ArtifactType
  imageRef : Text
  distroSummary : Text
  dependsOn : List (Text × Text)
  health : Option Healthcheck
  ordinal : Nat
  pinnedImage : Text
deriving DecidableEq

structure InstanceRow where
  service : Text
  number : Nat
  containerID : Text
  state : State
deriving DecidableEq

structure VolumeRow where
  service : Text
  name : Text
  mode : VolumeMode
  slot : Text
  tierPool : Text
  perInstance : Bool
  bindPath : Text
  paths : List (Nat × Text)
deriving DecidableEq

structure PortRow where
  service : Text
  name : Text
  containerPort : Int
  protocol : Protocol
  expose : Bool
  hostExpose : Bool
deriving DecidableEq

structure ConfigRow where
  service : Text
  key : Text
  value : Text
deriving DecidableEq

structure ContainerRefRow where
  service : Text
  name : Text
  imageRef : Text
  digest : Text
  resolvedRef : Text
deriving DecidableEq

def InstanceRow.unit (row : InstanceRow) : Text × Nat := (row.service, row.number)

def VolumeRow.volume (row : VolumeRow) : Text × Text := (row.service, row.name)

def PortRow.port (row : PortRow) : Text × Text := (row.service, row.name)

def ConfigRow.field (row : ConfigRow) : Text × Text := (row.service, row.key)

def ContainerRefRow.ref (row : ContainerRefRow) : Text × Text := (row.service, row.name)

/-- A `PluginRecord` with the row of `plugin_secrets`. -/
structure PluginTables where
  plugin : PluginRow
  services : List ServiceRow
  instances : List InstanceRow
  volumes : List VolumeRow
  ports : List PortRow
  config : List ConfigRow
  containerRefs : List ContainerRefRow
  bearerToken : Option Text
deriving DecidableEq

def artifactCompose : ArtifactType := .other "compose"

inductive StoreError where
  | notFound
  | exists
  | requiresReinstall (detail : String)
  | message (text : String)
  | constraint (table : String) (row : Text × Text) (violation : Violation)
  | panic
deriving DecidableEq

/-- The parts around the last colon, unless a slash follows it. -/
def splitImageTag (ref : Text) : Text × Text :=
  let tag := (ref.reverse.takeWhile (· ≠ ':')).reverse
  if ':' ∈ ref ∧ '/' ∉ tag then (ref.take (ref.length - tag.length - 1), tag) else (ref, [])

def digestPinnedImageRef (image digest : Text) : Text :=
  if image = [] then []
  else
    let base := image.takeWhile (· ≠ '@')
    let embedded := (image.dropWhile (· ≠ '@')).drop 1
    let pin := if digest = [] then embedded else digest
    if pin = [] then image else (splitImageTag base).1 ++ '@' :: pin

def distroSummary (service : Service) : Text :=
  if service.artifact.type = .lxcDistro then
    service.artifact.distro ++ '/' :: service.artifact.release ++ '/' ::
      (if service.artifact.arch = [] then "host" else service.artifact.arch)
  else []

def imageRefOf (service : Service) : Text :=
  if service.artifact.type = .ociImage then digestPinnedImageRef service.artifact.image service.artifact.digest else []

def placeReady (known : List Text) (placed : List (Text × Nat)) : List Service → List (Text × Nat)
  | [] => placed
  | service :: rest =>
    let isPlaced (name : Text) : Prop := name ∈ placed.map Prod.fst
    if isPlaced service.name then placeReady known placed rest
    else if service.dependsOn.all fun (dep, _) => dep ∉ known ∨ dep = service.name ∨ isPlaced dep then
      placeReady known (placed ++ [(service.name, placed.length)]) rest
    else placeReady known placed rest

def placeRest (placed : List (Text × Nat)) : List Service → List (Text × Nat)
  | [] => placed
  | service :: rest =>
    if service.name ∈ placed.map Prod.fst then placeRest placed rest
    else placeRest (placed ++ [(service.name, placed.length)]) rest

/-- Each round of the loop places a service, so as many rounds as services are enough. -/
def ordinalRounds (services : List Service) : Nat → List (Text × Nat) → List (Text × Nat)
  | 0, placed => placed
  | rounds + 1, placed =>
    if services.length ≤ placed.length then placed
    else
      let swept := placeReady (services.map Service.name) placed services
      ordinalRounds services rounds (if swept.length = placed.length then placeRest placed services else swept)

def serviceOrdinals (services : List Service) : List (Text × Nat) := ordinalRounds services services.length []

def ordinalOf (ordinals : List (Text × Nat)) (service : Text) : Nat := (ordinals.lookup service).getD 0

/-- What `UPDATE plugin_services` sets. -/
def refreshService (ordinals : List (Text × Nat)) (service : Service) (row : ServiceRow) : ServiceRow :=
  { row with
    artifactType := service.artifact.type
    imageRef := imageRefOf service
    distroSummary := distroSummary service
    dependsOn := service.dependsOn
    health := service.health
    ordinal := ordinalOf ordinals service.name }

def serviceRow (ordinals : List (Text × Nat)) (service : Service) : ServiceRow :=
  refreshService ordinals service ⟨service.name, service.artifact.type, [], [], [], none, 0, []⟩

def portRows (service : Service) : List PortRow :=
  service.ports.map fun port => ⟨service.name, port.name, port.port, port.protocol, port.expose, port.hostExpose⟩

def configRows (value : Text → ConfigField → Text) (service : Service) : List ConfigRow :=
  service.config.map fun field => ⟨service.name, field.key, value service.name field⟩

def containerRefRows (service : Service) : List ContainerRefRow :=
  service.effectiveContainerRefs.map fun ref =>
    let imageRef := digestPinnedImageRef ref.image ref.digest
    ⟨service.name, ref.name, imageRef, ref.digest, imageRef⟩

def PluginTables.hasService (tables : PluginTables) (service : Text) : Prop :=
  service ∈ tables.services.map ServiceRow.service

instance (tables : PluginTables) : DecidablePred tables.hasService := fun _ => inferInstanceAs (Decidable (_ ∈ _))

def insertDetails (value : Text → ConfigField → Text) (tables : PluginTables) (service : Service) :
    Except StoreError PluginTables := do
  let ports ← (insertRows PortRow.port (fun row => tables.hasService row.service) tables.ports
    (portRows service)).mapError fun (row, violation) => .constraint "plugin_ports" row.port violation
  let config ← (insertRows ConfigRow.field (fun row => tables.hasService row.service) tables.config
    (configRows value service)).mapError fun (row, violation) => .constraint "plugin_config" row.field violation
  let containerRefs ← (insertRows ContainerRefRow.ref (fun row => tables.hasService row.service) tables.containerRefs
    (containerRefRows service)).mapError fun (row, violation) =>
      .constraint "plugin_container_refs" row.ref violation
  return { tables with ports := ports, config := config, containerRefs := containerRefs }

structure InsertParams where
  manifest : Manifest
  paths : Text → Text → Option (List (Nat × Text))
  tiers : Text → Text → Text
  config : List (Text × Text)

def insertVolume (params : InsertParams) (count : Nat) (service : Text) (rows : List VolumeRow) (volume : Volume) :
    Except StoreError (List VolumeRow) := do
  ensure ((service, volume.name) ∉ rows.map VolumeRow.volume)
    (.constraint "plugin_volumes" (service, volume.name) .unique)
  let paths ← require (params.paths service volume.name)
    (.message ("plugin.Insert: missing host paths for volume " ++ quoted volume.name ++ " in service " ++
      quoted service))
  let expected := if volume.perInstance then count else 1
  ensure (paths.length = expected)
    (.message ("plugin.Insert: volume " ++ quoted service ++ "/" ++ quoted volume.name ++ " expected " ++
      toString expected ++ " path(s), got " ++ toString paths.length))
  let resolved := params.tiers service volume.name
  return rows ++ [{
    service := service
    name := volume.name
    mode := volume.mode
    slot := if volume.mode = .tierBound then volume.slot else []
    tierPool := if volume.mode = .tierBound then (if resolved = [] then "<unresolved>" else resolved) else []
    perInstance := volume.perInstance
    bindPath := volume.bind
    paths := paths }]

def installValue (params : InsertParams) (_service : Text) (field : ConfigField) : Text :=
  (params.config.lookup field.key).getD field.default

def insertService (params : InsertParams) (ordinals : List (Text × Nat)) (tables : PluginTables) (service : Service) :
    Except StoreError PluginTables := do
  let count := params.manifest.effectiveCount
  let services ← (insertRow ServiceRow.service (fun _ => True) tables.services
    (serviceRow ordinals service)).mapError (.constraint "plugin_services" (service.name, []))
  let instances := (List.range count).map fun n => ⟨service.name, n + 1, [], .installed⟩
  let volumes ← service.volumes.foldlM (insertVolume params count service.name) tables.volumes
  insertDetails (installValue params)
    { tables with
      services := services
      instances := tables.instances ++ instances
      volumes := volumes }
    service

/-- The row of `plugins` mirrors the first service. -/
def pluginRow (manifest : Manifest) (yaml : Text) (primary : Service) (count : Nat) : PluginRow where
  version := manifest.version
  state := .installed
  manifest := yaml
  artifactType := primary.artifact.type
  imageRef := imageRefOf primary
  distroSummary := distroSummary primary
  instanceCount := count
  instanceConfigurable := manifest.configurable

/-- `Insert` of a plugin that is not there yet. -/
def insert (params : InsertParams) : Except StoreError PluginTables := do
  let manifest := params.manifest
  let primary ← require manifest.services.head? (.message "plugin.Insert: manifest has no services")
  let placeholder := "# parsed manifest for " ++ manifest.name ++ '@' :: manifest.version ++ ['\n']
  manifest.services.foldlM (insertService params (serviceOrdinals manifest.services))
    ⟨pluginRow manifest placeholder primary manifest.effectiveCount, [], [], [], [], [], [], none⟩

def volumeShape (row : VolumeRow) : VolumeMode × Text × Bool × Text :=
  (row.mode, row.slot, row.perInstance, row.bindPath)

def checkVolume (installed : List VolumeRow) (service : Text) (volume : Volume) : Except StoreError Unit := do
  let place := "volume " ++ quoted service ++ "/" ++ quoted volume.name
  let got ← require (installed.find? fun row => row.volume = (service, volume.name))
    (.requiresReinstall (place ++ " is new"))
  ensure (volumeShape got = (volume.mode, volume.slot, volume.perInstance, volume.bind))
    (.requiresReinstall (place ++ " changed shape"))

def volumesOf (manifest : Manifest) : List (Text × Volume) :=
  manifest.services.flatMap fun service => service.volumes.map fun volume => (service.name, volume)

def compatibleVolumeSchema (installed : List VolumeRow) (manifest : Manifest) : Except StoreError Unit := do
  checkAll (fun (service, volume) => checkVolume installed service volume) (volumesOf manifest)
  ensure ((volumesOf manifest).length = installed.length) (.requiresReinstall "volume changes")

def keptValue (config : List ConfigRow) (service : Text) (field : ConfigField) : Text :=
  ((config.find? fun row => row.field = (service, field.key)).map ConfigRow.value).getD field.default

/-- The services as an update leaves them. -/
def refreshedServices (services : List ServiceRow) (manifest : Manifest) : List ServiceRow :=
  manifest.services.foldl
    (fun rows service => changeRow ServiceRow.service service.name
      (refreshService (serviceOrdinals manifest.services) service) rows) services

def updateManifest (name : Text) (tables : PluginTables) (manifest : Manifest) (yaml : Text) :
    Except StoreError PluginTables := do
  ensure (yaml ≠ []) (.message "plugin.UpdateManifest: empty yaml")
  ensure (manifest.name = name)
    (.message ("plugin.UpdateManifest: manifest name " ++ quoted manifest.name ++ " does not match installed plugin " ++
      quoted name))
  compatibleVolumeSchema tables.volumes manifest
  let count := tables.plugin.instanceCount
  ensure (manifest.configurable = true ∨ manifest.effectiveCount = count)
    (.requiresReinstall ("instance count change (installed " ++ toString count ++ ", manifest " ++
      toString manifest.effectiveCount ++ ")"))
  let primary ← require manifest.services.head? .panic
  manifest.services.foldlM (insertDetails (keptValue tables.config))
    { tables with
      plugin := { pluginRow manifest yaml primary count with state := tables.plugin.state }
      services := refreshedServices tables.services manifest
      ports := []
      config := []
      containerRefs := [] }

end Tierd.Plugin.Store
