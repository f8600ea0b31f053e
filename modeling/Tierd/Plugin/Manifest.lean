import Tierd.Data.Text

namespace Tierd.Plugin

open Tierd.Data List

/-- `mode` of a volume; anything but the two known words is refused. -/
inductive VolumeMode where
  | tierBound
  | flat
  | other (text : Text)
deriving DecidableEq, Repr

structure Volume where
  name : Text
  mode : VolumeMode
  slot : Text
  bind : Text
  perInstance : Bool
deriving DecidableEq, Repr

inductive Protocol where
  | tcp
  | udp
  | other (text : Text)
deriving DecidableEq, Repr

structure Port where
  name : Text
  port : Int
  protocol : Protocol
  expose : Bool
  hostExpose : Bool
deriving DecidableEq, Repr

/-- `type` of a config field; the empty text is taken for a string. -/
inductive ConfigType where
  | string | number | select | boolean | gpu
  | other (text : Text)
deriving DecidableEq, Repr

structure ConfigField where
  key : Text
  type : ConfigType
  default : Text
  gpuVendor : Text
  options : List Text
deriving DecidableEq, Repr

structure ContainerRef where
  name : Text
  image : Text
  digest : Text
deriving DecidableEq, Repr

inductive ArtifactType where
  | ociImage
  | lxcDistro
  | other (text : Text)
deriving DecidableEq, Repr

structure Artifact where
  type : ArtifactType
  image : Text
  digest : Text
  distro : Text
  release : Text
  arch : Text
  packages : List Text
  setup : List Text
deriving DecidableEq, Repr

structure Container where
  command : List Text
  restartPolicy : Text
  memory : Text
  cpu : Text
deriving DecidableEq, Repr

structure Healthcheck where
  test : List Text
  interval : Text
  timeout : Text
  retries : Int
  startPeriod : Text
deriving DecidableEq, Repr

/-- `dependsOn` is a map from a sibling to the condition of its start. -/
structure Service where
  name : Text
  artifact : Artifact
  containerRefs : List ContainerRef
  container : Container
  volumes : List Volume
  ports : List Port
  config : List ConfigField
  dependsOn : List (Text × Text)
  health : Option Healthcheck
deriving DecidableEq, Repr

/-- `legacyArtifact` and the fields after it are the single-image form of older manifests, here
as the service they stand for. -/
structure Manifest where
  apiVersion : Text
  kind : Text
  name : Text
  version : Text
  count : Int
  configurable : Bool
  uiAuth : Option Text
  services : List Service
  legacy : Option Service
  isCompose : Bool
deriving DecidableEq, Repr

def Manifest.effectiveCount (manifest : Manifest) : Nat := if manifest.count ≤ 0 then 1 else manifest.count.toNat

/-- The image of the artifact is the implicit ref `primary`. -/
def Service.effectiveContainerRefs (service : Service) : List ContainerRef :=
  (if service.artifact.type = .ociImage then [⟨"primary", service.artifact.image, service.artifact.digest⟩]
    else []) ++ service.containerRefs

def isLower (c : Char) : Bool := 'a' ≤ c && c ≤ 'z'

def isLabelChar (c : Char) : Bool := isLower c || c.isDigit || c = '-'

/-- `^[a-z]([-a-z0-9]{0,38}[a-z0-9])?$`. -/
def matchesName (text : Text) : Bool :=
  text.head?.any isLower && text.all isLabelChar && text.getLast? ≠ some '-' && text.length ≤ 40

/-- `^[a-z][a-z0-9-]{0,30}$`. -/
def matchesVolumeName (text : Text) : Bool :=
  text.head?.any isLower && text.all isLabelChar && text.length ≤ 31

def isUpper (c : Char) : Bool := 'A' ≤ c && c ≤ 'Z'

/-- `^[A-Z][A-Z0-9_]{0,63}$`. -/
def matchesConfigKey (text : Text) : Bool :=
  text.head?.any isUpper && text.all (fun c => isUpper c || c.isDigit || c = '_') && text.length ≤ 64

def isHexDigit (c : Char) : Bool := c.isDigit || ('a' ≤ c && c ≤ 'f')

/-- `^sha256:[a-f0-9]{64}$`. -/
def matchesHexDigest (text : Text) : Bool :=
  text.startsWith "sha256:" && (text.drop 7).all isHexDigit && text.length = 71

/-- `^[a-z0-9._-]+$`. -/
def matchesDistroToken (text : Text) : Bool :=
  text ≠ [] && text.all fun c => isLower c || c.isDigit || c = '.' || c = '_' || c = '-'

/-- `^[0-9]+\.[0-9]+\.[0-9]+([-+][0-9A-Za-z.-]+)?$`. -/
def matchesSemver (text : Text) : Bool :=
  let major := text.takeWhile Char.isDigit
  let second := (text.dropWhile Char.isDigit).drop 1
  let minor := second.takeWhile Char.isDigit
  let third := (second.dropWhile Char.isDigit).drop 1
  let patch := third.takeWhile Char.isDigit
  let rest := third.dropWhile Char.isDigit
  major ≠ [] && (text.dropWhile Char.isDigit).head? = some '.' && minor ≠ [] &&
    (second.dropWhile Char.isDigit).head? = some '.' && patch ≠ [] &&
    (rest = [] || ((rest.head? = some '-' || rest.head? = some '+') && rest.length ≠ 1 &&
      (rest.drop 1).all fun c => c.isAlphanum || c = '.' || c = '-'))

structure Issue where
  field : String
  message : String
deriving DecidableEq, Repr

/-- `v.add(field, message)` unless the condition holds. -/
def expect (condition : Prop) [Decidable condition] (field message : String) : List Issue :=
  if condition then [] else [⟨field, message⟩]

@[simp] theorem expect_eq_nil {condition : Prop} [Decidable condition] {field message : String} :
    expect condition field message = [] ↔ condition := by
  by_cases holds : condition <;> simp [expect, holds]

def quoted (text : Text) : String := (String.ofList text).quote

def checkItems {α : Type} (name : α → Text) (before after : Nat → α → List Issue) (repeated : Nat → α → Issue) :
    Nat → List Text → List α → List Issue
  | _, _, [] => []
  | index, seen, item :: rest =>
    before index item ++ (if name item ∈ seen then [repeated index item] else []) ++ after index item ++
      checkItems name before after repeated (index + 1) (name item :: seen) rest

theorem checkItems_eq_nil {α : Type} {name : α → Text} {before after : Nat → α → List Issue}
    {repeated : Nat → α → Issue} {index : Nat} {seen : List Text} {items : List α}
    (passed : checkItems name before after repeated index seen items = []) :
    (∀ item ∈ items, ∃ i, before i item = [] ∧ after i item = []) ∧ (items.map name).Nodup ∧
      ∀ item ∈ items, name item ∉ seen := by
  induction items generalizing index seen with
  | nil => simp
  | cons item rest ih =>
    simp only [checkItems, append_eq_nil_iff] at passed
    obtain ⟨⟨⟨first, fresh⟩, last⟩, others⟩ := passed
    obtain ⟨checked, distinct, unseen⟩ := ih others
    have new : name item ∉ seen := by
      intro old
      simp [old] at fresh
    refine ⟨?_, ?_, ?_⟩
    · intro other member
      rcases mem_cons.mp member with rfl | later
      · exact ⟨index, first, last⟩
      · exact checked other later
    · refine nodup_cons.mpr ⟨fun repeats => ?_, distinct⟩
      obtain ⟨other, member, same⟩ := mem_map.mp repeats
      exact unseen other member (same ▸ mem_cons_self)
    · intro other member
      rcases mem_cons.mp member with rfl | later
      · exact new
      · exact fun old => unseen other later (mem_cons_of_mem _ old)

def namePattern : String := "^[a-z]([-a-z0-9]\x7b0,38\x7d[a-z0-9])?$"
def volumeNamePattern : String := "^[a-z][a-z0-9-]\x7b0,30\x7d$"
def configKeyPattern : String := "^[A-Z][A-Z0-9_]\x7b0,63\x7d$"
def hexDigestPattern : String := "^sha256:[a-f0-9]\x7b64\x7d$"
def distroTokenPattern : String := "^[a-z0-9._-]+$"

def validateMetadata (manifest : Manifest) : List Issue :=
  expect (matchesName manifest.name) "metadata.name" ("must match " ++ namePattern ++ " (DNS-1123 label, ≤40 chars)") ++
    expect (matchesSemver manifest.version) "metadata.version"
      ("must be semver MAJOR.MINOR.PATCH (got " ++ quoted manifest.version ++ ")")

def validateInstances (manifest : Manifest) : List Issue :=
  let volumes := manifest.services.flatMap Service.volumes
  if manifest.count = 0 then []
  else
    expect (1 ≤ manifest.count) "instances.count" ("must be ≥ 1 (got " ++ toString manifest.count ++ ")") ++
      expect (manifest.count ≤ 1 ∨ volumes.any Volume.perInstance ∨ volumes = []) "instances"
        ("count > 1 with no perInstance volumes — all replicas will share state (set perInstance: true on at least " ++
          "one volume, or ignore this if shared state is intended)")

def validateUI (manifest : Manifest) : List Issue :=
  match manifest.uiAuth with
  | none => []
  | some auth =>
    expect (auth ∈ [[], "none", "bearer-injected"]) "ui.embed.auth"
      ("must be \"none\" or \"bearer-injected\" (got " ++ quoted auth ++ ")")

def ArtifactType.text : ArtifactType → Text
  | .ociImage => "oci-image"
  | .lxcDistro => "lxc-distro"
  | .other text => text

def validateArtifact (lead : String) (artifact : Artifact) : List Issue :=
  match artifact.type with
  | .ociImage =>
    expect (artifact.image ≠ []) (lead ++ ".artifact.image") "is required for type \"oci-image\"" ++
      expect (artifact.digest = [] ∨ matchesHexDigest artifact.digest) (lead ++ ".artifact.digest")
        ("must match " ++ hexDigestPattern ++ " when present") ++
      expect (artifact.distro = [] ∧ artifact.release = [] ∧ artifact.packages = [] ∧ artifact.setup = [])
        (lead ++ ".artifact")
        "lxc-distro fields (distro/release/packages/setup) must be empty when type is \"oci-image\""
  | .lxcDistro =>
    expect (matchesDistroToken artifact.distro) (lead ++ ".artifact.distro")
        ("is required and must match " ++ distroTokenPattern) ++
      expect (matchesDistroToken artifact.release) (lead ++ ".artifact.release")
        ("is required and must match " ++ distroTokenPattern) ++
      expect (artifact.arch ∈ [[], "amd64", "arm64", "armhf", "i386"])
        (lead ++ ".artifact.arch") ("must be one of amd64/arm64/armhf/i386 (got " ++ quoted artifact.arch ++ ")") ++
      expect (artifact.image = [] ∧ artifact.digest = []) (lead ++ ".artifact")
        "oci-image fields (image/digest) must be empty when type is \"lxc-distro\""
  | .other [] => [⟨lead ++ ".artifact.type", "is required (must be \"oci-image\" or \"lxc-distro\")"⟩]
  | .other text =>
    [⟨lead ++ ".artifact.type", "must be \"oci-image\" or \"lxc-distro\" (got " ++ quoted text ++ ")"⟩]

def validateContainerRefs (lead : String) (refs : List ContainerRef) : List Issue :=
  let field (index : Nat) := lead ++ ".containerRefs[" ++ toString index ++ "]"
  checkItems ContainerRef.name
    (fun index ref =>
      expect (matchesVolumeName ref.name) (field index ++ ".name") ("must match " ++ volumeNamePattern) ++
        expect (ref.name ≠ "primary") (field index ++ ".name") "\"primary\" is reserved for artifact.image")
    (fun index ref =>
      expect (ref.image ≠ []) (field index ++ ".image") "is required" ++
        expect (ref.digest = [] ∨ matchesHexDigest ref.digest) (field index ++ ".digest")
          ("must match " ++ hexDigestPattern ++ " when present"))
    (fun index ref => ⟨field index ++ ".name", "duplicate ref name " ++ quoted ref.name⟩)
    0 ["primary"] refs

def configReference (value : Text) : Option Text :=
  let trimmed := value.trimSpace
  let key := (trimmed.drop 2).dropLast
  if trimmed.take 2 = ['$', '\x7b'] ∧ trimmed.getLast? = some '\x7d' ∧ matchesConfigKey key then some key else none

/-- How `parseByteSize` and `parseCPUCount` refuse a literal. -/
structure ResourceSyntax where
  byteSizeError : Text → Option String
  cpuCountError : Text → Option String

def validateConfigurableResource (field : String) (value : Text) (config : List ConfigField)
    (refuses : Text → Option String) : List Issue :=
  if value = [] then []
  else
    match configReference value with
    | some key => expect (key ∈ config.map ConfigField.key) field ("references unknown config key " ++ quoted key)
    | none => ((refuses value).map fun reason => ⟨field, reason⟩).toList

def validateContainer (resources : ResourceSyntax) (lead : String) (service : Service) : List Issue :=
  expect (service.container.restartPolicy ∈ [[], "unless-stopped", "on-failure", "no"])
      (lead ++ ".container.restartPolicy")
      ("must be one of \"unless-stopped\"/\"on-failure\"/\"no\" (got " ++
        quoted service.container.restartPolicy ++ ")") ++
    expect (service.artifact.type ≠ .lxcDistro ∨ service.container.command ≠ []) (lead ++ ".container.command")
      "is required when artifact.type is \"lxc-distro\"" ++
    validateConfigurableResource (lead ++ ".container.resources.memory") service.container.memory service.config
      resources.byteSizeError ++
    validateConfigurableResource (lead ++ ".container.resources.cpu") service.container.cpu service.config
      resources.cpuCountError

def validateVolumes (lead : String) (volumes : List Volume) : List Issue :=
  let field (index : Nat) := lead ++ ".volumes[" ++ toString index ++ "]"
  checkItems Volume.name
    (fun index volume =>
      expect (matchesVolumeName volume.name) (field index ++ ".name") ("must match " ++ volumeNamePattern))
    (fun index volume =>
      (match volume.mode with
        | .tierBound | .flat => []
        | .other [] => [⟨field index ++ ".mode", "is required (\"tier-bound\" or \"flat\")"⟩]
        | .other text =>
          [⟨field index ++ ".mode", "must be \"tier-bound\" or \"flat\" (got " ++ quoted text ++ ")"⟩]) ++
        expect (volume.bind.head? = some '/') (field index ++ ".bind")
          ("must be an absolute path (got " ++ quoted volume.bind ++ ")"))
    (fun index volume => ⟨field index ++ ".name", "duplicate volume name " ++ quoted volume.name⟩)
    0 [] volumes

def validatePorts (lead : String) (ports : List Port) : List Issue :=
  let field (index : Nat) := lead ++ ".ports[" ++ toString index ++ "]"
  checkItems Port.name
    (fun index port => expect (port.name ≠ []) (field index ++ ".name") "is required")
    (fun index port =>
      expect (1 ≤ port.port ∧ port.port ≤ 65535) (field index ++ ".port")
          ("must be 1..65535 (got " ++ toString port.port ++ ")") ++
        match port.protocol with
        | .tcp | .udp => []
        | .other text =>
          [⟨field index ++ ".protocol", "must be \"tcp\" or \"udp\" (got " ++ quoted text ++ ")"⟩])
    (fun index port => ⟨field index ++ ".name", "duplicate port name " ++ quoted port.name⟩)
    0 [] ports

def validateConfig (lead : String) (fields : List ConfigField) : List Issue :=
  let field (index : Nat) := lead ++ ".config[" ++ toString index ++ "]"
  checkItems ConfigField.key
    (fun index item =>
      expect (matchesConfigKey item.key) (field index ++ ".key") ("must match " ++ configKeyPattern))
    (fun index item =>
      (match item.type with
        | .other (c :: text) =>
          [⟨field index ++ ".type",
            "must be string, number, select, boolean, or gpu (got " ++ quoted (c :: text) ++ ")"⟩]
        | _ => []) ++
        expect (item.type ≠ .select ∨ item.options ≠ []) (field index ++ ".options")
          "is required when type is select" ++
        (if item.type = .gpu then
          expect (item.gpuVendor ∈ [[], "nvidia", "amd", "intel"]) (field index ++ ".gpuVendor")
            ("must be nvidia, amd, or intel when type is gpu (got " ++ quoted item.gpuVendor ++ ")")
        else expect (item.gpuVendor = []) (field index ++ ".gpuVendor") "is only valid when type is gpu") ++
        item.options.zipIdx.flatMap fun (option, position) =>
          expect (option ≠ []) (field index ++ ".options[" ++ toString position ++ "].value") "is required")
    (fun index item => ⟨field index ++ ".key", "duplicate key " ++ quoted item.key⟩)
    0 [] fields

def findService (services : List Service) (name : Text) : Option Service := services.find? (·.name = name)

def validateDependsOn (lead : String) (service : Service) (services : List Service) : List Issue :=
  service.dependsOn.flatMap fun (dep, condition) =>
    let field := lead ++ ".dependsOn." ++ String.ofList dep
    (if dep = service.name then [⟨field, "service " ++ quoted service.name ++ " cannot depend on itself"⟩]
      else expect (dep ∈ services.map Service.name) field ("references unknown service " ++ quoted dep)) ++
      (if condition = "service_started" then []
      else if condition = "service_healthy" then
        expect ((findService services dep).all fun target => target.health.isSome) field
          ("condition \"service_healthy\" requires service " ++ quoted dep ++ " to declare a health block")
      else if condition = [] then
        [⟨field, "condition is required (\"service_started\" or \"service_healthy\")"⟩]
      else
        [⟨field,
          "condition must be \"service_started\" or \"service_healthy\" (got " ++ quoted condition ++ ")"⟩])

/-- The services a service waits for, sorted; unknown ones are reported elsewhere. Of several
services of one name the last counts. -/
def dependencies (services : List Service) (name : Text) : List Text :=
  match services.reverse.find? fun service => service.name = name with
  | none => []
  | some service =>
    ((service.dependsOn.map Prod.fst).filter fun dep => dep ∈ services.map Service.name ∧ dep ≠ name).insertionSort
      (· ≤ ·)

/-- The depth-first search of `dependsCycle`: the services on the path are gray, the finished ones
black, and an edge back to the path closes a cycle.  Each level of the recursion adds a service to
the path, so the number of services is enough. -/
def visit (graph : Text → List Text) : Nat → List Text → List Text → Text → Except (List Text) (List Text)
  | 0, _, black, _ => .ok black
  | depth + 1, path, black, name => do
      let path := path ++ [name]
      let explore (black : List Text) (dep : Text) : Except (List Text) (List Text) :=
        if dep ∈ path then .error (path.dropWhile (· ≠ dep) ++ [dep])
        else if dep ∈ black then .ok black
        else visit graph depth path black dep
      let black ← (graph name).foldlM explore black
      return name :: black

def dependsCycle (services : List Service) : Option (List Text) :=
  let search (black : List Text) (service : Service) : Except (List Text) (List Text) :=
    if service.name ∈ black then .ok black
    else visit (dependencies services) (services.length + 1) [] black service.name
  match services.foldlM search [] with
  | .ok _ => none
  | .error cycle => some cycle

def hostPortIssues (lead : String) (owner : Text) : List (Int × Text) → List Port → List Issue
  | _, [] => []
  | taken, port :: rest =>
    if port.hostExpose then
      match taken.lookup port.port with
      | some other =>
        ⟨lead ++ ".ports",
          "host-published port " ++ toString port.port ++ " already published by service " ++ quoted other⟩ ::
          hostPortIssues lead owner taken rest
      | none => hostPortIssues lead owner (taken ++ [(port.port, owner)]) rest
    else hostPortIssues lead owner taken rest

def publishedPorts (services : List Service) : List (Int × Text) :=
  services.flatMap fun service => (service.ports.filter Port.hostExpose).map fun port => (port.port, service.name)

def validateServices (resources : ResourceSyntax) (services : List Service) : List Issue :=
  let lead (index : Nat) := "services[" ++ toString index ++ "]"
  if services = [] then [⟨"services", "at least one service is required"⟩]
  else
    checkItems Service.name
        (fun index service =>
          expect (matchesName service.name) (lead index ++ ".name")
            ("must match " ++ namePattern ++ " (DNS-1123 label, ≤40 chars)"))
        (fun index service =>
          validateArtifact (lead index) service.artifact ++
            validateContainerRefs (lead index) service.containerRefs ++
            validateContainer resources (lead index) service ++
            validateVolumes (lead index) service.volumes ++
            validatePorts (lead index) service.ports ++
            validateConfig (lead index) service.config ++
            hostPortIssues (lead index) service.name (publishedPorts (services.take index)) service.ports ++
            validateDependsOn (lead index) service services)
        (fun index service => ⟨lead index ++ ".name", "duplicate service name " ++ quoted service.name⟩)
        0 [] services ++
      match dependsCycle services with
      | none => []
      | some cycle =>
        [⟨"services", "dependsOn graph has a cycle: " ++ String.intercalate " -> " (cycle.map String.ofList)⟩]

def validateManifest (resources : ResourceSyntax) (manifest : Manifest) : List Issue :=
  if manifest.isCompose then
    expect (matchesName manifest.name) "name" ("must match " ++ namePattern ++ " (DNS-1123 label, ≤40 chars)")
  else
    expect (manifest.apiVersion = "smoothnas.io/v1") "apiVersion"
        ("must be \"smoothnas.io/v1\" (got " ++ quoted manifest.apiVersion ++ ")") ++
      expect (manifest.kind = "Plugin") "kind" ("must be \"Plugin\" (got " ++ quoted manifest.kind ++ ")") ++
      expect (manifest.legacy = none ∨ manifest.services = []) "services"
        "set either the top-level artifact (legacy) or services, not both" ++
      validateMetadata manifest ++ validateInstances manifest ++ validateUI manifest ++
      validateServices resources manifest.services

structure Service.Valid (service : Service) : Prop where
  name : matchesName service.name = true
  volumeNames : ∀ volume ∈ service.volumes, matchesVolumeName volume.name = true
  volumeModes : ∀ volume ∈ service.volumes, volume.mode = .tierBound ∨ volume.mode = .flat
  volumesOnce : (service.volumes.map Volume.name).Nodup
  portsOnce : (service.ports.map Port.name).Nodup
  keysOnce : (service.config.map ConfigField.key).Nodup
  refsOnce : (service.effectiveContainerRefs.map ContainerRef.name).Nodup

structure Manifest.Valid (manifest : Manifest) : Prop where
  native : manifest.isCompose = false
  name : matchesName manifest.name = true
  nonempty : manifest.services ≠ []
  servicesOnce : (manifest.services.map Service.name).Nodup
  services : ∀ service ∈ manifest.services, service.Valid

theorem validateVolumes_eq_nil {lead : String} {volumes : List Volume} (passed : validateVolumes lead volumes = []) :
    (∀ volume ∈ volumes, matchesVolumeName volume.name = true ∧ (volume.mode = .tierBound ∨ volume.mode = .flat)) ∧
      (volumes.map Volume.name).Nodup := by
  obtain ⟨checked, distinct, -⟩ := checkItems_eq_nil passed
  refine ⟨fun volume member => ?_, distinct⟩
  obtain ⟨index, named, rest⟩ := checked volume member
  refine ⟨by simpa using named, ?_⟩
  obtain ⟨known, -⟩ := append_eq_nil_iff.mp rest
  cases mode : volume.mode with
  | tierBound => exact .inl rfl
  | flat => exact .inr rfl
  | other text => cases text <;> simp [mode] at known

theorem validateContainerRefs_eq_nil {lead : String} {service : Service}
    (passed : validateContainerRefs lead service.containerRefs = []) :
    (service.effectiveContainerRefs.map ContainerRef.name).Nodup := by
  obtain ⟨-, distinct, unseen⟩ := checkItems_eq_nil passed
  simp only [Service.effectiveContainerRefs, map_append]
  split
  · refine nodup_cons.mpr ⟨fun repeats => ?_, distinct⟩
    obtain ⟨ref, member, same⟩ := mem_map.mp repeats
    exact unseen ref member (same ▸ mem_singleton_self _)
  · exact distinct

theorem valid_of_validateServices {resources : ResourceSyntax} {services : List Service}
    (passed : validateServices resources services = []) :
    services ≠ [] ∧ (services.map Service.name).Nodup ∧ ∀ service ∈ services, service.Valid := by
  by_cases empty : services = []
  · simp [validateServices, empty] at passed
  simp only [validateServices, if_neg empty, append_eq_nil_iff] at passed
  obtain ⟨checked, distinct, -⟩ := checkItems_eq_nil passed.1
  refine ⟨empty, distinct, fun service member => ?_⟩
  obtain ⟨index, named, rest⟩ := checked service member
  simp only [append_eq_nil_iff] at rest
  obtain ⟨⟨⟨⟨⟨⟨⟨-, refs⟩, -⟩, volumes⟩, ports⟩, config⟩, -⟩, -⟩ := rest
  obtain ⟨volumesChecked, volumesOnce⟩ := validateVolumes_eq_nil volumes
  exact
    { name := by simpa using named
      volumeNames := fun volume listed => (volumesChecked volume listed).1
      volumeModes := fun volume listed => (volumesChecked volume listed).2
      volumesOnce := volumesOnce
      portsOnce := (checkItems_eq_nil ports).2.1
      keysOnce := (checkItems_eq_nil config).2.1
      refsOnce := validateContainerRefs_eq_nil refs }

theorem Manifest.valid_of_validateManifest {resources : ResourceSyntax} {manifest : Manifest}
    (passed : validateManifest resources manifest = []) (native : manifest.isCompose = false) : manifest.Valid := by
  simp only [validateManifest, native, Bool.false_eq_true, if_false, append_eq_nil_iff] at passed
  obtain ⟨⟨⟨⟨-, metadata⟩, -⟩, -⟩, services⟩ := passed
  obtain ⟨nonempty, servicesOnce, valid⟩ := valid_of_validateServices services
  refine ⟨native, ?_, nonempty, servicesOnce, valid⟩
  simpa using (append_eq_nil_iff.mp metadata).1

end Tierd.Plugin
