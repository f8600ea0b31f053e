import Tierd.Plugin.Tables
import Tierd.Plugin.ContainerNames

namespace Tierd.Plugin.Store

open Tierd.Data List

/-- A service with rows besides its own. -/
def HasDetails (service : Service) : Prop :=
  service.ports ≠ [] ∨ service.config ≠ [] ∨ service.effectiveContainerRefs ≠ []

instance : DecidablePred HasDetails := fun _ => inferInstanceAs (Decidable (_ ∨ _))

/-- No row of the service besides its own. -/
def PluginTables.Bare (tables : PluginTables) (service : Text) : Prop :=
  (∀ row ∈ tables.ports, row.service ≠ service) ∧ (∀ row ∈ tables.config, row.service ≠ service) ∧
    ∀ row ∈ tables.containerRefs, row.service ≠ service

section Details

variable {value : Text → ConfigField → Text} {tables after : PluginTables} {service : Service}

theorem service_of_mem_portRows {row : PortRow} (member : row ∈ portRows service) : row.service = service.name := by
  obtain ⟨_, _, rfl⟩ := mem_map.mp member
  rfl

theorem service_of_mem_configRows {row : ConfigRow} (member : row ∈ configRows value service) :
    row.service = service.name := by
  obtain ⟨_, _, rfl⟩ := mem_map.mp member
  rfl

theorem service_of_mem_containerRefRows {row : ContainerRefRow} (member : row ∈ containerRefRows service) :
    row.service = service.name := by
  obtain ⟨_, _, rfl⟩ := mem_map.mp member
  rfl

theorem nodup_labels {α : Type} {items : List α} {label : α → Text} (name : Text) (once : (items.map label).Nodup) :
    (items.map fun item => (name, label item)).Nodup := by
  have paired := once.map (Prod.mk_right_injective name)
  rwa [map_map] at paired

theorem insertDetails_adds (inserted : insertDetails value tables service = .ok after) :
    { tables with
      ports := tables.ports ++ portRows service
      config := tables.config ++ configRows value service
      containerRefs := tables.containerRefs ++ containerRefRows service } = after := by
  simp only [insertDetails, bind_eq_ok, mapError_eq_ok, insertRows_eq_ok, pure_eq_ok] at inserted
  obtain ⟨_, ⟨-, -, rfl⟩, _, ⟨-, -, rfl⟩, _, ⟨-, -, rfl⟩, rfl⟩ := inserted
  rfl

theorem insertDetails_eq_ok (valid : service.Valid) (bare : tables.Bare service.name) :
    insertDetails value tables service = .ok after ↔
      (HasDetails service → tables.hasService service.name) ∧
      { tables with
        ports := tables.ports ++ portRows service
        config := tables.config ++ configRows value service
        containerRefs := tables.containerRefs ++ containerRefRows service } = after := by
  obtain ⟨noPort, noConfig, noRef⟩ := bare
  have ports (grown : List PortRow) :
      insertRows PortRow.port (fun row => tables.hasService row.service) tables.ports (portRows service) = .ok grown ↔
        (portRows service ≠ [] → tables.hasService service.name) ∧ tables.ports ++ portRows service = grown := by
    refine insertRows_of_one_owner (fun row => service_of_mem_portRows) ?_ fun row member taken => ?_
    · rw [portRows, map_map]
      exact nodup_labels service.name valid.portsOnce
    · obtain ⟨old, oldMember, same⟩ := mem_map.mp taken
      exact noPort old oldMember ((Prod.mk.inj same).1.trans (service_of_mem_portRows member))
  have config (grown : List ConfigRow) :
      insertRows ConfigRow.field (fun row => tables.hasService row.service) tables.config (configRows value service) =
          .ok grown ↔
        (configRows value service ≠ [] → tables.hasService service.name) ∧
          tables.config ++ configRows value service = grown := by
    refine insertRows_of_one_owner (fun row => service_of_mem_configRows) ?_ fun row member taken => ?_
    · rw [configRows, map_map]
      exact nodup_labels service.name valid.keysOnce
    · obtain ⟨old, oldMember, same⟩ := mem_map.mp taken
      exact noConfig old oldMember ((Prod.mk.inj same).1.trans (service_of_mem_configRows member))
  have refs (grown : List ContainerRefRow) :
      insertRows ContainerRefRow.ref (fun row => tables.hasService row.service) tables.containerRefs
          (containerRefRows service) = .ok grown ↔
        (containerRefRows service ≠ [] → tables.hasService service.name) ∧
          tables.containerRefs ++ containerRefRows service = grown := by
    refine insertRows_of_one_owner (fun row => service_of_mem_containerRefRows) ?_ fun row member taken => ?_
    · rw [containerRefRows, map_map]
      exact nodup_labels service.name valid.refsOnce
    · obtain ⟨old, oldMember, same⟩ := mem_map.mp taken
      exact noRef old oldMember ((Prod.mk.inj same).1.trans (service_of_mem_containerRefRows member))
  simp only [insertDetails, bind_eq_ok, mapError_eq_ok, ports, config, refs, pure_eq_ok]
  constructor
  · rintro ⟨_, ⟨portsKnown, rfl⟩, _, ⟨configKnown, rfl⟩, _, ⟨refsKnown, rfl⟩, rfl⟩
    refine ⟨fun details => ?_, rfl⟩
    rcases details with some | some | some
    · exact portsKnown (by simpa [portRows] using some)
    · exact configKnown (by simpa [configRows] using some)
    · exact refsKnown (by simpa [containerRefRows] using some)
  · rintro ⟨known, rfl⟩
    refine ⟨_, ⟨fun some => known (Or.inl ?_), rfl⟩, _, ⟨fun some => known (Or.inr (Or.inl ?_)), rfl⟩, _,
      ⟨fun some => known (Or.inr (Or.inr ?_)), rfl⟩, rfl⟩
    · simpa [portRows] using some
    · simpa [configRows] using some
    · simpa [containerRefRows] using some

theorem insertAllDetails_eq_ok {services : List Service} (once : (services.map Service.name).Nodup)
    (valid : ∀ service ∈ services, service.Valid) (bare : ∀ service ∈ services, tables.Bare service.name) :
    services.foldlM (insertDetails value) tables = .ok after ↔
      (∀ service ∈ services, HasDetails service → tables.hasService service.name) ∧
      { tables with
        ports := tables.ports ++ services.flatMap portRows
        config := tables.config ++ services.flatMap (configRows value)
        containerRefs := tables.containerRefs ++ services.flatMap containerRefRows } = after := by
  induction services generalizing tables with
  | nil => simp [pure_eq_ok]
  | cons service rest ih =>
    obtain ⟨single, restOnce⟩ := nodup_cons.mp once
    obtain ⟨validHere, restValid⟩ := forall_mem_cons.mp valid
    obtain ⟨bareHere, restBare⟩ := forall_mem_cons.mp bare
    have stillBare : ∀ other ∈ rest, PluginTables.Bare
        { tables with
          ports := tables.ports ++ portRows service
          config := tables.config ++ configRows value service
          containerRefs := tables.containerRefs ++ containerRefRows service } other.name := by
      intro other member
      obtain ⟨noPort, noConfig, noRef⟩ := restBare other member
      have different : service.name ≠ other.name := fun same => single (mem_map.mpr ⟨other, member, same.symm⟩)
      refine ⟨fun row inRows => ?_, fun row inRows => ?_, fun row inRows => ?_⟩
      · rcases mem_append.mp inRows with old | new
        · exact noPort row old
        · exact service_of_mem_portRows new ▸ different
      · rcases mem_append.mp inRows with old | new
        · exact noConfig row old
        · exact service_of_mem_configRows new ▸ different
      · rcases mem_append.mp inRows with old | new
        · exact noRef row old
        · exact service_of_mem_containerRefRows new ▸ different
    simp only [foldlM_cons, bind_eq_ok, insertDetails_eq_ok validHere bareHere, forall_mem_cons,
      flatMap_cons]
    constructor
    · rintro ⟨_, ⟨known, rfl⟩, later⟩
      obtain ⟨restKnown, rfl⟩ := (ih restOnce restValid stillBare).mp later
      exact ⟨⟨known, restKnown⟩, by simp only [append_assoc]⟩
    · rintro ⟨⟨known, restKnown⟩, rfl⟩
      refine ⟨_, ⟨known, rfl⟩, (ih restOnce restValid stillBare).mpr ⟨restKnown, ?_⟩⟩
      simp only [append_assoc]

end Details

/-- The keys of the tables. -/
structure PluginTables.Sound (tables : PluginTables) : Prop where
  servicesOnce : (tables.services.map ServiceRow.service).Nodup
  volumesOnce : (tables.volumes.map VolumeRow.volume).Nodup
  configOnce : (tables.config.map ConfigRow.field).Nodup
  instancesKnown : ∀ row ∈ tables.instances, tables.hasService row.service
  volumesKnown : ∀ row ∈ tables.volumes, tables.hasService row.service

def PluginTables.HasInstances (tables : PluginTables) : Prop :=
  ∀ service n, (service, n) ∈ tables.instances.map InstanceRow.unit ↔
    tables.hasService service ∧ 1 ≤ n ∧ n ≤ tables.plugin.instanceCount

/-- The row without the operator's pin. -/
def ServiceRow.declared (row : ServiceRow) : ServiceRow := { row with pinnedImage := [] }

structure Exact (before : PluginTables) (manifest : Manifest) (after : PluginTables) : Prop where
  services : ∀ row, row ∈ after.services.map ServiceRow.declared ↔
    row ∈ manifest.services.map (serviceRow (serviceOrdinals manifest.services))
  instances : ∀ service n, (service, n) ∈ after.instances.map InstanceRow.unit ↔
    service ∈ manifest.services.map Service.name ∧ 1 ≤ n ∧ n ≤ after.plugin.instanceCount
  ports : ∀ row, row ∈ after.ports ↔ ∃ service ∈ manifest.services, row ∈ portRows service
  containerRefs : ∀ row, row ∈ after.containerRefs ↔ ∃ service ∈ manifest.services, row ∈ containerRefRows service
  configKeys : ∀ field, field ∈ after.config.map ConfigRow.field ↔
    ∃ service ∈ manifest.services, ∃ declared ∈ service.config, (service.name, declared.key) = field
  kept : ∀ row ∈ before.config, row.field ∈ after.config.map ConfigRow.field → row ∈ after.config
  removed : ∀ service ∉ manifest.services.map Service.name,
    service ∉ after.services.map ServiceRow.service ∧ service ∉ after.instances.map InstanceRow.service ∧
    service ∉ after.volumes.map VolumeRow.service ∧ service ∉ after.ports.map PortRow.service ∧
    service ∉ after.config.map ConfigRow.service ∧ service ∉ after.containerRefs.map ContainerRefRow.service

def committed (before : PluginTables) (result : Except StoreError PluginTables) : PluginTables :=
  match result with
  | .ok after => after
  | .error _ => before

def ExactOrRefused (before : PluginTables) (manifest : Manifest) (result : Except StoreError PluginTables) : Prop :=
  (∃ error, result = .error error ∧ error ≠ .panic ∧ committed before result = before) ∨
    ∃ after, result = .ok after ∧ committed before result = after ∧ Exact before manifest after

def Refused (tables : PluginTables) (manifest : Manifest) : Prop :=
  compatibleVolumeSchema tables.volumes manifest ≠ .ok () ∨
  (manifest.configurable = false ∧ manifest.effectiveCount ≠ tables.plugin.instanceCount) ∨
  ∃ service ∈ manifest.services, HasDetails service ∧ ¬ tables.hasService service.name

def SameServices (tables : PluginTables) (manifest : Manifest) : Prop :=
  manifest.services ≠ [] ∧ (∀ name, tables.hasService name ↔ name ∈ manifest.services.map Service.name) ∧
    tables.HasInstances

/-- The tables after a successful update. -/
def updated (tables : PluginTables) (manifest : Manifest) (yaml : Text) (primary : Service) : PluginTables :=
  { tables with
    plugin := { pluginRow manifest yaml primary tables.plugin.instanceCount with state := tables.plugin.state }
    services := tables.services.map fun row =>
      (manifest.services.find? fun service => service.name = row.service).elim row fun service =>
        refreshService (serviceOrdinals manifest.services) service row
    ports := manifest.services.flatMap portRows
    config := manifest.services.flatMap (configRows (keptValue tables.config))
    containerRefs := manifest.services.flatMap containerRefRows }

section Update

variable {name yaml : Text} {tables after : PluginTables} {manifest : Manifest}

variable {primary : Service}

theorem services_updated :
    (updated tables manifest yaml primary).services.map ServiceRow.service =
      tables.services.map ServiceRow.service := by
  simp only [updated, map_map]
  refine map_congr_left fun row _ => ?_
  simp only [Function.comp_apply]
  cases manifest.services.find? fun service => decide (service.name = row.service) <;> rfl

theorem updateManifest_eq_ok (once : (manifest.services.map Service.name).Nodup)
    (valid : ∀ service ∈ manifest.services, service.Valid) :
    updateManifest name tables manifest yaml = .ok after ↔
      yaml ≠ [] ∧ manifest.name = name ∧ ¬ Refused tables manifest ∧
        ∃ primary, manifest.services.head? = some primary ∧ updated tables manifest yaml primary = after := by
  have refreshed : refreshedServices tables.services manifest = tables.services.map fun row =>
      (manifest.services.find? fun service => service.name = row.service).elim row fun service =>
        refreshService (serviceOrdinals manifest.services) service row :=
    foldl_changeRow (fun _ _ => rfl) once
  have inserted (primary : Service) :
      manifest.services.foldlM (insertDetails (keptValue tables.config))
          { updated tables manifest yaml primary with ports := [], config := [], containerRefs := [] } = .ok after ↔
        (∀ service ∈ manifest.services, HasDetails service → tables.hasService service.name) ∧
          updated tables manifest yaml primary = after := by
    have bare : ∀ service ∈ manifest.services, PluginTables.Bare
        { updated tables manifest yaml primary with ports := [], config := [], containerRefs := [] } service.name :=
      fun _ _ => ⟨nofun, nofun, nofun⟩
    rw [insertAllDetails_eq_ok once valid bare]
    simp only [PluginTables.hasService, services_updated, nil_append]
    rfl
  simp only [updateManifest, bind_eq_ok, ensure_eq_ok, require_eq_ok, refreshed]
  constructor
  · rintro ⟨-, nonempty, -, named, ⟨⟩, compatible, -, sameCount, primary, first, rest⟩
    obtain ⟨known, rfl⟩ := (inserted primary).mp rest
    refine ⟨nonempty, named, ?_, primary, first, rfl⟩
    rintro (differs | ⟨fixed, differs⟩ | ⟨service, listed, details, unknown⟩)
    · exact differs compatible
    · rcases sameCount with configurable | same
      · simp [fixed] at configurable
      · exact differs same
    · exact unknown (known service listed details)
  · rintro ⟨nonempty, named, accepted, primary, first, rfl⟩
    obtain ⟨compatible, sameCount, known⟩ := not_or.mp accepted |>.imp_right not_or.mp
    refine ⟨(), nonempty, (), named, (), not_not.mp compatible, (), ?_, primary, first,
      (inserted primary).mpr ⟨?_, rfl⟩⟩
    · cases configurable : manifest.configurable with
      | true => exact Or.inl rfl
      | false => exact Or.inr (by simpa [configurable] using sameCount)
    · intro service listed details
      by_contra unknown
      exact known ⟨service, listed, details, unknown⟩

theorem compatibleVolumeSchema_ne_panic {installed : List VolumeRow} :
    compatibleVolumeSchema installed manifest ≠ .error .panic := by
  intro failed
  rcases bind_eq_error.mp failed with volumes | ⟨_, _, lengths⟩
  · obtain ⟨⟨service, volume⟩, -, refused⟩ := exists_item_of_checkAll_error volumes
    rcases bind_eq_error.mp refused with new | ⟨_, _, changed⟩
    · cases (require_eq_error.mp new).2
    · cases (ensure_eq_error.mp changed).2
  · cases (ensure_eq_error.mp lengths).2

theorem insertDetails_ne_panic {value : Text → ConfigField → Text} {service : Service} :
    insertDetails value tables service ≠ .error .panic := by
  intro failed
  rcases bind_eq_error.mp failed with ports | ⟨_, _, rest⟩
  · obtain ⟨_, _, cause⟩ := mapError_eq_error.mp ports
    cases cause
  rcases bind_eq_error.mp rest with config | ⟨_, _, rest⟩
  · obtain ⟨_, _, cause⟩ := mapError_eq_error.mp config
    cases cause
  rcases bind_eq_error.mp rest with refs | ⟨_, _, rest⟩
  · obtain ⟨_, _, cause⟩ := mapError_eq_error.mp refs
    cases cause
  · cases rest

theorem updateManifest_panics (failed : updateManifest name tables manifest yaml = .error .panic) :
    compatibleVolumeSchema tables.volumes manifest = .ok () ∧
      (manifest.configurable = true ∨ manifest.effectiveCount = tables.plugin.instanceCount) ∧
      manifest.services = [] := by
  rcases bind_eq_error.mp failed with empty | ⟨_, -, failed⟩
  · cases (ensure_eq_error.mp empty).2
  rcases bind_eq_error.mp failed with misnamed | ⟨_, -, failed⟩
  · cases (ensure_eq_error.mp misnamed).2
  rcases bind_eq_error.mp failed with volumes | ⟨_, compatible, failed⟩
  · exact absurd volumes compatibleVolumeSchema_ne_panic
  rcases bind_eq_error.mp failed with count | ⟨_, sameCount, failed⟩
  · cases (ensure_eq_error.mp count).2
  rcases bind_eq_error.mp failed with first | ⟨_, -, failed⟩
  · exact ⟨compatible, ensure_eq_ok.mp sameCount, List.head?_eq_none_iff.mp (require_eq_error.mp first).1⟩
  · obtain ⟨state, service, -, refused⟩ := exists_item_of_foldlM_error failed
    exact absurd refused insertDetails_ne_panic

theorem updateManifest_without_services (nonempty : yaml ≠ []) (named : manifest.name = name)
    (empty : manifest.services = []) (accepted : ¬ Refused tables manifest) :
    updateManifest name tables manifest yaml = .error .panic := by
  obtain ⟨compatible, sameCount, -⟩ := not_or.mp accepted |>.imp_right not_or.mp
  have counted : manifest.configurable = true ∨ manifest.effectiveCount = tables.plugin.instanceCount := by
    cases configurable : manifest.configurable with
    | true => exact Or.inl rfl
    | false => exact Or.inr (by simpa [configurable] using sameCount)
  simp only [updateManifest, ensure, if_pos nonempty, if_pos named, not_not.mp compatible, if_pos counted, empty,
    List.head?_nil]
  rfl

theorem declared_refreshService {ordinals : List (Text × Nat)} {service : Service} {row : ServiceRow}
    (same : service.name = row.service) :
    (refreshService ordinals service row).declared = serviceRow ordinals service := by
  simp [ServiceRow.declared, refreshService, serviceRow, same]

theorem find?_service (once : (manifest.services.map Service.name).Nodup) {service : Service}
    (listed : service ∈ manifest.services) {row : ServiceRow} (same : service.name = row.service) :
    (manifest.services.find? fun other => other.name = row.service) = some service := by
  cases found : manifest.services.find? fun other => decide (other.name = row.service) with
  | none => exact absurd same (by simpa using List.find?_eq_none.mp found service listed)
  | some other =>
    have otherName : other.name = row.service := by simpa using List.find?_some found
    rw [inj_on_of_nodup_map once (mem_of_find?_eq_some found) listed (otherName.trans same.symm)]

theorem declared_updated (once : (manifest.services.map Service.name).Nodup)
    (names : ∀ name, tables.hasService name ↔ name ∈ manifest.services.map Service.name) (row : ServiceRow) :
    row ∈ (updated tables manifest yaml primary).services.map ServiceRow.declared ↔
      row ∈ manifest.services.map (serviceRow (serviceOrdinals manifest.services)) := by
  simp only [updated, map_map, mem_map, Function.comp_apply]
  constructor
  · rintro ⟨old, stored, rfl⟩
    obtain ⟨service, listed, same⟩ := mem_map.mp ((names old.service).mp (mem_map.mpr ⟨old, stored, rfl⟩))
    rw [find?_service once listed same]
    exact ⟨service, listed, (declared_refreshService same).symm⟩
  · rintro ⟨service, listed, rfl⟩
    obtain ⟨old, stored, same⟩ := mem_map.mp ((names service.name).mpr (mem_map.mpr ⟨service, listed, rfl⟩))
    refine ⟨old, stored, ?_⟩
    rw [find?_service once listed same.symm]
    exact declared_refreshService same.symm

theorem keptValue_of_stored {config : List ConfigRow} (once : (config.map ConfigRow.field).Nodup) {row : ConfigRow}
    (stored : row ∈ config) {service : Text} {field : ConfigField} (same : (service, field.key) = row.field) :
    keptValue config service field = row.value := by
  cases found : config.find? fun other => decide (other.field = (service, field.key)) with
  | none => exact absurd same.symm (by simpa using List.find?_eq_none.mp found row stored)
  | some other =>
    have otherField : other.field = (service, field.key) := by simpa using List.find?_some found
    obtain rfl : other = row :=
      inj_on_of_nodup_map once (mem_of_find?_eq_some found) stored (otherField.trans same)
    simp [keptValue, found]

theorem field_mem_updated (field : Text × Text) :
    field ∈ (updated tables manifest yaml primary).config.map ConfigRow.field ↔
      ∃ service ∈ manifest.services, ∃ declared ∈ service.config, (service.name, declared.key) = field := by
  simp only [updated, configRows, mem_map, mem_flatMap]
  constructor
  · rintro ⟨_, ⟨service, listed, declared, inService, rfl⟩, rfl⟩
    exact ⟨service, listed, declared, inService, rfl⟩
  · rintro ⟨service, listed, declared, inService, rfl⟩
    exact ⟨_, ⟨service, listed, declared, inService, rfl⟩, rfl⟩

theorem exact_updated (sound : tables.Sound) (once : (manifest.services.map Service.name).Nodup)
    (same : SameServices tables manifest) : Exact tables manifest (updated tables manifest yaml primary) := by
  obtain ⟨-, names, instances⟩ := same
  refine ⟨declared_updated once names, fun service n => ?_, fun row => mem_flatMap, fun row => mem_flatMap,
    field_mem_updated, fun row stored surviving => ?_, fun service absent => ?_⟩
  · rw [← names service]
    exact instances service n
  · obtain ⟨service, listed, declared, inService, same⟩ := (field_mem_updated row.field).mp surviving
    refine mem_flatMap.mpr ⟨service, listed, mem_map.mpr ⟨declared, inService, ?_⟩⟩
    obtain ⟨sameService, sameKey⟩ := Prod.mk.inj same
    rw [keptValue_of_stored sound.configOnce stored same, sameService, sameKey]
  · have unknown : ¬ tables.hasService service := fun known => absent ((names service).mp known)
    refine ⟨?_, fun member => ?_, fun member => ?_, fun member => ?_, fun member => ?_, fun member => ?_⟩
    · rw [services_updated]
      exact unknown
    · obtain ⟨row, stored, rfl⟩ := mem_map.mp member
      exact unknown (sound.instancesKnown row stored)
    · obtain ⟨row, stored, rfl⟩ := mem_map.mp member
      exact unknown (sound.volumesKnown row stored)
    · obtain ⟨row, inserted, rfl⟩ := mem_map.mp member
      obtain ⟨owner, listed, inOwner⟩ := mem_flatMap.mp inserted
      exact absent (mem_map.mpr ⟨owner, listed, (service_of_mem_portRows inOwner).symm⟩)
    · obtain ⟨row, inserted, rfl⟩ := mem_map.mp member
      obtain ⟨owner, listed, inOwner⟩ := mem_flatMap.mp inserted
      exact absent (mem_map.mpr ⟨owner, listed, (service_of_mem_configRows inOwner).symm⟩)
    · obtain ⟨row, inserted, rfl⟩ := mem_map.mp member
      obtain ⟨owner, listed, inOwner⟩ := mem_flatMap.mp inserted
      exact absent (mem_map.mpr ⟨owner, listed, (service_of_mem_containerRefRows inOwner).symm⟩)

theorem sameServices_of_exact (first : manifest.services.head? = some primary)
    (exactly : Exact tables manifest (updated tables manifest yaml primary)) : SameServices tables manifest := by
  have names (name : Text) : tables.hasService name ↔ name ∈ manifest.services.map Service.name := by
    rw [PluginTables.hasService, ← services_updated]
    constructor
    · intro known
      obtain ⟨row, stored, rfl⟩ := mem_map.mp known
      obtain ⟨service, listed, same⟩ :=
        mem_map.mp ((exactly.services row.declared).mp (mem_map.mpr ⟨row, stored, rfl⟩))
      exact mem_map.mpr ⟨service, listed, congrArg ServiceRow.service same⟩
    · intro listed
      obtain ⟨service, inManifest, rfl⟩ := mem_map.mp listed
      obtain ⟨row, stored, same⟩ :=
        mem_map.mp ((exactly.services _).mpr (mem_map.mpr ⟨service, inManifest, rfl⟩))
      exact mem_map.mpr ⟨row, stored, congrArg ServiceRow.service same⟩
  refine ⟨fun empty => by simp [empty] at first, names, fun service n => ?_⟩
  rw [names service]
  exact exactly.instances service n

/-- An update leaves exactly the rows of the manifest or changes nothing, exactly if it is refused
or the stored services are those of the manifest, with their instances. -/
theorem update_exact_or_refused_iff (resources : ResourceSyntax) (accepted : validateManifest resources manifest = [])
    (parsed : manifest.isCompose = true → manifest.services = []) (named : manifest.name = name) (nonempty : yaml ≠ [])
    (sound : tables.Sound) :
    ExactOrRefused tables manifest (updateManifest name tables manifest yaml) ↔
      Refused tables manifest ∨ SameServices tables manifest := by
  have valid : (manifest.services.map Service.name).Nodup ∧ ∀ service ∈ manifest.services, service.Valid := by
    cases native : manifest.isCompose with
    | true => simp [parsed native]
    | false =>
      have valid := Manifest.valid_of_validateManifest accepted native
      exact ⟨valid.servicesOnce, valid.services⟩
  cases result : updateManifest name tables manifest yaml with
  | ok after =>
    obtain ⟨-, -, notRefused, primary, first, rfl⟩ := (updateManifest_eq_ok valid.1 valid.2).mp result
    constructor
    · rintro (⟨error, failed, -⟩ | ⟨after, done, -, exactly⟩)
      · cases failed
      · cases done
        exact Or.inr (sameServices_of_exact first exactly)
    · rintro (refused | same)
      · exact absurd refused notRefused
      · exact Or.inr ⟨_, rfl, rfl, exact_updated sound valid.1 same⟩
  | error error =>
    have failed : ExactOrRefused tables manifest (.error error) ↔ error ≠ .panic := by
      simp [ExactOrRefused, committed]
    rw [failed]
    constructor
    · intro returned
      by_contra neither
      obtain ⟨notRefused, -⟩ := not_or.mp neither
      cases first : manifest.services.head? with
      | none =>
        have panicked := updateManifest_without_services nonempty named (List.head?_eq_none_iff.mp first) notRefused
        exact returned (Except.error.inj (result.symm.trans panicked))
      | some primary =>
        have done := (updateManifest_eq_ok valid.1 valid.2).mpr ⟨nonempty, named, notRefused, primary, first, rfl⟩
        cases result.symm.trans done
    · rintro possible rfl
      obtain ⟨compatible, sameCount, empty⟩ := updateManifest_panics result
      rcases possible with (differs | ⟨fixed, differs⟩ | ⟨service, listed, -⟩) | ⟨some, -⟩
      · exact differs compatible
      · rcases sameCount with configurable | same
        · simp [fixed] at configurable
        · exact differs same
      · rw [empty] at listed
        cases listed
      · exact some empty

end Update

def installed (name : Text) (services : List Text) : Except StoreError PluginTables :=
  insert ⟨plainManifest name services, fun _ _ => none, fun _ _ => [], []⟩

def composeManifest (name : Text) : Manifest :=
  { plainManifest name [] with count := 0, configurable := false, isCompose := true }

/-- A compose plugin with one service. -/
def composeTables : PluginTables :=
  ⟨⟨"1.0.0", .running, "name: app", artifactCompose, [], [], 1, false⟩,
    [⟨"app", .ociImage, "image", [], [], none, 0, []⟩], [], [], [], [],
    [⟨"app", "primary", "image", [], "image"⟩], none⟩

/-- An update to a manifest with the same services. -/
theorem same_services_update_exactly :
    ∃ tables, installed "app" ["app", "db"] = .ok tables ∧
      ExactOrRefused tables (plainManifest "app" ["db", "app"])
        (updateManifest "app" tables (plainManifest "app" ["db", "app"]) "yaml") := by
  refine ⟨_, rfl, (update_exact_or_refused_iff anyResource (by decide) (by decide) rfl (by decide) ?_).mpr (Or.inr ?_)⟩
  · exact ⟨by decide, by decide, by decide, by decide, by decide⟩
  · refine ⟨cons_ne_nil _ _, fun name => (List.Perm.swap "db".toList "app".toList []).mem_iff, fun service n => ?_⟩
    have units (unit : Text × Nat) : unit ∈ [("app".toList, 1), ("db".toList, 1)] ↔
        unit.1 ∈ ["app".toList, "db".toList] ∧ unit.2 = 1 := by
      simp only [mem_cons, not_mem_nil, or_false, Prod.ext_iff, or_and_right]
    have single : n = 1 ↔ 1 ≤ n ∧ n ≤ 1 := by omega
    exact (units (service, n)).trans (and_congr_right fun _ => single)

/-- A compose document for a native plugin without volumes, a manifest without one of the services,
and a native manifest for a compose plugin. -/
theorem updates_panic_or_leave_rows :
    (∃ tables, installed "app" ["app"] = .ok tables ∧
      updateManifest "app" tables (composeManifest "app") "yaml" = .error .panic) ∧
    (∃ tables, installed "app" ["app", "db"] = .ok tables ∧
      ¬ ExactOrRefused tables (plainManifest "app" ["app"])
        (updateManifest "app" tables (plainManifest "app" ["app"]) "yaml")) ∧
    ¬ ExactOrRefused composeTables (plainManifest "app" ["app"])
      (updateManifest "app" composeTables (plainManifest "app" ["app"]) "yaml") := by
  refine ⟨⟨_, rfl, rfl⟩, ⟨_, rfl, ?_⟩, ?_⟩
  · rintro (⟨error, failed, -⟩ | ⟨after, done, -, exactly⟩)
    · cases failed
    · cases done
      exact (exactly.removed "db" (by decide)).1 (by decide)
  · rintro (⟨error, failed, -⟩ | ⟨after, done, -, exactly⟩)
    · cases failed
    · cases done
      exact absurd ((exactly.instances "app" 1).mpr (by decide)) (by decide)

end Tierd.Plugin.Store
