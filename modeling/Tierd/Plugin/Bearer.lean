import Tierd.Data.Runs
import Tierd.Plugin.ManifestUpdate

namespace Tierd.Plugin.Store

open Tierd.Data List

def bearerExpectedConfigKey : Text := "SMOOTHNAS_BEARER_EXPECTED"

/-- `ORDER BY ordinal DESC, service ASC`. -/
def StartsAfter (first second : ServiceRow) : Prop :=
  second.ordinal < first.ordinal ∨ (first.ordinal = second.ordinal ∧ first.service ≤ second.service)
deriving Decidable

/-- The service that starts last fronts the plugin. -/
def primaryServiceTx (services : List ServiceRow) : Option Text :=
  (services.insertionSort StartsAfter).head?.map ServiceRow.service

/-- `ORDER BY service, key`. -/
def ListedBefore (first second : ConfigRow) : Prop :=
  first.service < second.service ∨ (first.service = second.service ∧ first.key ≤ second.key)
deriving Decidable

def listConfig (config : List ConfigRow) : List ConfigRow := config.insertionSort ListedBefore

def hexDigit (value : Fin 16) : Char :=
  if value.val < 10 then Char.ofNat ('0'.toNat + value.val) else Char.ofNat ('a'.toNat + value.val - 10)

/-- 32 random bytes as a hex string, here by their half bytes. -/
def newBearerToken (random : Fin 64 → Fin 16) : Text := List.ofFn fun i => hexDigit (random i)

def upsertConfig (config : List ConfigRow) (row : ConfigRow) : List ConfigRow :=
  if row.field ∈ config.map ConfigRow.field then
    changeRow ConfigRow.field row.field (fun old => { old with value := row.value }) config
  else config ++ [row]

def issueBearerToken (tables : PluginTables) (random : Fin 64 → Fin 16) : Except StoreError PluginTables := do
  let service ← require (primaryServiceTx tables.services) .notFound
  let token := newBearerToken random
  return { tables with
    bearerToken := some token
    config := upsertConfig tables.config ⟨service, bearerExpectedConfigKey, token⟩ }

def storedBearer (config : List ConfigRow) : Option Text :=
  ((listConfig config).find? fun row => row.key = bearerExpectedConfigKey ∧ row.value ≠ []).map ConfigRow.value

/-- The key-value map of an edit. -/
abbrev ConfigMap := AList fun _ : Text => Text

def ConfigMap.value (cfg : ConfigMap) (key : Text) : Text := (cfg.lookup key).getD []

/-- `cfg` with the stored value where the caller gave none; `listed` is whether the listing
succeeded. -/
def preserveBearer (config : List ConfigRow) (listed : Bool) (cfg : ConfigMap) : ConfigMap :=
  match if listed then storedBearer config else none with
  | some value => if cfg.value bearerExpectedConfigKey = [] then cfg.insert bearerExpectedConfigKey value else cfg
  | none => cfg

def replaceConfig (tables : PluginTables) (listed : Bool) (cfg : ConfigMap) : Except StoreError PluginTables := do
  let service ← require (primaryServiceTx tables.services) .notFound
  let config ← (insertRows ConfigRow.field (fun row => tables.hasService row.service)
    (tables.config.filter fun row => row.service ≠ service)
    ((preserveBearer tables.config listed cfg).entries.map fun entry => ⟨service, entry.1, entry.2⟩)).mapError
      fun (row, violation) => .constraint "plugin_config" row.field violation
  return { tables with config := config }

inductive Request where
  | insert (params : InsertParams)
  | issueBearerToken (random : Fin 64 → Fin 16)
  | replaceConfig (listed : Bool) (cfg : ConfigMap)
  | updateManifest (manifest : Manifest) (yaml : Text)

/-- The request on the plugin, if it is installed. -/
def perform (name : Text) : Option PluginTables → Request → Except StoreError PluginTables
  | none, .insert params => insert params
  | some _, .insert _ => .error .exists
  | none, _ => .error .notFound
  | some tables, .issueBearerToken random => issueBearerToken tables random
  | some tables, .replaceConfig listed cfg => replaceConfig tables listed cfg
  | some tables, .updateManifest manifest yaml => updateManifest name tables manifest yaml

/-- A failed request changes nothing. -/
def step (name : Text) (state : Option PluginTables) (request : Request) : Option PluginTables :=
  match perform name state request with
  | .ok tables => some tables
  | .error _ => state

def PluginTables.Agrees (tables : PluginTables) : Prop :=
  ∀ token, tables.bearerToken = some token →
    ∃ primary, primaryServiceTx tables.services = some primary ∧
      ⟨primary, bearerExpectedConfigKey, token⟩ ∈ tables.config

def Agreement (state : Option PluginTables) : Prop := ∀ tables, state = some tables → tables.Agrees

/-- The request is refused, or it does not touch the token: an edit gives the token or leaves it out
while the first stored value is the token; an update declares the key in the service that is then
primary, with the token as its stored value (or as its default if there is none). -/
def Spares (name : Text) (tables : PluginTables) (token : Text) : Request → Prop
  | .insert _ => True
  | .issueBearerToken _ => True
  | .replaceConfig listed cfg =>
    (∀ after, replaceConfig tables listed cfg ≠ .ok after) ∨
    if cfg.value bearerExpectedConfigKey = [] then listed = true ∧ storedBearer tables.config = some token
    else cfg.value bearerExpectedConfigKey = token
  | .updateManifest manifest yaml =>
    (∀ after, updateManifest name tables manifest yaml ≠ .ok after) ∨
    ∃ service ∈ manifest.services, primaryServiceTx (refreshedServices tables.services manifest) = some service.name ∧
      ∃ field ∈ service.config, field.key = bearerExpectedConfigKey ∧ keptValue tables.config service.name field = token

def SparesToken (name : Text) (state : Option PluginTables) (request : Request) : Prop :=
  ∀ tables token, state = some tables → tables.bearerToken = some token → Spares name tables token request

section Steps

variable {tables after : PluginTables} {token : Text}

theorem newBearerToken_ne_nil (random : Fin 64 → Fin 16) : newBearerToken random ≠ [] := by
  intro empty
  have length := congrArg List.length empty
  simp [newBearerToken] at length

theorem insertAllDetails_adds {value : Text → ConfigField → Text} {services : List Service}
    (inserted : services.foldlM (insertDetails value) tables = .ok after) :
    after.services = tables.services ∧ after.bearerToken = tables.bearerToken ∧
      after.config = tables.config ++ services.flatMap (configRows value) := by
  induction services generalizing tables with
  | nil =>
    obtain rfl := pure_eq_ok.mp inserted
    simp
  | cons service rest ih =>
    rw [foldlM_cons, bind_eq_ok] at inserted
    obtain ⟨middle, first, later⟩ := inserted
    obtain rfl := insertDetails_adds first
    obtain ⟨services, bearer, config⟩ := ih later
    exact ⟨services, bearer, by rw [config, flatMap_cons, append_assoc]⟩

theorem insertService_bearerToken {params : InsertParams} {ordinals : List (Text × Nat)} {service : Service}
    (inserted : insertService params ordinals tables service = .ok after) : after.bearerToken = tables.bearerToken := by
  simp only [insertService, bind_eq_ok] at inserted
  obtain ⟨_, -, _, -, details⟩ := inserted
  rw [← insertDetails_adds details]

theorem insert_bearerToken {params : InsertParams} (inserted : insert params = .ok after) :
    after.bearerToken = none := by
  simp only [insert, bind_eq_ok] at inserted
  obtain ⟨_, -, services⟩ := inserted
  have kept (state : PluginTables) (service : Service) (next : PluginTables) (empty : state.bearerToken = none)
      (done : insertService params (serviceOrdinals params.manifest.services) state service = .ok next) :
      next.bearerToken = none := (insertService_bearerToken done).trans empty
  exact foldlM_invariant kept rfl services

theorem issueBearerToken_agrees {random : Fin 64 → Fin 16} (issued : issueBearerToken tables random = .ok after) :
    after.Agrees := by
  simp only [issueBearerToken, bind_eq_ok, require_eq_ok, pure_eq_ok] at issued
  obtain ⟨primary, first, rfl⟩ := issued
  rintro token ⟨⟩
  refine ⟨primary, first, ?_⟩
  unfold upsertConfig
  split
  · next stored =>
    obtain ⟨old, member, same⟩ := mem_map.mp stored
    refine mem_changeRow.mpr (Or.inl ⟨old, member, same, ?_⟩)
    obtain ⟨sameService, sameKey⟩ := Prod.mk.inj same
    rw [sameService, sameKey]
  · simp

theorem mem_preserveBearer {config : List ConfigRow} {listed : Bool} {cfg : ConfigMap} (nonempty : token ≠ []) :
    ⟨bearerExpectedConfigKey, token⟩ ∈ (preserveBearer config listed cfg).entries ↔
      if cfg.value bearerExpectedConfigKey = [] then listed = true ∧ storedBearer config = some token
      else cfg.value bearerExpectedConfigKey = token := by
  have given : cfg.lookup bearerExpectedConfigKey = some token ↔ cfg.value bearerExpectedConfigKey = token := by
    unfold ConfigMap.value
    cases cfg.lookup bearerExpectedConfigKey with
    | none => simp [nonempty.symm]
    | some value => simp
  rw [← AList.mem_lookup_iff, Option.mem_def]
  unfold preserveBearer
  split
  · next value stored =>
    split
    · rw [AList.lookup_insert]
      cases listed with
      | false => simp at stored
      | true => simp_all
    · exact given
  · next missing =>
    rw [given]
    split
    · next none =>
      rw [none]
      cases listed with
      | false => simp [nonempty.symm]
      | true => simp_all
    · exact Iff.rfl

theorem replaceConfig_agrees_iff {listed : Bool} {cfg : ConfigMap} (issued : tables.bearerToken = some token)
    (nonempty : token ≠ []) (replaced : replaceConfig tables listed cfg = .ok after) :
    after.Agrees ↔
      if cfg.value bearerExpectedConfigKey = [] then listed = true ∧ storedBearer tables.config = some token
      else cfg.value bearerExpectedConfigKey = token := by
  simp only [replaceConfig, bind_eq_ok, require_eq_ok, mapError_eq_ok, insertRows_eq_ok, pure_eq_ok] at replaced
  obtain ⟨primary, first, _, ⟨-, -, rfl⟩, rfl⟩ := replaced
  rw [← mem_preserveBearer nonempty]
  constructor
  · intro agrees
    obtain ⟨service, same, member⟩ := agrees token issued
    obtain rfl : primary = service := Option.some.inj (first.symm.trans same)
    rcases mem_append.mp member with other | new
    · exact absurd rfl (of_decide_eq_true (mem_filter.mp other).2)
    · obtain ⟨⟨key, value⟩, inMap, same⟩ := mem_map.mp new
      cases same
      exact inMap
  · rintro member other same
    obtain rfl : token = other := Option.some.inj (issued.symm.trans same)
    exact ⟨primary, first, mem_append.mpr (Or.inr (mem_map.mpr ⟨_, member, rfl⟩))⟩

theorem updateManifest_agrees_iff {name yaml : Text} {manifest : Manifest} (issued : tables.bearerToken = some token)
    (done : updateManifest name tables manifest yaml = .ok after) :
    after.Agrees ↔
      ∃ service ∈ manifest.services, primaryServiceTx (refreshedServices tables.services manifest) = some service.name ∧
        ∃ field ∈ service.config, field.key = bearerExpectedConfigKey ∧
          keptValue tables.config service.name field = token := by
  simp only [updateManifest, bind_eq_ok] at done
  obtain ⟨_, -, _, -, _, -, _, -, _, -, details⟩ := done
  obtain ⟨services, bearer, config⟩ := insertAllDetails_adds details
  dsimp only at services bearer
  rw [nil_append] at config
  constructor
  · intro agrees
    obtain ⟨primary, first, member⟩ := agrees token (bearer.trans issued)
    rw [config] at member
    obtain ⟨service, listed, inService⟩ := mem_flatMap.mp member
    obtain ⟨field, declared, same⟩ := mem_map.mp inService
    obtain ⟨rfl, key, value⟩ := ConfigRow.mk.inj same
    exact ⟨service, listed, by rw [← services, first], field, declared, key, value⟩
  · rintro ⟨service, listed, first, field, declared, key, value⟩ other same
    obtain rfl : token = other := Option.some.inj (issued.symm.trans (bearer.symm.trans same))
    refine ⟨service.name, by rw [services, first], ?_⟩
    rw [config]
    exact mem_flatMap.mpr ⟨service, listed, mem_map.mpr ⟨field, declared, by rw [key, value]⟩⟩

end Steps

/-- A token that is stored is not empty. -/
def Issued (state : Option PluginTables) : Prop := ∀ tables, state = some tables → tables.bearerToken ≠ some []

variable {tables after : PluginTables}

theorem bearerToken_replaceConfig {listed : Bool} {cfg : ConfigMap}
    (replaced : replaceConfig tables listed cfg = .ok after) : after.bearerToken = tables.bearerToken := by
  simp only [replaceConfig, bind_eq_ok, pure_eq_ok] at replaced
  obtain ⟨_, -, _, -, rfl⟩ := replaced
  rfl

variable {name : Text}

theorem bearerToken_updateManifest {yaml : Text} {manifest : Manifest}
    (done : updateManifest name tables manifest yaml = .ok after) : after.bearerToken = tables.bearerToken := by
  simp only [updateManifest, bind_eq_ok] at done
  obtain ⟨_, -, _, -, _, -, _, -, _, -, details⟩ := done
  exact (insertAllDetails_adds details).2.1

variable {request : Request}

theorem perform_issued {state : Option PluginTables}
    (issued : Issued state) (done : perform name state request = .ok after) : after.bearerToken ≠ some [] := by
  cases state with
  | none =>
    cases request with
    | insert params => simp [insert_bearerToken done]
    | issueBearerToken | replaceConfig | updateManifest => cases done
  | some tables =>
    cases request with
    | insert => cases done
    | issueBearerToken random =>
      simp only [perform, Store.issueBearerToken, bind_eq_ok, pure_eq_ok] at done
      obtain ⟨_, -, rfl⟩ := done
      exact fun empty => newBearerToken_ne_nil random (Option.some.inj empty)
    | replaceConfig => exact bearerToken_replaceConfig done ▸ issued tables rfl
    | updateManifest => exact bearerToken_updateManifest done ▸ issued tables rfl

theorem step_issued {state : Option PluginTables} (request : Request) (issued : Issued state) :
    Issued (step name state request) := by
  unfold step
  split
  · next after done =>
    rintro tables ⟨⟩
    exact perform_issued issued done
  · exact issued

theorem agreement_some : Agreement (some tables) ↔ tables.Agrees :=
  ⟨fun agreement => agreement tables rfl, fun agrees _ same => Option.some.inj same ▸ agrees⟩

theorem sparesToken_some {token : Text}
    (held : tables.bearerToken = some token) :
    SparesToken name (some tables) request ↔ Spares name tables token request := by
  refine ⟨fun spares => spares tables token rfl held, fun spares other another same secret => ?_⟩
  cases same
  cases held.symm.trans secret
  exact spares

theorem agrees_of_no_token
    (none : tables.bearerToken = none) (done : perform name (some tables) request = .ok after) : after.Agrees := by
  cases request with
  | insert => cases done
  | issueBearerToken => exact issueBearerToken_agrees done
  | replaceConfig =>
    intro token held
    cases (bearerToken_replaceConfig done).symm.trans held ▸ none
  | updateManifest =>
    intro token held
    cases (bearerToken_updateManifest done).symm.trans held ▸ none

theorem agrees_iff_spares {token : Text}
    (held : tables.bearerToken = some token) (nonempty : token ≠ [])
    (done : perform name (some tables) request = .ok after) : after.Agrees ↔ Spares name tables token request := by
  cases request with
  | insert => cases done
  | issueBearerToken => exact iff_of_true (issueBearerToken_agrees done) trivial
  | replaceConfig =>
    rw [replaceConfig_agrees_iff held nonempty done]
    refine ⟨Or.inr, fun spares => spares.resolve_left fun refused => refused after done⟩
  | updateManifest =>
    rw [updateManifest_agrees_iff held done]
    refine ⟨Or.inr, fun spares => spares.resolve_left fun refused => refused after done⟩

theorem spares_of_failed {token : Text} {error : StoreError}
    (failed : perform name (some tables) request = .error error) : Spares name tables token request := by
  cases request with
  | insert | issueBearerToken => trivial
  | replaceConfig => exact Or.inl fun after done => nomatch failed.symm.trans done
  | updateManifest => exact Or.inl fun after done => nomatch failed.symm.trans done

theorem step_agreement_iff {state : Option PluginTables} (request : Request) (issued : Issued state)
    (agreement : Agreement state) : Agreement (step name state request) ↔ SparesToken name state request := by
  unfold step
  cases result : perform name state request with
  | error error =>
    refine iff_of_true agreement fun tables token installed _ => ?_
    exact spares_of_failed (installed ▸ result)
  | ok after =>
    rw [agreement_some]
    cases state with
    | none =>
      refine iff_of_true ?_ nofun
      cases request with
      | insert =>
        intro token held
        cases (insert_bearerToken result).symm.trans held
      | issueBearerToken | replaceConfig | updateManifest => cases result
    | some tables =>
      cases held : tables.bearerToken with
      | none =>
        refine iff_of_true (agrees_of_no_token held result) fun other token same secret => ?_
        cases same
        cases held.symm.trans secret
      | some token =>
        rw [sparesToken_some held]
        exact agrees_iff_spares held (fun empty => issued tables rfl (empty ▸ held)) result

/-- After every request the stored token is the value the primary service is configured with,
exactly if each request is refused or spares the token. -/
theorem bearer_agrees_iff_spared (name : Text) (requests : List Request) :
    (∀ before, before <+: requests → Agreement (run (step name) none before)) ↔
      Guarded (step name) (SparesToken name) none requests :=
  guarded_iff_holds_throughout (fun _ request issued _ _ => step_issued request issued)
    (fun _ request => step_agreement_iff request) requests nofun nofun

/-- A plugin that is installed and gets its token. -/
def tokenIssued : List Request :=
  [.insert ⟨plainManifest "app" ["app"], fun _ _ => none, fun _ _ => [], []⟩, .issueBearerToken fun _ => 0]

/-- An update to the same manifest drops the value, as the key is not declared; an edit of the
configuration replaces it. -/
theorem token_and_config_disagree :
    Agreement (run (step "app") none tokenIssued) ∧
    ¬ Agreement (run (step "app") none (tokenIssued ++
      [.updateManifest (plainManifest "app" ["app"]) "yaml"])) ∧
    ¬ Agreement (run (step "app") none (tokenIssued ++
      [.replaceConfig true (AList.insert bearerExpectedConfigKey "mine" ∅)])) := by
  refine ⟨?_, fun agreement => ?_, fun agreement => ?_⟩
  · rintro tables ⟨⟩ token ⟨⟩
    exact ⟨"app", rfl, by decide⟩
  · obtain ⟨primary, -, member⟩ := agreement _ rfl _ rfl
    cases member
  · obtain ⟨primary, -, member⟩ := agreement _ rfl _ rfl
    have replaced : (newBearerToken fun _ => 0) = "mine" :=
      congrArg ConfigRow.value (mem_singleton.mp member)
    exact absurd replaced (by decide)

end Tierd.Plugin.Store
