import Tierd.Data.Segments
import Tierd.Plugin.Manifest

namespace Tierd.Plugin

open Tierd.Data List

/-- The service is left out if it has the plugin's name, the number if there is one instance. -/
def containerName (pluginName service : Text) (instNum instanceCount : Nat) : Text :=
  let base := if service ≠ [] ∧ service ≠ pluginName then pluginName ++ '-' :: service else pluginName
  if instanceCount ≤ 1 then base else base ++ '-' :: decimal instNum

structure Installed where
  manifest : Manifest
  count : Nat
  valid : manifest.Valid
  positive : 1 ≤ count

/-- What one container realises. -/
structure RunUnit where
  plugin : Text
  service : Text
  instNum : Nat
deriving DecidableEq, Repr

namespace Installed

def name (plugin : Installed) : Text := plugin.manifest.name

def services (plugin : Installed) : List Text := plugin.manifest.services.map Service.name

def Has (plugin : Installed) (unit : RunUnit) : Prop :=
  unit.plugin = plugin.name ∧ unit.service ∈ plugin.services ∧ 1 ≤ unit.instNum ∧ unit.instNum ≤ plugin.count

def nameOf (plugin : Installed) (unit : RunUnit) : Text :=
  containerName plugin.name unit.service unit.instNum plugin.count

/-- It has a service of its own name. -/
def own (plugin : Installed) : Prop := plugin.name ∈ plugin.services

/-- A service whose name is added to the plugin's. -/
def Extra (plugin : Installed) (service : Text) : Prop := service ∈ plugin.services ∧ service ≠ plugin.name

def Numbered (plugin : Installed) : Prop := 1 < plugin.count
deriving Decidable

def Number (plugin : Installed) (n : Nat) : Prop := 1 ≤ n ∧ n ≤ plugin.count

/-- What the name of a unit adds to the plugin's. -/
def addition (plugin : Installed) (unit : RunUnit) : Text :=
  (if unit.service = plugin.name then [] else '-' :: unit.service) ++
    (if 1 < plugin.count then '-' :: decimal unit.instNum else [])

end Installed

/-- `rest` is what the name of the second plugin has after the first's and a dash: some unit of
the first plugin adds `rest` and what a unit of the second adds. -/
def Meets (first second : Installed) (rest : Text) : Prop :=
  (first.Numbered ↔ second.Numbered) ∧
      (∃ service, first.Extra service ∧
        (second.own ∧ service = rest ∨ ∃ other, second.Extra other ∧ service = rest ++ '-' :: other)) ∨
    first.Numbered ∧ ¬ second.Numbered ∧
      (first.own ∧ second.own ∧ (∃ n, first.Number n ∧ rest = decimal n) ∨
        ∃ service n, first.Extra service ∧ first.Number n ∧
          (second.own ∧ rest = service ++ '-' :: decimal n ∨
            ∃ other, second.Extra other ∧ rest ++ '-' :: other = service ++ '-' :: decimal n)) ∨
    ¬ first.Numbered ∧ second.Numbered ∧
      ∃ service n, first.Extra service ∧ second.Number n ∧
        (second.own ∧ service = rest ++ '-' :: decimal n ∨
          ∃ other, second.Extra other ∧ service = rest ++ '-' :: (other ++ '-' :: decimal n))

def Clashes (first second : Installed) : Prop :=
  ∃ rest, second.name = first.name ++ '-' :: rest ∧ Meets first second rest

section Names

variable {first second plugin : Installed} {unit other : RunUnit} {rest : Text}

theorem ne_nil_of_matchesName {text : Text} (valid : matchesName text = true) : text ≠ [] := by
  rintro rfl
  simp [matchesName] at valid

theorem Installed.nameOf_eq (has : plugin.Has unit) : plugin.nameOf unit = plugin.name ++ plugin.addition unit := by
  obtain ⟨service, listed, named⟩ := mem_map.mp has.2.1
  have nonempty : unit.service ≠ [] := named ▸ ne_nil_of_matchesName (plugin.valid.services service listed).name
  by_cases own : unit.service = plugin.name <;> by_cases numbered : 1 < plugin.count <;>
    simp [Installed.nameOf, containerName, Installed.addition, nonempty, own, numbered]

theorem Installed.Has.number (has : plugin.Has unit) : plugin.Number unit.instNum := has.2.2

theorem Installed.addition_inj (has : plugin.Has unit) (hasOther : plugin.Has other)
    (same : plugin.addition unit = plugin.addition other) : unit = other := by
  obtain ⟨pluginName, service, n⟩ := unit
  obtain ⟨otherName, otherService, m⟩ := other
  obtain rfl : pluginName = otherName := has.1.trans hasOther.1.symm
  have dashless (k : Nat) : '-' ∉ decimal k := not_mem_decimal (by decide)
  by_cases numbered : 1 < plugin.count
  · simp only [Installed.addition, if_pos numbered] at same
    obtain ⟨services, numbers⟩ := (append_cons_inj (dashless n) (dashless m)).mp same
    obtain rfl := decimal_inj numbers
    congr 1
    split_ifs at services with left right right
    · exact left.trans right.symm
    · exact (List.cons.inj services).2
  · have single : n = m := by
      have one := has.number.1
      have bound := has.number.2
      have oneOther := hasOther.number.1
      have boundOther := hasOther.number.2
      dsimp only at one bound oneOther boundOther
      omega
    subst single
    congr 1
    simp only [Installed.addition, if_neg numbered, append_nil] at same
    split_ifs at same with left right right
    · exact left.trans right.symm
    · exact (List.cons.inj same).2

theorem Installed.number_one (plugin : Installed) : plugin.Number 1 := ⟨le_rfl, plugin.positive⟩

theorem Installed.own_or_extra (has : plugin.Has unit) :
    plugin.own ∧ unit.service = plugin.name ∨ plugin.Extra unit.service := by
  by_cases own : unit.service = plugin.name
  · refine .inl ⟨?_, own⟩
    have listed := has.2.1
    rwa [own] at listed
  · exact .inr ⟨has.2.1, own⟩

theorem Installed.addition_own (own : unit.service = plugin.name) :
    plugin.addition unit = if plugin.Numbered then '-' :: decimal unit.instNum else [] := by
  simp only [Installed.addition, if_pos own, nil_append]
  rfl

theorem Installed.addition_extra (extra : plugin.Extra unit.service) :
    plugin.addition unit =
      '-' :: (unit.service ++ if plugin.Numbered then '-' :: decimal unit.instNum else []) := by
  simp only [Installed.addition, if_neg extra.2, cons_append]
  rfl

theorem not_mem_decimal_dash (n : Nat) : '-' ∉ decimal n := not_mem_decimal (by decide)

theorem meets_of_addition (has : first.Has unit) (hasOther : second.Has other)
    (same : first.addition unit = '-' :: rest ++ second.addition other) : Meets first second rest := by
  have number := has.number
  have numberOther := hasOther.number
  by_cases numbered : first.Numbered <;> by_cases numberedOther : second.Numbered
  · refine .inl ⟨iff_of_true numbered numberedOther, ?_⟩
    rcases first.own_or_extra has with ⟨own, service⟩ | extra
    · rcases second.own_or_extra hasOther with ⟨-, otherService⟩ | extraOther
      · rw [first.addition_own service, second.addition_own otherService, if_pos numbered, if_pos numberedOther] at same
        exact absurd ((List.cons.inj same).2 ▸ by simp) (not_mem_decimal_dash unit.instNum)
      · rw [first.addition_own service, second.addition_extra extraOther, if_pos numbered] at same
        exact absurd ((List.cons.inj same).2 ▸ by simp) (not_mem_decimal_dash unit.instNum)
    · refine ⟨unit.service, extra, ?_⟩
      rcases second.own_or_extra hasOther with ⟨ownOther, otherService⟩ | extraOther
      · rw [first.addition_extra extra, second.addition_own otherService, if_pos numbered, if_pos numberedOther] at same
        have parts := (List.cons.inj same).2
        exact .inl ⟨ownOther, ((append_cons_inj (not_mem_decimal_dash _) (not_mem_decimal_dash _)).mp parts).1⟩
      · rw [first.addition_extra extra, second.addition_extra extraOther, if_pos numbered, if_pos numberedOther] at same
        have parts : unit.service ++ '-' :: decimal unit.instNum =
            (rest ++ '-' :: other.service) ++ '-' :: decimal other.instNum := by simpa using (List.cons.inj same).2
        exact .inr ⟨other.service, extraOther,
          ((append_cons_inj (not_mem_decimal_dash _) (not_mem_decimal_dash _)).mp parts).1⟩
  · refine .inr (.inl ⟨numbered, numberedOther, ?_⟩)
    rcases first.own_or_extra has with ⟨own, service⟩ | extra <;>
      rcases second.own_or_extra hasOther with ⟨ownOther, otherService⟩ | extraOther
    · rw [first.addition_own service, second.addition_own otherService, if_pos numbered, if_neg numberedOther] at same
      exact .inl ⟨own, ownOther, unit.instNum, number, by simpa using (List.cons.inj same).2.symm⟩
    · rw [first.addition_own service, second.addition_extra extraOther, if_pos numbered] at same
      exact absurd ((List.cons.inj same).2 ▸ by simp) (not_mem_decimal_dash unit.instNum)
    · rw [first.addition_extra extra, second.addition_own otherService, if_pos numbered, if_neg numberedOther] at same
      exact .inr ⟨unit.service, unit.instNum, extra, number,
        .inl ⟨ownOther, by simpa using (List.cons.inj same).2.symm⟩⟩
    · rw [first.addition_extra extra, second.addition_extra extraOther, if_pos numbered, if_neg numberedOther] at same
      exact .inr ⟨unit.service, unit.instNum, extra, number,
        .inr ⟨other.service, extraOther, by simpa using (List.cons.inj same).2.symm⟩⟩
  · refine .inr (.inr ⟨numbered, numberedOther, ?_⟩)
    rcases first.own_or_extra has with ⟨own, service⟩ | extra
    · rw [first.addition_own service, if_neg numbered] at same
      simp at same
    · refine ⟨unit.service, other.instNum, extra, numberOther, ?_⟩
      rcases second.own_or_extra hasOther with ⟨ownOther, otherService⟩ | extraOther
      · rw [first.addition_extra extra, second.addition_own otherService, if_neg numbered, if_pos numberedOther] at same
        exact .inl ⟨ownOther, by simpa using (List.cons.inj same).2⟩
      · rw [first.addition_extra extra, second.addition_extra extraOther, if_neg numbered, if_pos numberedOther] at same
        exact .inr ⟨other.service, extraOther, by simpa using (List.cons.inj same).2⟩
  · refine .inl ⟨iff_of_false numbered numberedOther, ?_⟩
    rcases first.own_or_extra has with ⟨own, service⟩ | extra
    · rw [first.addition_own service, if_neg numbered] at same
      simp at same
    · refine ⟨unit.service, extra, ?_⟩
      rcases second.own_or_extra hasOther with ⟨ownOther, otherService⟩ | extraOther
      · rw [first.addition_extra extra, second.addition_own otherService, if_neg numbered, if_neg numberedOther] at same
        exact .inl ⟨ownOther, by simpa using (List.cons.inj same).2⟩
      · rw [first.addition_extra extra, second.addition_extra extraOther, if_neg numbered, if_neg numberedOther] at same
        exact .inr ⟨other.service, extraOther, by simpa using (List.cons.inj same).2⟩

theorem Installed.exists_own {n : Nat} (own : plugin.own) (number : plugin.Number n) :
    ∃ unit, plugin.Has unit ∧ plugin.addition unit = if plugin.Numbered then '-' :: decimal n else [] :=
  ⟨⟨plugin.name, plugin.name, n⟩, ⟨rfl, own, number⟩, plugin.addition_own rfl⟩

theorem Installed.exists_extra {service : Text} {n : Nat} (extra : plugin.Extra service) (number : plugin.Number n) :
    ∃ unit, plugin.Has unit ∧
      plugin.addition unit = '-' :: (service ++ if plugin.Numbered then '-' :: decimal n else []) :=
  ⟨⟨plugin.name, service, n⟩, ⟨rfl, extra.1, number⟩, plugin.addition_extra extra⟩

theorem addition_of_meets (meets : Meets first second rest) :
    ∃ unit other, first.Has unit ∧ second.Has other ∧
      first.addition unit = '-' :: rest ++ second.addition other := by
  rcases meets with ⟨alike, service, extra, same⟩ | ⟨numbered, plain, same⟩ | ⟨plain, numbered, same⟩
  · obtain ⟨unit, has, added⟩ := first.exists_extra extra first.number_one
    rcases same with ⟨own, rfl⟩ | ⟨other, extraOther, rfl⟩
    · obtain ⟨unitOther, hasOther, addedOther⟩ := second.exists_own own second.number_one
      refine ⟨unit, unitOther, has, hasOther, ?_⟩
      rw [added, addedOther]
      simp only [alike, cons_append]
    · obtain ⟨unitOther, hasOther, addedOther⟩ := second.exists_extra extraOther second.number_one
      refine ⟨unit, unitOther, has, hasOther, ?_⟩
      rw [added, addedOther]
      simp only [alike, cons_append, append_assoc]
  · rcases same with ⟨own, ownOther, n, number, rfl⟩ | ⟨service, n, extra, number, same⟩
    · obtain ⟨unit, has, added⟩ := first.exists_own own number
      obtain ⟨unitOther, hasOther, addedOther⟩ := second.exists_own ownOther second.number_one
      refine ⟨unit, unitOther, has, hasOther, ?_⟩
      rw [added, addedOther, if_pos numbered, if_neg plain, append_nil]
    · obtain ⟨unit, has, added⟩ := first.exists_extra extra number
      rcases same with ⟨ownOther, rfl⟩ | ⟨other, extraOther, same⟩
      · obtain ⟨unitOther, hasOther, addedOther⟩ := second.exists_own ownOther second.number_one
        refine ⟨unit, unitOther, has, hasOther, ?_⟩
        rw [added, addedOther, if_pos numbered, if_neg plain, append_nil]
      · obtain ⟨unitOther, hasOther, addedOther⟩ := second.exists_extra extraOther second.number_one
        refine ⟨unit, unitOther, has, hasOther, ?_⟩
        rw [added, addedOther, if_pos numbered, if_neg plain, append_nil, ← same]
        rfl
  · obtain ⟨service, n, extra, number, same⟩ := same
    obtain ⟨unit, has, added⟩ := first.exists_extra extra first.number_one
    rcases same with ⟨ownOther, rfl⟩ | ⟨other, extraOther, rfl⟩
    · obtain ⟨unitOther, hasOther, addedOther⟩ := second.exists_own ownOther number
      refine ⟨unit, unitOther, has, hasOther, ?_⟩
      rw [added, addedOther, if_neg plain, if_pos numbered, append_nil]
      rfl
    · obtain ⟨unitOther, hasOther, addedOther⟩ := second.exists_extra extraOther number
      refine ⟨unit, unitOther, has, hasOther, ?_⟩
      rw [added, addedOther, if_neg plain, if_pos numbered, append_nil]
      rfl

theorem Installed.addition_head (plugin : Installed) (unit : RunUnit) :
    plugin.addition unit = [] ∨ ∃ rest, plugin.addition unit = '-' :: rest := by
  simp only [Installed.addition]
  split_ifs <;> simp

theorem clashes_of_nameOf (has : first.Has unit) (hasOther : second.Has other) (differ : first.name ≠ second.name)
    (same : first.nameOf unit = second.nameOf other) : Clashes first second ∨ Clashes second first := by
  rw [first.nameOf_eq has, second.nameOf_eq hasOther] at same
  rcases append_eq_append_iff.mp same with ⟨more, longer, added⟩ | ⟨more, longer, added⟩
  · rcases first.addition_head unit with none | ⟨tail, some⟩
    · simp only [none, nil_eq_append_iff] at added
      simp [added.1, differ.symm] at longer
    · cases more with
      | nil => simp [differ.symm] at longer
      | cons c rest =>
        obtain rfl : '-' = c := (List.cons.inj (some.symm.trans added)).1
        exact .inl ⟨rest, longer, meets_of_addition has hasOther added⟩
  · rcases second.addition_head other with none | ⟨tail, some⟩
    · simp only [none, nil_eq_append_iff] at added
      simp [added.1, differ] at longer
    · cases more with
      | nil => simp [differ] at longer
      | cons c rest =>
        obtain rfl : '-' = c := (List.cons.inj (some.symm.trans added)).1
        exact .inr ⟨rest, longer, meets_of_addition hasOther has added⟩

theorem nameOf_of_clashes (clashes : Clashes first second) :
    ∃ unit other, first.Has unit ∧ second.Has other ∧ first.name ≠ second.name ∧
      first.nameOf unit = second.nameOf other := by
  obtain ⟨rest, longer, meets⟩ := clashes
  obtain ⟨unit, other, has, hasOther, same⟩ := addition_of_meets meets
  refine ⟨unit, other, has, hasOther, fun equal => ?_, ?_⟩
  · simp [equal] at longer
  · rw [first.nameOf_eq has, second.nameOf_eq hasOther, same, longer, append_assoc]

end Names

structure Managed where
  id : Nat
  names : List Text
  unit : RunUnit
deriving DecidableEq, Repr

/-- The runtime reports names with a leading slash. -/
def Managed.isNamed (container : Managed) (name : Text) : Bool :=
  container.names.any fun listed => listed = name || listed = '/' :: name

def findManagedContainerByName (containers : List Managed) (name : Text) : Option Managed :=
  containers.find? (·.isNamed name)

inductive ContainerAction where
  | adopt | stop | remove
deriving DecidableEq, Repr

/-- The answers `createInstance` gets: whether the listing and the inspection work, whether the
container that was found has the desired payload, and whether the create meets a conflict. -/
structure CreateAnswers where
  listed : Bool
  inspected : Bool
  matchesDesired : Bool
  conflict : Bool
deriving DecidableEq

def createInstance (containers : List Managed) (name : Text) (answers : CreateAnswers) :
    List (ContainerAction × Managed) :=
  let found := if answers.listed && answers.inspected then findManagedContainerByName containers name else none
  let create := if answers.conflict then
    ((findManagedContainerByName containers name).map fun container => (.remove, container)).toList else []
  match found with
  | none => create
  | some container =>
    if answers.matchesDesired then [(.adopt, container)] else (.stop, container) :: (.remove, container) :: create

theorem findManaged_of_createInstance {containers : List Managed} {name : Text} {answers : CreateAnswers}
    {action : ContainerAction} {container : Managed}
    (touched : (action, container) ∈ createInstance containers name answers) :
    findManagedContainerByName containers name = some container := by
  simp only [createInstance] at touched
  split at touched
  · split at touched
    · obtain ⟨found, lookup, same⟩ := Option.map_eq_some_iff.mp (Option.mem_toList.mp touched)
      cases same
      exact lookup
    · simp at touched
  · next found lookup =>
      split at lookup
      · split at touched
        · simp only [mem_singleton, Prod.mk.injEq] at touched
          rw [touched.2]
          exact lookup
        · rcases mem_cons.mp touched with first | touched
          · cases first
            exact lookup
          rcases mem_cons.mp touched with second | touched
          · cases second
            exact lookup
          split at touched
          · obtain ⟨again, relookup, same⟩ := Option.map_eq_some_iff.mp (Option.mem_toList.mp touched)
            cases same
            exact relookup
          · simp at touched
      · cases lookup

structure Installation where
  plugins : List Installed
  namesOnce : (plugins.map Installed.name).Nodup

def Installation.Names (installation : Installation) (containers : List Managed) : Prop :=
  ∀ container ∈ containers, ∃ plugin ∈ installation.plugins, plugin.Has container.unit ∧
    container.names = ['/' :: plugin.nameOf container.unit]

/-- Different units have different names, and creating a unit touches its own containers only. -/
structure Installation.Unambiguous (installation : Installation) : Prop where
  names : ∀ first ∈ installation.plugins, ∀ second ∈ installation.plugins, ∀ unit other, first.Has unit →
    second.Has other → first.nameOf unit = second.nameOf other → unit = other
  containers : ∀ plugin ∈ installation.plugins, ∀ unit, plugin.Has unit → ∀ containers,
    installation.Names containers → ∀ answers, ∀ touched ∈ createInstance containers (plugin.nameOf unit) answers,
      touched.2.unit = unit

theorem slash_not_mem_of_matchesName {text : Text} (valid : matchesName text = true) : '/' ∉ text := by
  intro member
  simp only [matchesName, Bool.and_eq_true] at valid
  exact absurd (all_eq_true.mp valid.1.1.2 '/' member) (by decide)

theorem Installed.slash_not_mem_nameOf {plugin : Installed} {unit : RunUnit} (has : plugin.Has unit) :
    '/' ∉ plugin.nameOf unit := by
  obtain ⟨service, listed, named⟩ := mem_map.mp has.2.1
  have inService : '/' ∉ unit.service :=
    named ▸ slash_not_mem_of_matchesName (plugin.valid.services service listed).name
  have inName : '/' ∉ plugin.name := slash_not_mem_of_matchesName plugin.valid.name
  have inNumber : '/' ∉ decimal unit.instNum := not_mem_decimal (by decide)
  rw [plugin.nameOf_eq has, Installed.addition]
  split_ifs <;> simp [inService, inName, inNumber]

theorem Installation.eq_of_name {installation : Installation} {first second : Installed}
    (left : first ∈ installation.plugins) (right : second ∈ installation.plugins) (same : first.name = second.name) :
    first = second :=
  inj_on_of_nodup_map installation.namesOnce left right same

theorem Installation.units_of_names {installation : Installation}
    (apart : ∀ first ∈ installation.plugins, ∀ second ∈ installation.plugins, ¬ Clashes first second)
    {first second : Installed} (left : first ∈ installation.plugins) (right : second ∈ installation.plugins)
    {unit other : RunUnit} (has : first.Has unit) (hasOther : second.Has other)
    (same : first.nameOf unit = second.nameOf other) : unit = other := by
  by_cases differ : first.name = second.name
  · obtain rfl := installation.eq_of_name left right differ
    rw [first.nameOf_eq has, first.nameOf_eq hasOther] at same
    exact first.addition_inj has hasOther (append_cancel_left same)
  · rcases clashes_of_nameOf has hasOther differ same with clashes | clashes
    · exact absurd clashes (apart first left second right)
    · exact absurd clashes (apart second right first left)

theorem Installation.unit_of_found {installation : Installation} {containers : List Managed}
    (named : installation.Names containers) {plugin : Installed} {unit : RunUnit} (has : plugin.Has unit)
    {container : Managed} (found : findManagedContainerByName containers (plugin.nameOf unit) = some container) :
    ∃ owner ∈ installation.plugins, owner.Has container.unit ∧ owner.nameOf container.unit = plugin.nameOf unit := by
  obtain ⟨owner, listed, owns, names⟩ := named container (mem_of_find?_eq_some found)
  refine ⟨owner, listed, owns, ?_⟩
  have isNamed := List.find?_some found
  simp only [Managed.isNamed, names, any_cons, any_nil, Bool.or_false, Bool.or_eq_true,
    decide_eq_true_eq] at isNamed
  rcases isNamed with bare | slashed
  · exact absurd (bare ▸ mem_cons_self) (plugin.slash_not_mem_nameOf has)
  · exact (List.cons.inj slashed).2

/-- For every set of installed plugins with valid manifests, at any counts. -/
theorem container_names_unambiguous_iff (installation : Installation) :
    installation.Unambiguous ↔
      ∀ first ∈ installation.plugins, ∀ second ∈ installation.plugins, ¬ Clashes first second := by
  constructor
  · intro unambiguous first left second right clashes
    obtain ⟨unit, other, has, hasOther, differ, same⟩ := nameOf_of_clashes clashes
    have equal := unambiguous.names first left second right unit other has hasOther same
    exact differ (has.1.symm.trans (equal ▸ hasOther.1))
  · intro apart
    refine ⟨fun first left second right unit other => installation.units_of_names apart left right, ?_⟩
    rintro plugin listed unit has containers named answers ⟨action, container⟩ touched
    obtain ⟨owner, ownerListed, owns, same⟩ :=
      installation.unit_of_found named has (findManaged_of_createInstance touched)
    exact installation.units_of_names apart ownerListed listed owns has same

/-- A service with a name and an image. -/
def plainService (name : Text) : Service where
  name := name
  artifact := ⟨.ociImage, "image", [], [], [], [], [], []⟩
  containerRefs := []
  container := ⟨[], [], [], []⟩
  volumes := []
  ports := []
  config := []
  dependsOn := []
  health := none

def plainManifest (name : Text) (services : List Text) : Manifest where
  apiVersion := "smoothnas.io/v1"
  kind := "Plugin"
  name := name
  version := "1.0.0"
  count := 1
  configurable := true
  uiAuth := none
  services := services.map plainService
  legacy := none
  isCompose := false

def anyResource : ResourceSyntax := ⟨fun _ => none, fun _ => none⟩

/-- Creating the second plugin stops and removes a container of the first, and the first instance of
a plugin scaled to two has the name of a plugin that ends in its number. -/
theorem container_names_collide :
    (validateManifest anyResource (plainManifest "db" ["db", "cache"]) = [] ∧
      validateManifest anyResource (plainManifest "db-cache" ["db-cache"]) = []) ∧
    containerName "db" "cache" 1 1 = containerName "db-cache" "db-cache" 1 1 ∧
    (createInstance [⟨7, ["/db-cache"], ⟨"db", "cache", 1⟩⟩]
        (containerName "db-cache" "db-cache" 1 1) ⟨true, true, false, false⟩).map Prod.fst =
      [.stop, .remove] ∧
    containerName "db" "db" 1 2 = containerName "db-1" "db-1" 1 1 := by
  decide

end Tierd.Plugin
