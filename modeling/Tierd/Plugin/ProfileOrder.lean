import Tierd.Plugin.ProfileMerge

namespace Tierd.Plugin.Profiles

open Tierd.Data List

@[ext]
structure Outcome where
  devices : Multiset ProfileDevice
  capAdd : Finset Text
  memory : Int
  pidsLimit : Int
  oomScoreAdj : Option Int
  env : Text → Option Text
  lxcRaw : Finset Text
  names : Multiset Text
  preflightWarnings : Multiset Text

def Resolved.outcome (resolved : Resolved) : Outcome where
  devices := resolved.devices
  capAdd := resolved.capAdd.toFinset
  memory := resolved.memory
  pidsLimit := resolved.pidsLimit
  oomScoreAdj := resolved.oomScoreAdj
  env := resolved.env
  lxcRaw := resolved.lxcRaw.toFinset
  names := resolved.names
  preflightWarnings := resolved.preflightWarnings

variable {statHost : StatHost} {catalog : Catalog}

def Profile.warnings (statHost : StatHost) (profile : Profile) : List Text :=
  (profile.hostHas.filter (·.drops statHost)).map (warning statHost profile.name)

def Outcome.settle (statHost : StatHost) (outcome : Outcome) (profile : Profile) : Outcome where
  devices := (outcome.devices + profile.devices).filter fun device => profile.misses statHost device.path = false
  capAdd := outcome.capAdd ∪ profile.capAdd.toFinset
  memory := if profile.memory ≠ 0 then profile.memory else outcome.memory
  pidsLimit := if profile.pidsLimit ≠ 0 then profile.pidsLimit else outcome.pidsLimit
  oomScoreAdj := profile.oomScoreAdj.or outcome.oomScoreAdj
  env := fun key => (profile.env key).or (outcome.env key)
  lxcRaw := (outcome.lxcRaw ∪ profile.rawConfig.toFinset).filter fun line => profile.missesMount statHost line = false
  names := outcome.names
  preflightWarnings := outcome.preflightWarnings + profile.warnings statHost

theorem outcome_settle (resolved : Resolved) (profile : Profile) :
    (settle statHost resolved profile).outcome = resolved.outcome.settle statHost profile := by
  have devices : (settle statHost resolved profile).devices =
      (resolved.devices ++ profile.devices).filter fun device => !profile.misses statHost device.path := rfl
  have lines : (settle statHost resolved profile).lxcRaw =
      (appendNew resolved.lxcRaw profile.rawConfig).filter fun line => !profile.missesMount statHost line := rfl
  have caps : (settle statHost resolved profile).capAdd = appendNew resolved.capAdd profile.capAdd := rfl
  refine Outcome.ext ?_ ?_ rfl rfl rfl rfl ?_ rfl rfl
  · simp only [Resolved.outcome, Outcome.settle, devices, Multiset.coe_add, Multiset.filter_coe, Multiset.coe_eq_coe]
    refine List.Perm.of_eq (filter_congr fun device _ => ?_)
    cases profile.misses statHost device.path <;> rfl
  · ext text
    simp [Resolved.outcome, Outcome.settle, caps, mem_appendNew]
  · ext text
    simp [Resolved.outcome, Outcome.settle, lines, mem_appendNew]

structure Profile.DisjointFrom (first second : Profile) : Prop where
  devices : ∀ device ∈ first.devices, device ∉ second.devices
  rawConfig : ∀ line ∈ first.rawConfig, line ∉ second.rawConfig
  env : ∀ key, first.env key = none ∨ second.env key = none
  memory : first.memory = 0 ∨ second.memory = 0
  pidsLimit : first.pidsLimit = 0 ∨ second.pidsLimit = 0
  oomScoreAdj : first.oomScoreAdj = none ∨ second.oomScoreAdj = none

structure Profile.Spares (statHost : StatHost) (first second : Profile) : Prop where
  devices : ∀ device ∈ first.devices, second.misses statHost device.path = true →
    first.misses statHost device.path = true
  rawConfig : ∀ line ∈ first.rawConfig, second.missesMount statHost line = true → first.missesMount statHost line = true

/-- The devices that the profile keeps. -/
def Profile.kept (statHost : StatHost) (profile : Profile) : Multiset ProfileDevice :=
  (profile.devices : Multiset ProfileDevice).filter fun device => profile.misses statHost device.path = false

theorem Profile.Spares.filter_kept {first second : Profile} (spares : first.Spares statHost second) :
    (first.kept statHost).filter (fun device => second.misses statHost device.path = false) = first.kept statHost := by
  refine Multiset.filter_eq_self.mpr fun device kept => Bool.eq_false_iff.mpr fun dropped => ?_
  obtain ⟨own, accepted⟩ := Multiset.mem_filter.mp kept
  exact Bool.false_ne_true (accepted.symm.trans (spares.devices device (Multiset.mem_coe.mp own) dropped))

theorem Outcome.settle_comm (outcome : Outcome) {first second : Profile} (disjoint : first.DisjointFrom second)
    (spares : first.Spares statHost second) (spared : second.Spares statHost first) :
    (outcome.settle statHost first).settle statHost second = (outcome.settle statHost second).settle
      statHost first := by
  refine Outcome.ext ?_ ?_ ?_ ?_ ?_ ?_ ?_ rfl ?_
  · have ownFirst := spares.filter_kept
    have ownSecond := spared.filter_kept
    unfold Profile.kept at ownFirst ownSecond
    simp only [Outcome.settle, Multiset.filter_add, ownFirst, ownSecond]
    rw [Multiset.filter_comm, add_right_comm]
  · simp only [Outcome.settle, Finset.union_right_comm]
  · simp only [Outcome.settle]
    rcases disjoint.memory with unset | unset <;> simp [unset]
  · simp only [Outcome.settle]
    rcases disjoint.pidsLimit with unset | unset <;> simp [unset]
  · simp only [Outcome.settle]
    rcases disjoint.oomScoreAdj with unset | unset <;> simp [unset]
  · funext key
    simp only [Outcome.settle]
    rcases disjoint.env key with unset | unset <;> simp [unset]
  · ext line
    have one := spares.rawConfig line
    have other := spared.rawConfig line
    simp only [Outcome.settle, Finset.mem_filter, Finset.mem_union, mem_toFinset]
    cases atFirst : first.missesMount statHost line <;> cases atSecond : second.missesMount statHost line <;>
      simp_all [or_right_comm]
  · simp only [Outcome.settle]
    rw [add_right_comm]

def Profile.Commutes (statHost : StatHost) (first second : Profile) : Prop :=
  first.Spares statHost second ∧ second.Spares statHost first

theorem foldl_settle_perm {profiles order : List Profile} (start : Outcome) (permuted : profiles.Perm order)
    (disjoint : profiles.Pairwise Profile.DisjointFrom) (commute : profiles.Pairwise (Profile.Commutes statHost)) :
    profiles.foldl (Outcome.settle statHost) start = order.foldl (Outcome.settle statHost) start := by
  refine permuted.foldl_eq' (fun first listed second too outcome => ?_) start
  have both := disjoint.and commute
  have symmetric : Std.Symm fun one other : Profile => one.DisjointFrom other ∧ one.Commutes statHost other := by
    refine ⟨fun one other ⟨apart, spares, spared⟩ => ⟨?_, spared, spares⟩⟩
    exact ⟨fun device one other => apart.devices device other one, fun line one other => apart.rawConfig line other one,
      fun key => (apart.env key).symm, apart.memory.symm, apart.pidsLimit.symm, apart.oomScoreAdj.symm⟩
  by_cases same : first = second
  · rw [same]
  · obtain ⟨apart, spares, spared⟩ := both.forall listed too same
    exact outcome.settle_comm apart spares spared

theorem outcome_foldl_settle (profiles : List Profile) (start : Resolved) :
    (profiles.foldl (settle statHost) start).outcome = profiles.foldl (Outcome.settle statHost) start.outcome :=
  (foldl_hom Resolved.outcome fun resolved profile => (outcome_settle resolved profile).symm).symm

/-- The default limits, where they are put in front. -/
def injected (catalog : Catalog) (declared : List Text) : List Text :=
  if (orderProfiles declared).2 = false ∧ (catalog defaultLimits).isSome ∧
    defaultLimits ∉ (orderProfiles declared).1 then
    [defaultLimits]
  else []

theorem appliedNames_eq (declared : List Text) :
    appliedNames catalog declared = injected catalog declared ++ (orderProfiles declared).1 := by
  unfold appliedNames injected
  dsimp only
  split <;> rfl

variable {declared : List Text}

theorem orderProfiles_perm {order : List Text} (permuted : order.Perm declared) :
    (orderProfiles order).1.Perm (orderProfiles declared).1 :=
  permuted.filter _

theorem injected_perm {order : List Text} (permuted : order.Perm declared) :
    injected catalog order = injected catalog declared := by
  have marker : (orderProfiles order).2 = (orderProfiles declared).2 := by simp only [orderProfiles, permuted.mem_iff]
  have listed : defaultLimits ∈ (orderProfiles order).1 ↔ defaultLimits ∈ (orderProfiles declared).1 :=
    (orderProfiles_perm permuted).mem_iff
  simp only [injected, marker, listed]

theorem appliedNames_perm {order : List Text} (permuted : order.Perm declared) :
    (appliedNames catalog order).Perm (appliedNames catalog declared) := by
  rw [appliedNames_eq, appliedNames_eq, injected_perm permuted]
  exact (orderProfiles_perm permuted).append_left _

theorem resolve_perm {order : List Text} {result : Resolved}
    (resolved : resolve statHost catalog declared = .ok result) (permuted : order.Perm declared) :
    resolve statHost catalog order = .ok ((appliedProfiles catalog (appliedNames catalog order)).foldl (settle statHost)
      (nothingMerged (appliedNames catalog order))) := by
  refine resolve_eq_ok.mpr ⟨fun name listed => ?_, rfl⟩
  exact (resolve_eq_ok.mp resolved).1 name ((appliedNames_perm permuted).mem_iff.mp listed)

/-- All orders of the declared profiles resolve to the same, up to the order of the lists. -/
def OrderIrrelevant (statHost : StatHost) (catalog : Catalog) (declared : List Text) (result : Resolved) : Prop :=
  ∀ order, order.Perm declared → ∃ other, resolve statHost catalog order = .ok other ∧ other.outcome = result.outcome

abbrev declaredProfiles (catalog : Catalog) (declared : List Text) : List Profile :=
  appliedProfiles catalog (orderProfiles declared).1

theorem orderIrrelevant_of_commutes {result : Resolved}
    (resolved : resolve statHost catalog declared = .ok result)
    (disjoint : (declaredProfiles catalog declared).Pairwise Profile.DisjointFrom)
    (commute : (declaredProfiles catalog declared).Pairwise (Profile.Commutes statHost)) :
    OrderIrrelevant statHost catalog declared result := by
  intro order permuted
  refine ⟨_, resolve_perm resolved permuted, ?_⟩
  obtain ⟨_, rfl⟩ := resolve_eq_ok.mp resolved
  have start : (nothingMerged (appliedNames catalog order)).outcome =
    (nothingMerged (appliedNames catalog declared)).outcome :=
    Outcome.ext rfl rfl rfl rfl rfl rfl rfl (Multiset.coe_eq_coe.mpr (appliedNames_perm permuted)) rfl
  rw [outcome_foldl_settle, outcome_foldl_settle, start, appliedNames_eq, appliedNames_eq, injected_perm permuted]
  simp only [appliedProfiles, filterMap_append, foldl_append]
  exact (foldl_settle_perm _ ((orderProfiles_perm permuted).symm.filterMap catalog) disjoint commute).symm

theorem exists_order_ending {first second : Text}
    (pair : [first, second].Sublist (orderProfiles declared).1) :
    ∃ rest, ∀ last, last.Perm [first, second] → ∃ order, order.Perm declared ∧
      (orderProfiles order).1 = rest ++ last := by
  obtain ⟨rest, names⟩ := pair.exists_perm_append
  refine ⟨rest, fun last ending => ⟨declared.filter (· = optOut) ++ (rest ++ last), ?_, ?_⟩⟩
  · have reordered : (rest ++ last).Perm (orderProfiles declared).1 :=
      ((ending.append_left rest).trans perm_append_comm).trans names.symm
    refine (reordered.append_left _).trans ?_
    simpa only [orderProfiles, decide_not] using filter_append_perm (fun name => decide (name = optOut)) declared
  · have unmarked : ∀ name ∈ rest ++ last, name ≠ optOut := by
      intro name listed
      have declaredToo : name ∈ (orderProfiles declared).1 := by
        refine names.mem_iff.mpr ?_
        rcases mem_append.mp listed with earlier | later
        · exact mem_append_right _ earlier
        · exact mem_append_left _ (ending.mem_iff.mp later)
      exact of_decide_eq_true (mem_filter.mp declaredToo).2
    have markers : (declared.filter (· = optOut)).filter (· ≠ optOut) = [] := by
      simp [filter_filter]
    have kept : (rest ++ last).filter (· ≠ optOut) = rest ++ last :=
      filter_eq_self.mpr fun name listed => decide_eq_true (unmarked name listed)
    rw [orderProfiles, filter_append, markers, kept, nil_append]

theorem mem_devices_settle {below : Resolved} {profile : Profile} {device : ProfileDevice} :
    device ∈ (settle statHost below profile).devices ↔
      (device ∈ below.devices ∨ device ∈ profile.devices) ∧ profile.misses statHost device.path = false := by
  have devices : (settle statHost below profile).devices =
      (below.devices ++ profile.devices).filter fun device => !profile.misses statHost device.path := rfl
  rw [devices, mem_filter, mem_append, Bool.not_eq_true']

theorem mem_lxcRaw_settle {below : Resolved} {profile : Profile} {line : Text} :
    line ∈ (settle statHost below profile).lxcRaw ↔
      (line ∈ below.lxcRaw ∨ line ∈ profile.rawConfig) ∧ profile.missesMount statHost line = false := by
  have lines : (settle statHost below profile).lxcRaw =
      (appendNew below.lxcRaw profile.rawConfig).filter fun line => !profile.missesMount statHost line := rfl
  rw [lines, mem_filter, mem_appendNew, Bool.not_eq_true']

theorem spares_of_outcome_eq {below other : Resolved} {first second : Profile}
    (same : (settle statHost below second).outcome = (settle statHost other first).outcome) :
    first.Spares statHost second := by
  constructor
  · intro device own dropped
    by_contra kept
    have there : device ∈ (settle statHost other first).devices :=
      mem_devices_settle.mpr ⟨.inr own, Bool.eq_false_iff.mpr kept⟩
    have devices := Multiset.coe_eq_coe.mp (congrArg Outcome.devices same)
    exact Bool.false_ne_true ((mem_devices_settle.mp (devices.mem_iff.mpr there)).2.symm.trans dropped)
  · intro line own dropped
    by_contra kept
    have there : line ∈ (settle statHost other first).lxcRaw :=
      mem_lxcRaw_settle.mpr ⟨.inr own, Bool.eq_false_iff.mpr kept⟩
    have lines : (settle statHost below second).lxcRaw.toFinset = (settle statHost other first).lxcRaw.toFinset :=
      congrArg Outcome.lxcRaw same
    have here : line ∈ (settle statHost below second).lxcRaw := by
      rw [← mem_toFinset, lines, mem_toFinset]
      exact there
    exact Bool.false_ne_true ((mem_lxcRaw_settle.mp here).2.symm.trans dropped)

theorem commutes_of_orderIrrelevant {result : Resolved}
    (irrelevant : OrderIrrelevant statHost catalog declared result) :
    (declaredProfiles catalog declared).Pairwise (Profile.Commutes statHost) := by
  refine pairwise_filterMap.mpr (pairwise_iff_forall_sublist.mpr ?_)
  intro one other pair first isFirst second isSecond
  obtain ⟨rest, ending⟩ := exists_order_ending pair
  have last : ∀ (names : List Text) (profiles : List Profile), names.Perm [one, other] →
    names.filterMap catalog = profiles →
      ∃ below, (profiles.foldl (settle statHost) below).outcome = result.outcome := by
    rintro names profiles permuted rfl
    obtain ⟨order, reordered, ends⟩ := ending names permuted
    obtain ⟨reached, resolved, same⟩ := irrelevant order reordered
    obtain ⟨_, rfl⟩ := resolve_eq_ok.mp resolved
    rw [appliedNames_eq, ends] at same
    simp only [appliedProfiles, filterMap_append, foldl_append] at same
    exact ⟨_, same⟩
  obtain ⟨_, forwards⟩ := last [one, other] [first, second] (List.Perm.refl _) (by simp [isFirst, isSecond])
  obtain ⟨_, backwards⟩ := last [other, one] [second, first] (List.Perm.swap _ _ _) (by simp [isFirst, isSecond])
  have same := forwards.trans backwards.symm
  exact ⟨spares_of_outcome_eq same, spares_of_outcome_eq same.symm⟩

def Spotless (statHost : StatHost) (profiles : List Profile) (result : Resolved) : Prop :=
  ∀ profile ∈ profiles, ∀ check ∈ profile.hostHas, check.isOptional = true → check.fails statHost = true →
    (∀ device ∈ result.devices, device.path ≠ check.path) ∧
      ∀ line ∈ result.lxcRaw, lxcMountEntryUsesHostPath line check.path = false

structure MissedLast (statHost : StatHost) (profiles : List Profile) : Prop where
  devices : ∀ device : ProfileDevice, (∃ profile ∈ profiles, profile.misses statHost device.path = true) →
    ∀ later ∈ sinceRejected (fun profile device => Profile.misses statHost profile device.path) device profiles,
      device ∉ later.devices
  rawConfig : ∀ line : Text, (∃ profile ∈ profiles, profile.missesMount statHost line = true) →
    ∀ later ∈ sinceRejected (Profile.missesMount statHost) line profiles, line ∉ later.rawConfig

def DeclaredOnce (statHost : StatHost) (profiles : List Profile) : Prop :=
  ∀ device : ProfileDevice, ((sinceRejected (fun profile device => Profile.misses statHost profile device.path) device
    profiles).flatMap Profile.devices).count device ≤ 1

section Entries

variable {profiles : List Profile} {names : List Text}

theorem mem_devices_merged {device : ProfileDevice} :
    device ∈ (profiles.foldl (settle statHost) (nothingMerged names)).devices ↔
      ∃ later ∈ sinceRejected (fun profile device => Profile.misses statHost profile device.path) device profiles,
        device ∈ later.devices := by
  rw [devices_foldl_settle, mem_layered fun _ _ _ => mem_append]

theorem mem_lxcRaw_merged {line : Text} :
    line ∈ (profiles.foldl (settle statHost) (nothingMerged names)).lxcRaw ↔
      ∃ later ∈ sinceRejected (Profile.missesMount statHost) line profiles, line ∈ later.rawConfig := by
  rw [lxcRaw_foldl_settle, mem_layered mem_appendNew]

theorem misses_iff {profile : Profile} {path : Text} :
    profile.misses statHost path = true ↔
      ∃ check ∈ profile.hostHas, check.isOptional = true ∧ check.fails statHost = true ∧ path = check.path := by
  simp [Profile.misses, PreflightCheck.drops, and_assoc, and_left_comm, and_comm]

theorem missesMount_iff {profile : Profile} {line : Text} :
    profile.missesMount statHost line = true ↔
      ∃ check ∈ profile.hostHas, check.isOptional = true ∧ check.fails statHost = true ∧
        lxcMountEntryUsesHostPath line check.path = true := by
  simp [Profile.missesMount, PreflightCheck.drops, and_assoc, and_comm]

theorem spotless_iff :
    Spotless statHost profiles (profiles.foldl (settle statHost) (nothingMerged names)) ↔
      MissedLast statHost profiles := by
  constructor
  · intro spotless
    constructor
    · rintro device ⟨profile, applied, missed⟩ later since own
      obtain ⟨check, listed, optional, fails, at_⟩ := misses_iff.mp missed
      exact (spotless profile applied check listed optional fails).1 device
        (mem_devices_merged.mpr ⟨later, since, own⟩) at_
    · rintro line ⟨profile, applied, missed⟩ later since own
      obtain ⟨check, listed, optional, fails, uses⟩ := missesMount_iff.mp missed
      have free := (spotless profile applied check listed optional fails).2 line
        (mem_lxcRaw_merged.mpr ⟨later, since, own⟩)
      exact Bool.false_ne_true (free.symm.trans uses)
  · intro missedLast profile applied check listed optional fails
    constructor
    · intro device there at_
      obtain ⟨later, since, own⟩ := mem_devices_merged.mp there
      exact missedLast.devices device ⟨profile, applied, misses_iff.mpr ⟨check, listed, optional, fails, at_⟩⟩
        later since own
    · intro line there
      obtain ⟨later, since, own⟩ := mem_lxcRaw_merged.mp there
      refine Bool.eq_false_iff.mpr fun uses => ?_
      exact missedLast.rawConfig line
        ⟨profile, applied, missesMount_iff.mpr ⟨check, listed, optional, fails, uses⟩⟩ later
        since own

theorem once_iff :
    ((profiles.foldl (settle statHost) (nothingMerged names)).devices.Nodup ∧
        (profiles.foldl (settle statHost) (nothingMerged names)).lxcRaw.Nodup) ↔ DeclaredOnce statHost profiles := by
  have lines : (profiles.foldl (settle statHost) (nothingMerged names)).lxcRaw.Nodup := by
    rw [lxcRaw_foldl_settle]
    exact nodup_layered_appendNew
  rw [and_iff_left lines, devices_foldl_settle, nodup_iff_count_le_one]
  simp only [count_layered_append, DeclaredOnce]

end Entries

/-- What `Resolve` returns, for every list of profiles and every host: the entries have no path that
an optional check found missing exactly if no later profile declares it again, each entry is there
once exactly if no device is declared twice, and the order of profiles without common entries is
irrelevant exactly if none of them drops what another one declares. -/
theorem resolved_entries_iff {declared : List Text} {result : Resolved}
    (resolved : resolve statHost catalog declared = .ok result) :
    (Spotless statHost (appliedProfiles catalog (appliedNames catalog declared)) result ↔
      MissedLast statHost (appliedProfiles catalog (appliedNames catalog declared))) ∧
    (result.devices.Nodup ∧ result.lxcRaw.Nodup ↔
      DeclaredOnce statHost (appliedProfiles catalog (appliedNames catalog declared))) ∧
    ((declaredProfiles catalog declared).Pairwise Profile.DisjointFrom →
      (OrderIrrelevant statHost catalog declared result ↔
        (declaredProfiles catalog declared).Pairwise (Profile.Commutes statHost))) := by
  refine ⟨?_, ?_, fun disjoint => ⟨commutes_of_orderIrrelevant, orderIrrelevant_of_commutes resolved disjoint⟩⟩
  · obtain ⟨_, rfl⟩ := resolve_eq_ok.mp resolved
    exact spotless_iff
  · obtain ⟨_, rfl⟩ := resolve_eq_ok.mp resolved
    exact once_iff

def devicesOnly (name path : Text) (hostHas : List PreflightCheck) : Profile where
  name := name
  env := fun _ => none
  devices := if path = [] then [] else [⟨path, "rwm"⟩]
  capAdd := []
  memory := 0
  pidsLimit := 0
  oomScoreAdj := none
  rawConfig := []
  hostHas := hostHas

def kfd : Text := "/dev/kfd"

/-- A host without ROCm devices. -/
def withoutKfd : StatHost := fun path => if path = kfd then some "no such file or directory" else none

def gpu : Profile := devicesOnly "gpu" "/dev/dri" []

def rocm : Profile := devicesOnly "rocm" kfd [⟨kfd, .optional⟩]

def smallCatalog : Catalog := fun name =>
  if name = "gpu" then some gpu
  else if name = "rocm" then some rocm
  else if name = "compute" then some (devicesOnly name kfd [])
  else if name = "probe" then some (devicesOnly name [] [⟨kfd, .optional⟩])
  else none

theorem missing_device_dropped :
    MissedLast withoutKfd [rocm, gpu] ∧ DeclaredOnce withoutKfd [rocm, gpu] ∧
      OrderIrrelevant withoutKfd smallCatalog ["rocm", "gpu"]
        ([rocm, gpu].foldl (settle withoutKfd) (nothingMerged ["rocm", "gpu"])) := by
  have resolved : resolve withoutKfd smallCatalog ["rocm", "gpu"] =
      .ok ([rocm, gpu].foldl (settle withoutKfd) (nothingMerged ["rocm", "gpu"])) := rfl
  have disjoint : rocm.DisjointFrom gpu :=
    ⟨by decide, by decide, fun _ => .inl rfl, .inl rfl, .inl rfl, .inl rfl⟩
  have commutes : rocm.Commutes withoutKfd gpu := ⟨⟨by decide, by decide⟩, ⟨by decide, by decide⟩⟩
  obtain ⟨spotless, once, order⟩ := resolved_entries_iff resolved
  refine ⟨spotless.mp ?_, once.mp (by decide), (order ?_).mpr ?_⟩
  · intro profile applied check listed
    revert profile check
    decide
  · exact pairwise_pair.mpr disjoint
  · exact pairwise_pair.mpr commutes

/-- The check of the first profile misses the device, and the second profile declares it
nevertheless. -/
theorem missing_device_kept :
    ¬ ∀ (statHost : StatHost) (catalog : Catalog) (declared : List Text) (result : Resolved),
      resolve statHost catalog declared = .ok result →
        Spotless statHost (appliedProfiles catalog (appliedNames catalog declared)) result := by
  intro spotless
  have found := spotless withoutKfd smallCatalog ["probe", "compute"] _ rfl
    (devicesOnly "probe" [] [⟨kfd, .optional⟩]) mem_cons_self ⟨kfd, .optional⟩ mem_cons_self rfl rfl
  exact found.1 ⟨kfd, "rwm"⟩ mem_cons_self rfl

end Tierd.Plugin.Profiles
