import Tierd.Data.Graphs
import Tierd.Plugin.ContainerNames
import Tierd.Plugin.Tables

namespace Tierd.Plugin

open Tierd.Data List

/-- A service of the manifest names another one, or itself, among those it depends on. -/
def DependsOn (services : List Service) (service dep : Text) : Prop :=
  (∃ declared ∈ services, declared.name = service ∧ dep ∈ declared.dependsOn.map Prod.fst) ∧
    dep ∈ services.map Service.name

/-- A service has to be started after another one. -/
def Awaits (services : List Service) (service dep : Text) : Prop := DependsOn services service dep ∧ dep ≠ service

section Graph

variable {services : List Service}

theorem mem_dependencies (once : (services.map Service.name).Nodup) {service dep : Text} :
    dep ∈ dependencies services service ↔ Awaits services service dep := by
  unfold dependencies Awaits DependsOn
  cases found : services.reverse.find? fun other => decide (other.name = service) with
  | none =>
    refine ⟨fun member => absurd member not_mem_nil, ?_⟩
    rintro ⟨⟨⟨declared, listed, named, -⟩, -⟩, -⟩
    exact absurd named (by simpa using List.find?_eq_none.mp found declared (mem_reverse.mpr listed))
  | some owner =>
    have named : owner.name = service := by simpa using List.find?_some found
    have listed := mem_reverse.mp (mem_of_find?_eq_some found)
    simp only [mem_insertionSort, mem_filter, decide_eq_true_eq]
    constructor
    · rintro ⟨declared, known, other⟩
      exact ⟨⟨⟨owner, listed, named, declared⟩, known⟩, other⟩
    · rintro ⟨⟨⟨declared, alsoListed, alsoNamed, depends⟩, known⟩, other⟩
      obtain rfl := inj_on_of_nodup_map once alsoListed listed (alsoNamed.trans named.symm)
      exact ⟨depends, known, other⟩

end Graph

section Search

variable {ι ε : Type} {edge : Text → Text → Prop} {key : ι → Text} {search : List Text → ι → Except ε (List Text)}

theorem foldlM_settled {items : List ι} {black after : List Text}
    (step : ∀ item ∈ items, ∀ black after, Settled edge black → search black item = .ok after →
      Settled edge after ∧ black ⊆ after ∧ key item ∈ after)
    (settled : Settled edge black) (searched : items.foldlM search black = .ok after) :
    Settled edge after ∧ black ⊆ after ∧ ∀ item ∈ items, key item ∈ after := by
  induction items generalizing black with
  | nil =>
    obtain rfl := pure_eq_ok.mp searched
    exact ⟨settled, List.Subset.refl _, by simp⟩
  | cons item rest ih =>
    rw [foldlM_cons, bind_eq_ok] at searched
    obtain ⟨middle, first, later⟩ := searched
    obtain ⟨settledMiddle, grown, reached⟩ := step item mem_cons_self black middle settled first
    obtain ⟨settledAfter, more, all⟩ :=
      ih (fun other member => step other (mem_cons_of_mem item member)) settledMiddle later
    exact ⟨settledAfter, List.Subset.trans grown more, forall_mem_cons.mpr ⟨more reached, all⟩⟩

theorem foldlM_error {bad : ε → Prop} {items : List ι} {black : List Text} {error : ε}
    (step : ∀ item ∈ items, ∀ black error, search black item = .error error → bad error)
    (failed : items.foldlM search black = .error error) : bad error := by
  induction items generalizing black with
  | nil => cases failed
  | cons item rest ih =>
    rw [foldlM_cons, bind_eq_error] at failed
    rcases failed with first | ⟨middle, -, later⟩
    · exact step item mem_cons_self black error first
    · exact ih (fun other member => step other (mem_cons_of_mem item member)) later

end Search

section Visit

variable {graph : Text → List Text} {vertices : List Text}

/-- The path holds each service once, so the depth is enough. -/
theorem visit_settled (known : ∀ name, graph name ⊆ vertices) {depth : Nat} {path black after : List Text}
    {name : Text} (once : (path ++ [name]).Nodup) (inside : path ++ [name] ⊆ vertices)
    (enough : vertices.length < depth + path.length) (settled : Settled (fun name dep => dep ∈ graph name) black)
    (visited : visit graph depth path black name = .ok after) :
    Settled (fun name dep => dep ∈ graph name) after ∧ black ⊆ after ∧ name ∈ after := by
  induction depth generalizing path black after name with
  | zero =>
    have short := (once.subperm inside).length_le
    rw [length_append] at short
    omega
  | succ depth ih =>
    rw [visit, bind_eq_ok] at visited
    obtain ⟨explored, searched, finished⟩ := visited
    obtain rfl := pure_eq_ok.mp finished
    obtain ⟨settledExplored, grown, reached⟩ : Settled (fun name dep => dep ∈ graph name) explored ∧
        black ⊆ explored ∧ ∀ dep ∈ graph name, dep ∈ explored := by
      refine foldlM_settled (fun dep listed before found settledBefore outcome => ?_) settled searched
      split at outcome
      case isTrue => cases outcome
      case isFalse offPath =>
        split at outcome
        case isTrue finished =>
          cases outcome
          exact ⟨settledBefore, List.Subset.refl _, finished⟩
        case isFalse =>
          refine ih ?_ ?_ ?_ settledBefore outcome
          · refine nodup_append.mpr ⟨once, nodup_singleton dep, fun other member last single same => ?_⟩
            rw [mem_singleton.mp single] at same
            exact offPath (same ▸ member)
          · exact append_subset.mpr ⟨inside, cons_subset.mpr ⟨known name listed, nil_subset _⟩⟩
          · rw [length_append, length_singleton]
            omega
    exact ⟨.cons reached settledExplored, List.Subset.trans grown (subset_cons_self _ _), mem_cons_self⟩

/-- The path is a walk, so an edge back to it closes a cycle. -/
theorem visit_cycle {depth : Nat} {path black cycle : List Text} {name : Text}
    (walk : (path ++ [name]).IsChain fun name dep => dep ∈ graph name)
    (visited : visit graph depth path black name = .error cycle) :
    IsCycle (fun name dep => dep ∈ graph name) cycle := by
  induction depth generalizing path black cycle name with
  | zero => cases visited
  | succ depth ih =>
    rw [visit, bind_eq_error] at visited
    rcases visited with searched | ⟨_, -, finished⟩
    · refine foldlM_error (fun dep listed black error found => ?_) searched
      split at found
      case isTrue onPath =>
        obtain rfl := Except.error.inj found
        exact isCycle_dropWhile walk listed onPath
      case isFalse =>
        split at found
        case isTrue => cases found
        case isFalse =>
          refine ih ?_ found
          exact isChain_append.mpr ⟨walk, isChain_singleton dep, by simpa using listed⟩
    · cases finished

end Visit

section Cycles

variable {services : List Service} (once : (services.map Service.name).Nodup)
include once

theorem mem_dependencies_eq : (fun name dep => dep ∈ dependencies services name) = Awaits services :=
  funext₂ fun _ _ => propext (mem_dependencies once)

theorem settled_of_dependsCycle (clear : dependsCycle services = none) :
    ∃ black, Settled (Awaits services) black ∧ ∀ service ∈ services, service.name ∈ black := by
  unfold dependsCycle at clear
  dsimp only at clear
  split at clear
  case h_2 => cases clear
  case h_1 black searched =>
    rw [← mem_dependencies_eq once]
    obtain ⟨settled, -, all⟩ : Settled (fun name dep => dep ∈ dependencies services name) black ∧ [] ⊆ black ∧
        ∀ service ∈ services, service.name ∈ black := by
      refine foldlM_settled (fun service listed before found settledBefore outcome => ?_) .nil searched
      split at outcome
      case isTrue finished =>
        cases outcome
        exact ⟨settledBefore, List.Subset.refl _, finished⟩
      case isFalse =>
        have known (name : Text) : dependencies services name ⊆ services.map Service.name := fun dep member =>
          ((mem_dependencies once).mp member).1.2
        refine visit_settled known (nodup_singleton _) ?_ ?_ settledBefore outcome
        · exact cons_subset.mpr ⟨mem_map.mpr ⟨service, listed, rfl⟩, nil_subset _⟩
        · rw [length_map, length_nil]
          omega
    exact ⟨black, settled, all⟩

theorem isCycle_of_dependsCycle {cycle : List Text} (found : dependsCycle services = some cycle) :
    IsCycle (Awaits services) cycle := by
  unfold dependsCycle at found
  dsimp only at found
  split at found
  case h_1 => cases found
  case h_2 error searched =>
    obtain rfl := Option.some.inj found
    rw [← mem_dependencies_eq once]
    refine foldlM_error (fun service listed before other outcome => ?_) searched
    split at outcome
    case isTrue => cases outcome
    case isFalse => exact visit_cycle (isChain_singleton _) outcome

theorem dependsCycle_eq_none_iff : dependsCycle services = none ↔ Acyclic (Awaits services) := by
  constructor
  · intro clear name cycle
    obtain ⟨black, settled, all⟩ := settled_of_dependsCycle once clear
    obtain ⟨dep, ⟨⟨⟨declared, listed, rfl, -⟩, -⟩, -⟩, -⟩ := Relation.TransGen.head'_iff.mp cycle
    exact settled.not_transGen declared.name (all declared listed) cycle
  · intro acyclic
    cases found : dependsCycle services with
    | none => rfl
    | some cycle => exact absurd acyclic (isCycle_of_dependsCycle once found).not_acyclic

end Cycles

/-- The search finds nothing exactly if no service waits for itself over other services, and what it
finds is a cycle. -/
theorem dependsCycle_exact {services : List Service} (once : (services.map Service.name).Nodup) :
    (dependsCycle services = none ↔ Acyclic (Awaits services)) ∧
      ∀ cycle, dependsCycle services = some cycle → IsCycle (Awaits services) cycle :=
  ⟨dependsCycle_eq_none_iff once, fun _ => isCycle_of_dependsCycle once⟩

/-- Three services in a ring, of which the first is outside it. -/
def ringServices : List Service :=
  [{ plainService "web" with dependsOn := [("api", "service_started")] },
    { plainService "api" with dependsOn := [("db", "service_started")] },
    { plainService "db" with dependsOn := [("api", "service_started")] }]

theorem dependsCycle_ring :
    dependsCycle ringServices = some ["api".toList, "db".toList, "api".toList] ∧
      IsCycle (Awaits ringServices) ["api".toList, "db".toList, "api".toList] :=
  ⟨by decide +kernel, (dependsCycle_exact (by decide +kernel)).2 _ (by decide +kernel)⟩

open Store

/-- Names with the numbers from zero on, each after those it waits for. -/
inductive Placed (edge : Text → Text → Prop) : List (Text × Nat) → Prop where
  | nil : Placed edge []
  | snoc {placed : List (Text × Nat)} {name : Text} (earlier : Placed edge placed) (new : name ∉ placed.map Prod.fst)
      (ready : ∀ dep, edge name dep → dep ∈ placed.map Prod.fst) : Placed edge (placed ++ [(name, placed.length)])

section Numbers

variable {edge : Text → Text → Prop} {placed : List (Text × Nat)} {name other : Text} {number : Nat}

theorem lookup_eq_none (new : name ∉ placed.map Prod.fst) : placed.lookup name = none :=
  lookup_eq_none_iff.mpr fun entry member => by
    simpa using fun same : name = entry.1 => new (mem_map.mpr ⟨entry, member, same.symm⟩)

theorem ordinalOf_snoc_self (new : name ∉ placed.map Prod.fst) :
    ordinalOf (placed ++ [(name, number)]) name = number := by
  simp [ordinalOf, lookup_append, lookup_eq_none new]

theorem ordinalOf_snoc (different : other ≠ name) :
    ordinalOf (placed ++ [(name, number)]) other = ordinalOf placed other := by
  have missing : List.lookup other [(name, number)] = none := lookup_eq_none (by simpa using different)
  rw [ordinalOf, lookup_append, missing, Option.or_none, ordinalOf]

theorem map_fst_snoc : (placed ++ [(name, number)]).map Prod.fst = placed.map Prod.fst ++ [name] := by
  rw [map_append, map_singleton]

theorem Placed.nodup (isPlaced : Placed edge placed) : (placed.map Prod.fst).Nodup := by
  induction isPlaced with
  | nil => exact nodup_nil
  | snoc earlier new ready ih =>
    rw [map_fst_snoc]
    exact nodup_append.mpr ⟨ih, nodup_singleton _, fun first member last single same =>
      new (mem_singleton.mp single ▸ same ▸ member)⟩

theorem Placed.bijOn (isPlaced : Placed edge placed) :
    Set.BijOn (ordinalOf placed) {name | name ∈ placed.map Prod.fst} (Set.Iio placed.length) := by
  induction isPlaced with
  | nil => simp [Set.BijOn, Set.MapsTo, Set.InjOn, Set.SurjOn]
  | @snoc placed name earlier new ready ih =>
    have old {other : Text} (member : other ∈ placed.map Prod.fst) :
        ordinalOf (placed ++ [(name, placed.length)]) other = ordinalOf placed other :=
      ordinalOf_snoc fun same => new (same ▸ member)
    have last : ordinalOf (placed ++ [(name, placed.length)]) name = placed.length := ordinalOf_snoc_self new
    have names : {other | other ∈ (placed ++ [(name, placed.length)]).map Prod.fst} =
        insert name {other | other ∈ placed.map Prod.fst} := by
      ext other
      rw [map_fst_snoc]
      simp [or_comm]
    have numbers : Set.Iio (placed ++ [(name, placed.length)]).length = insert placed.length
      (Set.Iio placed.length) := by
      ext number
      simp only [length_append, length_singleton, Set.mem_Iio, Set.mem_insert_iff]
      omega
    have rest := ih.congr fun other member => (old member).symm
    have whole := rest.insert (a := name) (by rw [last]; exact lt_irrefl placed.length)
    rwa [last, ← names, ← numbers] at whole

theorem Placed.ordinalOf_lt (isPlaced : Placed edge placed) {dep : Text} (member : name ∈ placed.map Prod.fst)
    (waits : edge name dep) : dep ∈ placed.map Prod.fst ∧ ordinalOf placed dep < ordinalOf placed name := by
  induction isPlaced with
  | nil => cases member
  | @snoc placed last earlier new ready ih =>
    rw [map_fst_snoc] at member ⊢
    have keeps {other : Text} (listed : other ∈ placed.map Prod.fst) :
        ordinalOf (placed ++ [(last, placed.length)]) other = ordinalOf placed other :=
      ordinalOf_snoc fun same => new (same ▸ listed)
    rcases mem_append.mp member with old | single
    · obtain ⟨listed, smaller⟩ := ih old
      rw [keeps listed, keeps old]
      exact ⟨mem_append_left _ listed, smaller⟩
    · obtain rfl := mem_singleton.mp single
      have listed := ready dep waits
      rw [keeps listed, ordinalOf_snoc_self new]
      exact ⟨mem_append_left _ listed, earlier.bijOn.mapsTo listed⟩

end Numbers

section Sweeps

variable {services : List Service} (once : (services.map Service.name).Nodup)

structure Swept (services : List Service) (before result : List (Text × Nat)) : Prop where
  placed : Placed (Awaits services) result
  known : result.map Prod.fst ⊆ services.map Service.name
  kept : before <+: result

include once

theorem ready_iff {service : Service} (listed : service ∈ services) (placed : List (Text × Nat)) :
    (service.dependsOn.all fun (dep, _) =>
        dep ∉ services.map Service.name ∨ dep = service.name ∨ dep ∈ placed.map Prod.fst) = true ↔
      ∀ dep, Awaits services service.name dep → dep ∈ placed.map Prod.fst := by
  simp only [all_eq_true, decide_eq_true_eq]
  constructor
  · rintro all dep ⟨⟨⟨declared, alsoListed, named, depends⟩, known⟩, different⟩
    obtain rfl := inj_on_of_nodup_map once alsoListed listed named
    obtain ⟨entry, inside, rfl⟩ := mem_map.mp depends
    rcases all entry inside with unknown | self | done
    · exact absurd known unknown
    · exact absurd self different
    · exact done
  · rintro all ⟨dep, condition⟩ inside
    by_cases known : dep ∈ services.map Service.name
    · by_cases self : dep = service.name
      · exact .inr (.inl self)
      · exact .inr (.inr (all dep ⟨⟨⟨service, listed, rfl, mem_map.mpr ⟨_, inside, rfl⟩⟩, known⟩, self⟩))
    · exact .inl known

theorem placeReady_swept {placed : List (Text × Nat)} {rest : List Service} (inside : rest ⊆ services)
    (isPlaced : Placed (Awaits services) placed) (known : placed.map Prod.fst ⊆ services.map Service.name) :
    Swept services placed (placeReady (services.map Service.name) placed rest) ∧
      ∀ service ∈ rest, (∀ dep, Awaits services service.name dep → dep ∈ placed.map Prod.fst) →
        service.name ∈ (placeReady (services.map Service.name) placed rest).map Prod.fst := by
  induction rest generalizing placed with
  | nil => exact ⟨⟨isPlaced, known, prefix_rfl⟩, by simp⟩
  | cons service rest ih =>
    obtain ⟨listed, others⟩ := cons_subset.mp inside
    rw [placeReady]
    split
    case isTrue already =>
      obtain ⟨swept, reached⟩ := ih others isPlaced known
      refine ⟨swept, forall_mem_cons.mpr ⟨fun _ => ?_, reached⟩⟩
      exact (swept.kept.map Prod.fst).subset already
    case isFalse new =>
      split
      case isTrue ready =>
        have now := (ready_iff once listed placed).mp ready
        have longer : placed.map Prod.fst ⊆ (placed ++ [(service.name, placed.length)]).map Prod.fst := by
          rw [map_fst_snoc]
          exact subset_append_left _ _
        have placedNow : service.name ∈ (placed ++ [(service.name, placed.length)]).map Prod.fst := by
          rw [map_fst_snoc]
          exact mem_append_right _ (mem_singleton_self _)
        have stillKnown : (placed ++ [(service.name, placed.length)]).map Prod.fst ⊆ services.map Service.name := by
          rw [map_fst_snoc]
          exact append_subset.mpr ⟨known, cons_subset.mpr
            ⟨mem_map.mpr ⟨service, listed, rfl⟩, nil_subset _⟩⟩
        obtain ⟨swept, reached⟩ := ih others (isPlaced.snoc new now) stillKnown
        refine ⟨⟨swept.placed, swept.known, (prefix_append _ _).trans swept.kept⟩,
          forall_mem_cons.mpr ⟨fun _ => ?_, fun other member waits => ?_⟩⟩
        · exact (swept.kept.map Prod.fst).subset placedNow
        · exact reached other member fun dep awaited => longer (waits dep awaited)
      case isFalse blocked =>
        obtain ⟨swept, reached⟩ := ih others isPlaced known
        refine ⟨swept, forall_mem_cons.mpr ⟨fun waits => ?_, reached⟩⟩
        exact absurd ((ready_iff once listed placed).mpr waits) blocked

/-- Of services without a cycle every sweep places one, until all are placed. -/
theorem ordinalRounds_placed {black : List Text} (settled : Settled (Awaits services) black)
    (all : ∀ service ∈ services, service.name ∈ black) {rounds : Nat} {placed : List (Text × Nat)}
    (isPlaced : Placed (Awaits services) placed) (known : placed.map Prod.fst ⊆ services.map Service.name)
    (enough : services.length ≤ rounds + placed.length) :
    Placed (Awaits services) (ordinalRounds services rounds placed) ∧
      (ordinalRounds services rounds placed).map Prod.fst ⊆ services.map Service.name ∧
      services.length ≤ (ordinalRounds services rounds placed).length := by
  induction rounds generalizing placed with
  | zero => exact ⟨isPlaced, known, by rw [ordinalRounds]; omega⟩
  | succ rounds ih =>
    rw [ordinalRounds]
    split
    case isTrue complete => exact ⟨isPlaced, known, complete⟩
    case isFalse incomplete =>
      obtain ⟨swept, reached⟩ := placeReady_swept once (List.Subset.refl services) isPlaced known
      obtain ⟨service, listed, missing⟩ : ∃ service ∈ services, service.name ∉ placed.map Prod.fst := by
        by_contra! everywhere
        have inside : services.map Service.name ⊆ placed.map Prod.fst := fun name member => by
          obtain ⟨service, listed, rfl⟩ := mem_map.mp member
          exact everywhere service listed
        have short := (once.subperm inside).length_le
        rw [length_map, length_map] at short
        exact incomplete short
      obtain ⟨ready, -, unfinished, waits⟩ := settled.exists_ready
        (fun name => name ∈ services.map Service.name → name ∈ placed.map Prod.fst) (all service listed)
        fun finished => missing (finished (mem_map.mpr ⟨service, listed, rfl⟩))
      push Not at unfinished
      obtain ⟨isService, unplaced⟩ := unfinished
      obtain ⟨next, nextListed, rfl⟩ := mem_map.mp isService
      have placedNow := reached next nextListed fun dep awaited => waits dep awaited awaited.1.2
      have grown : placed.length < (placeReady (services.map Service.name) placed services).length := by
        refine lt_of_le_of_ne swept.kept.length_le fun same => unplaced ?_
        rwa [swept.kept.eq_of_length same]
      dsimp only
      rw [if_neg (by omega)]
      exact ih swept.placed swept.known (by omega)

/-- The numbers of services without a cycle. -/
theorem serviceOrdinals_placed (acyclic : Acyclic (Awaits services)) :
    Placed (Awaits services) (serviceOrdinals services) ∧
      (∀ name, name ∈ (serviceOrdinals services).map Prod.fst ↔ name ∈ services.map Service.name) ∧
      (serviceOrdinals services).length = services.length := by
  obtain ⟨black, settled, all⟩ := settled_of_dependsCycle once ((dependsCycle_eq_none_iff once).mpr acyclic)
  have enough : services.length ≤ services.length + ([] : List (Text × Nat)).length := Nat.le_add_right _ _
  obtain ⟨isPlaced, known, complete⟩ := ordinalRounds_placed once settled all .nil (nil_subset _) enough
  have sub := isPlaced.nodup.subperm known
  have same : ((serviceOrdinals services).map Prod.fst).Perm (services.map Service.name) :=
    sub.perm_of_length_le (by rw [length_map, length_map]; exact complete)
  exact ⟨isPlaced, fun name => same.mem_iff, by simpa using same.length_eq⟩

end Sweeps

theorem dependencies_of_validateDependsOn {lead : String} {service : Service} {services : List Service}
    (passed : validateDependsOn lead service services = []) {dep : Text}
    (declared : dep ∈ service.dependsOn.map Prod.fst) :
    dep ∈ services.map Service.name ∧ dep ≠ service.name := by
  obtain ⟨⟨_, condition⟩, listed, rfl⟩ := mem_map.mp declared
  have checked := (append_eq_nil_iff.mp (flatMap_eq_nil_iff.mp passed _ listed)).1
  dsimp only at checked
  split at checked
  case isTrue => cases checked
  case isFalse other => exact ⟨by simpa using checked, other⟩

/-- The services of an accepted manifest have the numbers from zero on, and each a larger one than
those it depends on. -/
theorem accepted_services_ordered {resources : ResourceSyntax} {manifest : Manifest}
    (passed : validateManifest resources manifest = []) (native : manifest.isCompose = false) :
    Set.BijOn (ordinalOf (serviceOrdinals manifest.services)) {name | name ∈ manifest.services.map Service.name}
      (Set.Iio manifest.services.length) ∧
    ∀ service ∈ manifest.services, ∀ dep ∈ service.dependsOn.map Prod.fst, dep ∈ manifest.services.map Service.name ∧
      ordinalOf (serviceOrdinals manifest.services) dep < ordinalOf (serviceOrdinals manifest.services)
        service.name := by
  obtain ⟨-, -, nonempty, once, -⟩ := Manifest.valid_of_validateManifest passed native
  simp only [validateManifest, native, Bool.false_eq_true, if_false, append_eq_nil_iff] at passed
  have checked := passed.2
  simp only [validateServices, if_neg nonempty, append_eq_nil_iff] at checked
  obtain ⟨items, search⟩ := checked
  have clear : dependsCycle manifest.services = none := by
    cases found : dependsCycle manifest.services with
    | none => rfl
    | some cycle => simp [found] at search
  obtain ⟨isPlaced, names, length⟩ := serviceOrdinals_placed once ((dependsCycle_eq_none_iff once).mp clear)
  have sameNames : {name | name ∈ (serviceOrdinals manifest.services).map Prod.fst} =
      {name | name ∈ manifest.services.map Service.name} := Set.ext names
  refine ⟨by simpa only [sameNames, length] using isPlaced.bijOn, fun service listed dep declared => ?_⟩
  obtain ⟨index, -, after⟩ := (checkItems_eq_nil items).1 service listed
  obtain ⟨known, other⟩ := dependencies_of_validateDependsOn (append_eq_nil_iff.mp after).2 declared
  have member : service.name ∈ (serviceOrdinals manifest.services).map Prod.fst :=
    (names service.name).mpr (mem_map_of_mem listed)
  exact ⟨known, (isPlaced.ordinalOf_lt member ⟨⟨⟨service, listed, rfl, declared⟩, known⟩, other⟩).2⟩

def layeredManifest : Manifest :=
  { plainManifest "app" [] with
    services := [{ plainService "app" with dependsOn := [("db", "service_started")] },
      plainService "db"] }

theorem layered_services_ordered :
    validateManifest anyResource layeredManifest = [] ∧
      ordinalOf (serviceOrdinals layeredManifest.services) "db" <
        ordinalOf (serviceOrdinals layeredManifest.services) "app" :=
  ⟨by decide +kernel, ((accepted_services_ordered
    (by decide +kernel : validateManifest anyResource layeredManifest = [])
    rfl).2 _ mem_cons_self "db" (by decide)).2⟩

end Tierd.Plugin
