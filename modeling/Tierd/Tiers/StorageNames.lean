import Tierd.Data.Paths
import Tierd.Tiers.Store

namespace Tierd.Tiers

open Tierd.Data

def perTierVGName (poolName tierName : String) : String := "tier-" ++ poolName ++ "-" ++ tierName

def perTierBackingMount (poolName tierName : String) : String :=
  "/mnt/.tierd-backing/" ++ poolName ++ "/" ++ tierName

def poolVGName (poolName : String) : String := tierVGPrefix ++ poolName

structure TierDefinition where
  name : String
  rank : Int
deriving DecidableEq, Repr

inductive DefinitionError where
  | nameRequired
  | rankNotPositive (name : String)
  | duplicateName (name : String)
  | duplicateRank (rank : Int)
deriving DecidableEq, Repr

def DefinitionError.message : DefinitionError → String
  | .nameRequired => "tier name is required"
  | .rankNotPositive name => "tier rank for " ++ quoted name ++ " must be a positive integer"
  | .duplicateName name => "duplicate tier name " ++ quoted name
  | .duplicateRank rank => "duplicate tier rank " ++ toString rank

def checkDefinitions (seenNames : List String) (seenRanks : List Int) :
    List TierDefinition → Except DefinitionError Unit
  | [] => .ok ()
  | tier :: rest =>
    let name := trimSpace tier.name
    if name = "" then .error .nameRequired
    else if tier.rank ≤ 0 then .error (.rankNotPositive name)
    else if name ∈ seenNames then .error (.duplicateName name)
    else if tier.rank ∈ seenRanks then .error (.duplicateRank tier.rank)
    else checkDefinitions (name :: seenNames) (tier.rank :: seenRanks) rest

def validateTierDefinitions (tiers : List TierDefinition) : Except DefinitionError Unit :=
  checkDefinitions [] [] tiers

/-- A name that a new pool or a new slot stores. -/
def AcceptedTierName (tier : String) : Prop :=
  (∃ tiers, validateTierDefinitions tiers = .ok () ∧ ∃ rank, ⟨tier, rank⟩ ∈ tiers) ∨
    ∃ (tables : TierTables) (pool slot : String) (rank target full : Int) (row : TierRow),
      tables.addTierSlot pool slot rank target full = .ok (.insertSlot row) ∧ row.name = tier

theorem checkDefinitions_names {seenNames : List String} {seenRanks : List Int} {tiers : List TierDefinition}
    (valid : checkDefinitions seenNames seenRanks tiers = .ok ()) :
    ∀ tier ∈ tiers, trimSpace tier.name ≠ "" := by
  induction tiers generalizing seenNames seenRanks with
  | nil => simp
  | cons first rest ih =>
    simp only [checkDefinitions] at valid
    split_ifs at valid with blank
    intro tier member
    rcases List.mem_cons.mp member with rfl | later
    · exact blank
    · exact ih valid tier later

variable {tier : String}

/-- Nothing but a blank name is refused. -/
theorem accepted_iff_not_blank : AcceptedTierName tier ↔ trimSpace tier ≠ "" := by
  constructor
  · rintro (⟨tiers, valid, rank, member⟩ | ⟨tables, pool, slot, rank, target, full, row, planned, rfl⟩)
    · exact checkDefinitions_names valid ⟨tier, rank⟩ member
    · simp only [TierTables.addTierSlot, bind_eq_ok, require_eq_ok, pure_eq_ok, Statement.insertSlot.injEq]
        at planned
      obtain ⟨_, _, _, named, _, _, _, _, _, _, _, _, rfl⟩ := planned
      rw [trimSpace_idem]
      exact named
  · intro named
    exact .inl ⟨[⟨tier, 1⟩], by simp [validateTierDefinitions, checkDefinitions, named], 1, by simp⟩

/-- The pool and the tier of the first pair meet in another place than those of the
second: `a-b` and `c` spell the same name as `a` and `b-c`. -/
def Straddles (pool tier otherPool otherTier : String) : Prop :=
  ∃ middle, pool = otherPool ++ "-" ++ middle ∧ otherTier = middle ++ "-" ++ tier

variable {pool : String}

theorem not_straddles_of_same_pool {otherTier : String} : ¬ Straddles pool tier pool otherTier := by
  rintro ⟨middle, longer, _⟩
  have lengths := congrArg (fun name => name.toList.length) longer
  simp at lengths

theorem straddles_of_overlap {otherPool otherTier : String} {between : Text}
    (pools : pool.toList = otherPool.toList ++ between)
    (tiers : '-' :: otherTier.toList = between ++ '-' :: tier.toList) :
    (pool, tier) = (otherPool, otherTier) ∨ Straddles pool tier otherPool otherTier := by
  cases between with
  | nil =>
    have samePool : pool = otherPool := String.toList_inj.mp (by simpa using pools)
    have sameTier : otherTier = tier := String.toList_inj.mp (by simpa using tiers)
    exact .inl (Prod.ext samePool sameTier.symm)
  | cons dash middle =>
    obtain ⟨rfl, rest⟩ := List.cons.inj tiers
    refine .inr ⟨String.ofList middle, String.toList_inj.mp ?_, String.toList_inj.mp ?_⟩
    · simpa using pools
    · simpa using rest

theorem perTierVGName_eq_iff {otherPool otherTier : String} :
    perTierVGName pool tier = perTierVGName otherPool otherTier ↔
      (pool, tier) = (otherPool, otherTier) ∨ Straddles pool tier otherPool otherTier ∨
        Straddles otherPool otherTier pool tier := by
  have meet : perTierVGName pool tier = perTierVGName otherPool otherTier ↔
      pool.toList ++ '-' :: tier.toList = otherPool.toList ++ '-' :: otherTier.toList := by
    simp [perTierVGName, ← String.toList_inj]
  rw [meet, List.append_eq_append_iff]
  constructor
  · rintro (⟨between, pools, tiers⟩ | ⟨between, pools, tiers⟩)
    · rcases straddles_of_overlap pools tiers with same | straddle
      · exact .inl same.symm
      · exact .inr (.inr straddle)
    · rcases straddles_of_overlap pools tiers with same | straddle
      · exact .inl same
      · exact .inr (.inl straddle)
  · rintro (same | ⟨middle, rfl, rfl⟩ | ⟨middle, rfl, rfl⟩)
    · obtain ⟨rfl, rfl⟩ := Prod.mk.inj same
      exact .inl ⟨[], by simp⟩
    · exact .inr ⟨'-' :: middle.toList, by simp⟩
    · exact .inl ⟨'-' :: middle.toList, by simp⟩

theorem exists_poolVGName_eq_iff :
    (∃ other, ValidPoolName other ∧ perTierVGName pool tier = poolVGName other) ↔
      ValidPoolName (pool ++ "-" ++ tier) := by
  have reads : ∀ other, perTierVGName pool tier = poolVGName other ↔ pool ++ "-" ++ tier = other := by
    intro other
    simp [perTierVGName, poolVGName, tierVGPrefix, ← String.toList_inj]
  simp only [reads, exists_eq_right']

/-- The directory of a pool's backing mounts. -/
def backingNames (pool : String) : List Text := ["mnt", ".tierd-backing", pool.toList]

/-- The cleaned backing mount is inside the directory of the pool. -/
def MountInside (pool tier : String) : Prop :=
  ("/mnt/.tierd-backing/" ++ pool ++ "/").toList <+: Paths.clean (perTierBackingMount pool tier).toList

/-- The tier name, read as a path that starts in the directory of the pool, leads to
`below` in that directory. -/
def LeadsTo (pool tier : String) (below : List Text) : Prop :=
  let path := Paths.Relative.ofParts (tier.toList.splitOn Paths.slash)
  path.below = (backingNames pool).drop (3 - path.ups) ++ below
deriving Decidable

theorem ValidPoolName.toList_eq (valid : ValidPoolName pool) :
    ∃ first rest, pool.toList = first :: rest ∧ isNameStart first = true ∧
      ∀ c ∈ rest, isNameChar c = true := by
  unfold ValidPoolName validateTierInstanceName at valid
  split_ifs at valid with _ _ _ _ mismatch
  have matched : tierNameRe pool.toList = true := by simpa using mismatch
  cases spelled : pool.toList with
  | nil => simp [spelled, tierNameRe] at matched
  | cons first rest =>
    simp only [spelled, tierNameRe, Bool.and_eq_true, List.all_eq_true] at matched
    exact ⟨first, rest, rfl, matched.1.1, matched.2⟩

theorem ValidPoolName.not_slash (valid : ValidPoolName pool) : Paths.slash ∉ pool.toList := by
  obtain ⟨first, rest, spelled, start, others⟩ := valid.toList_eq
  rw [spelled]
  rintro (_ | ⟨_, later⟩)
  · exact absurd start (by decide)
  · exact absurd (others _ later) (by decide)

theorem names_perTierBackingMount (valid : ValidPoolName pool) (tier : String) :
    Paths.names (perTierBackingMount pool tier).toList =
      Paths.follow (backingNames pool) (tier.toList.splitOn Paths.slash) := by
  have spelled : (perTierBackingMount pool tier).toList =
      ("/mnt/.tierd-backing" ++ Paths.slash :: pool.toList) ++ Paths.slash :: tier.toList := by
    unfold perTierBackingMount
    simp [Paths.slash]
  obtain ⟨first, rest, poolSpelled, start, _⟩ := valid.toList_eq
  have noDot : first ≠ '.' := by
    rintro rfl
    exact absurd start (by decide)
  have root : Paths.names "/mnt/.tierd-backing" = ["mnt", ".tierd-backing"] := by decide
  have directory : Paths.names ("/mnt/.tierd-backing" ++ Paths.slash :: pool.toList) =
      backingNames pool := by
    rw [Paths.names_below, List.splitOn_eq_singleton valid.not_slash, root, backingNames, poolSpelled]
    exact Paths.enter_cons noDot
  rw [spelled, Paths.names_below, directory]

theorem leadsTo_iff (valid : ValidPoolName pool) {below : List Text} :
    LeadsTo pool tier below ↔
      Paths.names (perTierBackingMount pool tier).toList = backingNames pool ++ below := by
  rw [names_perTierBackingMount valid, Paths.follow_eq_reach, Paths.Relative.reach_eq_append_iff]
  rfl

theorem mountInside_iff (valid : ValidPoolName pool) :
    MountInside pool tier ↔ ∃ below, below ≠ [] ∧ LeadsTo pool tier below := by
  have spelled : ("/mnt/.tierd-backing/" ++ pool ++ "/").toList =
      Paths.slash :: [Paths.slash].intercalate (backingNames pool) ++ [Paths.slash] := by
    simp [backingNames, Paths.slash, List.intercalate_cons_cons]
  have nonempty : pool.toList ≠ [] := by
    obtain ⟨first, rest, poolSpelled, _⟩ := valid.toList_eq
    simp [poolSpelled]
  have valid' : ∀ part ∈ backingNames pool, Paths.IsName part := by
    simp only [backingNames, List.forall_mem_cons]
    exact ⟨⟨by decide, by decide⟩, ⟨by decide, by decide⟩, ⟨nonempty, valid.not_slash⟩, by simp⟩
  rw [MountInside, spelled, Paths.below_prefix_iff valid' (by simp [backingNames])]
  simp only [leadsTo_iff valid]

/-- What the names of two pairs of a pool and a tier should be. -/
def NamesDistinct (pool tier otherPool otherTier : String) : Prop :=
  perTierVGName pool tier ≠ perTierVGName otherPool otherTier ∧
    (∀ name, ValidPoolName name →
      perTierVGName pool tier ≠ poolVGName name ∧ perTierVGName otherPool otherTier ≠ poolVGName name) ∧
    Paths.clean (perTierBackingMount pool tier).toList ≠
      Paths.clean (perTierBackingMount otherPool otherTier).toList ∧
    MountInside pool tier ∧ MountInside otherPool otherTier

/-- The names of the pairs do not run into each other, none of them reads as a pool name,
and the tier names lead to different places in the directories of their pools. -/
def Unambiguous (pool tier otherPool otherTier : String) : Prop :=
  ¬ Straddles pool tier otherPool otherTier ∧ ¬ Straddles otherPool otherTier pool tier ∧
    ¬ ValidPoolName (pool ++ "-" ++ tier) ∧ ¬ ValidPoolName (otherPool ++ "-" ++ otherTier) ∧
    ∃ below otherBelow, below ≠ [] ∧ otherBelow ≠ [] ∧ LeadsTo pool tier below ∧
      LeadsTo otherPool otherTier otherBelow ∧ (pool, below) ≠ (otherPool, otherBelow)

theorem backingNames_append_inj {otherPool : String} {below otherBelow : List Text} :
    backingNames pool ++ below = backingNames otherPool ++ otherBelow ↔
      (pool, below) = (otherPool, otherBelow) := by
  simp [backingNames, String.toList_inj]

theorem mounts_distinct_iff {otherPool otherTier : String} (valid : ValidPoolName pool)
    (otherValid : ValidPoolName otherPool) :
    (Paths.clean (perTierBackingMount pool tier).toList ≠
        Paths.clean (perTierBackingMount otherPool otherTier).toList ∧
      MountInside pool tier ∧ MountInside otherPool otherTier) ↔
      ∃ below otherBelow, below ≠ [] ∧ otherBelow ≠ [] ∧ LeadsTo pool tier below ∧
        LeadsTo otherPool otherTier otherBelow ∧ (pool, below) ≠ (otherPool, otherBelow) := by
  rw [mountInside_iff valid, mountInside_iff otherValid, Ne, Paths.clean_inj]
  constructor
  · rintro ⟨apart, ⟨below, further, leads⟩, otherBelow, otherFurther, otherLeads⟩
    refine ⟨below, otherBelow, further, otherFurther, leads, otherLeads, fun same => apart ?_⟩
    rw [(leadsTo_iff valid).mp leads, (leadsTo_iff otherValid).mp otherLeads]
    exact backingNames_append_inj.mpr same
  · rintro ⟨below, otherBelow, further, otherFurther, leads, otherLeads, apart⟩
    refine ⟨fun same => apart ?_, ⟨below, further, leads⟩, otherBelow, otherFurther, otherLeads⟩
    rw [(leadsTo_iff valid).mp leads, (leadsTo_iff otherValid).mp otherLeads] at same
    exact backingNames_append_inj.mp same

/-- Two pairs get distinct names exactly when they are unambiguous; the names of the
tiers may be any texts. -/
theorem storage_names_distinct_iff {pool tier otherPool otherTier : String} (valid : ValidPoolName pool)
    (otherValid : ValidPoolName otherPool) (different : (pool, tier) ≠ (otherPool, otherTier)) :
    NamesDistinct pool tier otherPool otherTier ↔ Unambiguous pool tier otherPool otherTier := by
  have groups : perTierVGName pool tier ≠ perTierVGName otherPool otherTier ↔
      ¬ Straddles pool tier otherPool otherTier ∧ ¬ Straddles otherPool otherTier pool tier := by
    rw [Ne, perTierVGName_eq_iff, or_iff_right different, not_or]
  have pools : (∀ name, ValidPoolName name → perTierVGName pool tier ≠ poolVGName name ∧
        perTierVGName otherPool otherTier ≠ poolVGName name) ↔
      ¬ ValidPoolName (pool ++ "-" ++ tier) ∧ ¬ ValidPoolName (otherPool ++ "-" ++ otherTier) := by
    rw [← exists_poolVGName_eq_iff, ← exists_poolVGName_eq_iff]
    push Not
    exact forall₂_and
  unfold NamesDistinct Unambiguous
  rw [groups, pools, mounts_distinct_iff valid otherValid]
  simp only [and_assoc]

theorem default_tiers_are_distinct : NamesDistinct "media" "NVME" "media" "HDD" := by
  refine (storage_names_distinct_iff (by decide) (by decide) (by decide)).mpr ?_
  exact ⟨not_straddles_of_same_pool, not_straddles_of_same_pool, by decide, by decide,
    ["NVME"], ["HDD"], by decide, by decide, by decide, by decide, by decide⟩

/-- Accepted names that are not distinct: two tiers of different pools share a volume
group, a tier has the volume group of a pool, two tiers of a pool share a mount, and a
mount is the directory of all pools. -/
theorem accepted_names_collide :
    (∀ pool ∈ ["a", "a-b"], ValidPoolName pool) ∧
      (∀ tier ∈ ["c", "b-c", "b", "NVME", "./NVME", ".."], AcceptedTierName tier) ∧
      perTierVGName "a-b" "c" = perTierVGName "a" "b-c" ∧
      perTierVGName "a" "b" = poolVGName "a-b" ∧
      Paths.clean (perTierBackingMount "a" "NVME").toList =
        Paths.clean (perTierBackingMount "a" "./NVME").toList ∧
      Paths.clean (perTierBackingMount "a" "..").toList = "/mnt/.tierd-backing" := by
  refine ⟨by decide, ?_, by decide, by decide, by decide, by decide⟩
  simp only [accepted_iff_not_blank]
  decide

end Tierd.Tiers
