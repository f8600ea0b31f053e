import Tierd.Plugin.Images

namespace Tierd.Plugin.Images

open Tierd.Data List
open Tierd.Plugin.Store (PluginTables ContainerRefRow ServiceRow)

theorem normalizeImageRef_trimSpace (ref : Text) : normalizeImageRef (Text.trimSpace ref) = normalizeImageRef ref := by
  unfold normalizeImageRef
  rw [Text.trimSpace_idem]

theorem mem_names {image : ImageSummary} {name : Text} :
    name ∈ image.names ↔
      (name = normalizeImageRef image.id ∨ name ∈ image.aliases.map normalizeImageRef) ∧ isName name = true := by
  unfold ImageSummary.names
  rw [mem_filter, map_cons, mem_cons]

theorem imageTracked_iff {image : ImageSummary} {keep : List Text} :
    imageTracked image keep = true ↔
      ∃ name, (name = normalizeImageRef image.id ∨ name ∈ image.aliases.map normalizeImageRef) ∧ name ∈ keep := by
  unfold imageTracked
  rw [Bool.or_eq_true, decide_eq_true_iff, any_eq_true]
  constructor
  · rintro (byId | ⟨spelling, listed, kept⟩)
    · exact ⟨_, .inl rfl, byId⟩
    · exact ⟨_, .inr (mem_map_of_mem listed), decide_eq_true_iff.mp kept⟩
  · rintro ⟨name, rfl | listed, kept⟩
    · exact .inl kept
    · obtain ⟨spelling, member, rfl⟩ := mem_map.mp listed
      exact .inr ⟨spelling, member, decide_eq_true_iff.mpr kept⟩

theorem imageTracked_of_mem_names {image : ImageSummary} {keep : List Text} {name : Text} (own : name ∈ image.names)
    (kept : name ∈ keep) : imageTracked image keep = true :=
  imageTracked_iff.mpr ⟨name, (mem_names.mp own).1, kept⟩

section Coalesce

variable {holds : ImageSummary → Prop} {id : Text}
  (merges : ∀ image existing, holds (mergeRows image existing) ↔ holds existing ∨ holds image)

include merges in
theorem exists_coalesceRow (out : List ImageSummary) (image : ImageSummary) :
    (∃ row ∈ coalesceRow out image, row.id = id ∧ holds row) ↔
      (∃ row ∈ out, row.id = id ∧ holds row) ∨ (image.id = id ∧ holds image) := by
  unfold coalesceRow
  split
  case isFalse =>
    simp only [mem_append, mem_singleton, or_and_right, exists_or, exists_eq_left]
  case isTrue known =>
    constructor
    · rintro ⟨row, member, own, held⟩
      rcases mem_changeRow.mp member with ⟨old, before, same, rfl⟩ | ⟨before, _⟩
      · rcases (merges image old).mp held with oldHeld | newHeld
        · exact .inl ⟨old, before, own, oldHeld⟩
        · exact .inr ⟨same.symm.trans own, newHeld⟩
      · exact .inl ⟨row, before, own, held⟩
    · rintro (⟨row, before, own, held⟩ | ⟨own, held⟩)
      · by_cases same : row.id = image.id
        · exact ⟨mergeRows image row, mem_changeRow.mpr (.inl ⟨row, before, same, rfl⟩), own,
            (merges image row).mpr (.inl held)⟩
        · exact ⟨row, mem_changeRow.mpr (.inr ⟨before, same⟩), own, held⟩
      · obtain ⟨row, before, same⟩ := mem_map.mp known.1
        exact ⟨mergeRows image row, mem_changeRow.mpr (.inl ⟨row, before, same, rfl⟩), same.trans own,
          (merges image row).mpr (.inr held)⟩

include merges in
theorem exists_foldl_coalesceRow (images out : List ImageSummary) :
    (∃ row ∈ images.foldl coalesceRow out, row.id = id ∧ holds row) ↔
      (∃ row ∈ out, row.id = id ∧ holds row) ∨ ∃ row ∈ images, row.id = id ∧ holds row := by
  induction images generalizing out with
  | nil => simp
  | cons image rest ih =>
    rw [foldl_cons, ih, exists_coalesceRow merges, or_assoc]
    simp only [mem_cons, or_and_right, exists_or, exists_eq_left]

variable (holds) in
include merges in
theorem exists_coalesceImagesByID (images : List ImageSummary) :
    (∃ row ∈ coalesceImagesByID images, row.id = id ∧ holds row) ↔ ∃ row ∈ images, row.id = id ∧ holds row := by
  unfold coalesceImagesByID
  rw [exists_foldl_coalesceRow merges]
  simp

end Coalesce

theorem coalesceRow_nodup {out : List ImageSummary} {image : ImageSummary} (named : image.id ≠ [])
    (once : (out.map ImageSummary.id).Nodup) : ((coalesceRow out image).map ImageSummary.id).Nodup := by
  unfold coalesceRow
  split
  case isTrue =>
    have kept : ∀ row, (mergeRows image row).id = row.id := fun _ => rfl
    rwa [map_changeRow kept]
  case isFalse unknown =>
    refine nodup_map_concat once fun row listed same => unknown ⟨?_, named⟩
    exact same ▸ mem_map_of_mem listed

theorem coalesceImagesByID_nodup {images : List ImageSummary} (named : ∀ image ∈ images, image.id ≠ []) :
    ((coalesceImagesByID images).map ImageSummary.id).Nodup := by
  unfold coalesceImagesByID
  refine List.foldlRecOn images coalesceRow (b := []) (motive := fun out => (out.map ImageSummary.id).Nodup)
    nodup_nil ?_
  intro out once image listed
  exact coalesceRow_nodup (named image listed) once

theorem mem_aliases_mergeRows (ref : Text) (image existing : ImageSummary) :
    ref ∈ (mergeRows image existing).aliases ↔ ref ∈ existing.aliases ∨ ref ∈ image.aliases := by
  unfold mergeRows ImageSummary.aliases
  simp only [mem_append]
  tauto

theorem containers_mergeRows (image existing : ImageSummary) :
    0 < (mergeRows image existing).containers ↔ 0 < existing.containers ∨ 0 < image.containers := by
  unfold mergeRows
  dsimp only
  split <;> omega

def Keeps (plugins : List (Text × PluginTables)) (keep : List Text) : Prop :=
  ∀ plugin ∈ plugins, ∀ ref ∈ pluginImageRefs plugin.2, normalizeImageRef ref ≠ [] → normalizeImageRef ref ∈ keep

namespace Inventory

variable {containers : List ContainerSummary} (inventory : Inventory containers)

/-- The rows as the clean-up sees them. -/
abbrev merged : List ImageSummary := coalesceImagesByID inventory.images

variable {inventory} {image other : ImageSummary} {name ref id : Text}

theorem exists_row (listed : image ∈ inventory.merged) : ∃ row ∈ inventory.images, row.id = image.id := by
  obtain ⟨row, member, same, _⟩ :=
    (exists_coalesceImagesByID (fun _ => True) (fun _ _ => (or_self True).symm.to_iff) inventory.images).mp
    ⟨image, listed, rfl, trivial⟩
  exact ⟨row, member, same⟩

theorem exists_merged (listed : image ∈ inventory.images) : ∃ row ∈ inventory.merged, row.id = image.id := by
  obtain ⟨row, member, same, _⟩ :=
    (exists_coalesceImagesByID (fun _ => True) (fun _ _ => (or_self True).symm.to_iff) inventory.images).mpr
    ⟨image, listed, rfl, trivial⟩
  exact ⟨row, member, same⟩

theorem merged_unique (listed : image ∈ inventory.merged) (too : other ∈ inventory.merged)
    (same : image.id = other.id) :
    image = other :=
  inj_on_of_nodup_map (coalesceImagesByID_nodup fun row member => (inventory.identified row member).1)
    listed too same

theorem names_merged (listed : image ∈ inventory.merged) :
    name ∈ image.names ↔ ∃ row ∈ inventory.images, row.id = image.id ∧ name ∈ row.names := by
  constructor
  · intro own
    obtain ⟨byId | byAlias, proper⟩ := mem_names.mp own
    · obtain ⟨row, member, same⟩ := exists_row listed
      exact ⟨row, member, same, mem_names.mpr ⟨.inl (same ▸ byId), proper⟩⟩
    · obtain ⟨ref, spelling, rfl⟩ := mem_map.mp byAlias
      obtain ⟨row, member, same, also⟩ :=
        (exists_coalesceImagesByID (ref ∈ ·.aliases) (mem_aliases_mergeRows ref) inventory.images).mp
        ⟨image, listed, rfl, spelling⟩
      exact ⟨row, member, same, mem_names.mpr ⟨.inr (mem_map_of_mem also), proper⟩⟩
  · rintro ⟨row, member, same, own⟩
    obtain ⟨byId | byAlias, proper⟩ := mem_names.mp own
    · exact mem_names.mpr ⟨.inl (same ▸ byId), proper⟩
    · obtain ⟨ref, spelling, rfl⟩ := mem_map.mp byAlias
      obtain ⟨whole, kept, equal, also⟩ :=
        (exists_coalesceImagesByID (ref ∈ ·.aliases) (mem_aliases_mergeRows ref) inventory.images).mpr
        ⟨row, member, same, spelling⟩
      obtain rfl := merged_unique kept listed equal
      exact mem_names.mpr ⟨.inr (mem_map_of_mem also), proper⟩

theorem resolves_iff_merged (listed : image ∈ inventory.merged) :
    inventory.Resolves ref image.id ↔ normalizeImageRef ref ∈ image.names :=
  (names_merged listed).symm

/-- A name stands for one image. -/
theorem Resolves.unique (first : inventory.Resolves ref id) {ref' id' : Text} (second : inventory.Resolves ref' id')
    (same : normalizeImageRef ref = normalizeImageRef ref') : id = id' := by
  obtain ⟨row, member, rfl, own⟩ := first
  obtain ⟨row', member', rfl, own'⟩ := second
  exact inventory.unambiguous row member row' member' _ own (same ▸ own')

theorem containers_of_used (listed : image ∈ inventory.merged) {container : ContainerSummary}
    (exists_ : container ∈ containers) (uses : inventory.Resolves container.image image.id) : 0 < image.containers := by
  obtain ⟨row, member, same, own⟩ := uses
  obtain ⟨counted, known, equal, running⟩ := inventory.counted container exists_ row member own
  obtain ⟨whole, kept, own', running'⟩ :=
    (exists_coalesceImagesByID (0 < ·.containers) containers_mergeRows inventory.images).mpr
    ⟨counted, known, equal.trans same, running⟩
  exact merged_unique kept listed own' ▸ running'

theorem shared_of_inUse {plugins : List (Text × PluginTables)} {keep : List Text} (listed : image ∈ inventory.merged)
    (used : inventory.InUse plugins image.id)
    (keeps : Keeps plugins keep) :
    0 < image.containers ∨ imageTracked image keep = true := by
  rcases used with ⟨plugin, installed, ref, tracked, uses⟩ | ⟨container, present, uses⟩
  · have own := (resolves_iff_merged listed).mp uses
    have proper : normalizeImageRef ref ≠ [] := by
      intro blank
      have bad := (mem_names.mp own).2
      rw [blank] at bad
      exact absurd bad (by decide)
    exact .inr (imageTracked_of_mem_names own (keeps plugin installed ref tracked proper))
  · exact .inl (containers_of_used listed present uses)

end Inventory

theorem mem_firsts_trimmed {refs : List Text} {ref : Text} :
    ref ∈ firsts id [] ((refs.map Text.trimSpace).filter (· ≠ [])) ↔ ref ≠ [] ∧
      ∃ raw ∈ refs, Text.trimSpace raw = ref := by
  rw [mem_firsts_self, mem_filter, mem_map, decide_eq_true_iff, and_comm]

theorem mem_trackedImageRefs {plugins : List (Text × PluginTables)} {ref : Text} :
    ref ∈ trackedImageRefs plugins ↔ ∃ plugin ∈ plugins, ref ∈ pluginImageRefs plugin.2 := by
  unfold trackedImageRefs pluginImageRefs
  simp only [mem_firsts_trimmed, mem_flatMap, mem_append, mem_map, mem_cons,
    not_mem_nil, or_false]
  constructor
  · rintro ⟨proper, raw, ⟨plugin, installed, (⟨row, listed, rfl⟩ | ⟨row, listed, rfl⟩) | ⟨row, listed, rfl⟩⟩, trimmed⟩
    · exact ⟨plugin, installed, proper, _, .inr ⟨row, listed, rfl⟩, trimmed⟩
    · exact ⟨plugin, installed, proper, _, .inl ⟨row, listed, .inr rfl⟩, trimmed⟩
    · exact ⟨plugin, installed, proper, _, .inl ⟨row, listed, .inl rfl⟩, trimmed⟩
  · rintro ⟨plugin, installed, proper, raw, ⟨row, listed, rfl | rfl⟩ | ⟨row, listed, rfl⟩, trimmed⟩
    · exact ⟨proper, _, ⟨plugin, installed, .inr ⟨row, listed, rfl⟩⟩, trimmed⟩
    · exact ⟨proper, _, ⟨plugin, installed, .inl (.inr ⟨row, listed, rfl⟩)⟩, trimmed⟩
    · exact ⟨proper, _, ⟨plugin, installed, .inl (.inl ⟨row, listed, rfl⟩)⟩, trimmed⟩

section Removal

variable {answers : Answers} {containers : List ContainerSummary} {inventory : Inventory containers}
  {plugins : List (Text × PluginTables)} {image : ImageSummary} {calls : List Text}

variable {refs : List Text}

theorem mem_removeEach {ref : Text} (called : ref ∈ (removeEach answers calls refs).1) :
    ref ∈ calls ∨ ref ∈ refs := by
  induction refs generalizing calls with
  | nil => exact .inl called
  | cons head rest ih =>
    unfold removeEach at called
    split at called
    case isTrue =>
      rcases ih called with earlier | later
      · rcases mem_append.mp earlier with before | now
        · exact .inl before
        · exact .inr (mem_cons.mpr (.inl (mem_singleton.mp now)))
      · exact .inr (mem_cons_of_mem head later)
    case isFalse =>
      rcases mem_append.mp called with before | now
      · exact .inl before
      · exact .inr (mem_cons.mpr (.inl (mem_singleton.mp now)))

theorem removeImageTemplate_calls (image : ImageSummary) :
    (removeImageTemplate answers calls image).1 = (removeEach answers calls (templateRefs image)).1 := by
  unfold removeImageTemplate
  dsimp only
  split
  case isTrue => rfl
  case isFalse =>
    split
    · rfl
    · split <;> rfl

theorem mem_removeImageTemplate {ref : Text} (called : ref ∈ (removeImageTemplate answers calls image).1) :
    ref ∈ calls ∨ ∃ name ∈ image.aliases ++ [image.id], Text.trimSpace name = ref := by
  rw [removeImageTemplate_calls] at called
  refine (mem_removeEach called).imp_right fun listed => ?_
  have kept := (mem_filter.mp (firsts_sublist.subset listed)).1
  exact mem_map.mp kept

variable {name : Text}

theorem Inventory.resolves_own {ref id : Text} (listed : image ∈ inventory.merged)
    (own : name ∈ image.aliases ++ [image.id]) (trimmed : Text.trimSpace name = ref)
    (resolves : inventory.Resolves ref id) :
    id = image.id := by
  obtain ⟨row, member, same, named⟩ := resolves
  have spelled : normalizeImageRef ref = normalizeImageRef name := trimmed ▸ normalizeImageRef_trimSpace name
  have proper := (mem_names.mp named).2
  have among : normalizeImageRef ref ∈ image.names := by
    refine mem_names.mpr ⟨?_, proper⟩
    rw [spelled]
    rcases mem_append.mp own with spelling | single
    · exact .inr (mem_map_of_mem spelling)
    · exact .inl (congrArg normalizeImageRef (mem_singleton.mp single))
  exact Inventory.Resolves.unique ⟨row, member, same, named⟩ ((Inventory.resolves_iff_merged listed).mpr among) rfl

theorem removeImageTemplate_spares (listed : image ∈ inventory.merged) (unused : ¬ inventory.InUse plugins image.id)
    (before : inventory.Spares plugins calls) :
    inventory.Spares plugins (removeImageTemplate answers calls image).1 := by
  intro ref called id resolves
  rcases mem_removeImageTemplate called with earlier | ⟨name, own, trimmed⟩
  · exact before ref earlier id resolves
  · rwa [Inventory.resolves_own listed own trimmed resolves]

theorem sweepImage_spares {keep : List Text} {minAge now : Int} (listed : image ∈ inventory.merged)
    (keeps : Keeps plugins keep)
    (before : inventory.Spares plugins calls) :
    inventory.Spares plugins (sweepImage answers keep minAge now calls image).1 := by
  unfold sweepImage
  split
  case isTrue => exact before
  case isFalse idle =>
    split
    case isTrue => exact before
    case isFalse untracked =>
      split
      case isTrue => exact before
      case isFalse =>
        refine removeImageTemplate_spares listed (fun used => ?_) before
        exact (Inventory.shared_of_inUse listed used keeps).elim idle untracked

variable {images : List ImageSummary}

theorem sweepImages_spares {keep : List Text} {minAge now : Int} {removed : Nat}
    (listed : images ⊆ inventory.merged)
    (keeps : Keeps plugins keep)
    (before : inventory.Spares plugins calls) :
    inventory.Spares plugins (sweepImages answers keep minAge now calls removed images).1 := by
  induction images generalizing calls removed with
  | nil => exact before
  | cons image rest ih =>
    obtain ⟨first, others⟩ := cons_subset.mp listed
    unfold sweepImages
    split
    case isTrue => exact before
    case isFalse => exact ih others (sweepImage_spares first keeps before)

theorem cleanupOrphanedImages_spares (minAge now : Int) :
    inventory.Spares plugins (cleanupOrphanedImages answers plugins inventory.images minAge now).2 := by
  have none : inventory.Spares plugins [] := fun _ called => absurd called not_mem_nil
  unfold cleanupOrphanedImages
  split
  case isTrue => exact none
  case isFalse =>
    split
    case isTrue => exact none
    case isFalse =>
      refine sweepImages_spares (List.Subset.refl _) ?_ none
      intro plugin installed ref tracked proper
      refine mem_filter.mpr ⟨mem_map_of_mem ?_, decide_eq_true proper⟩
      exact mem_trackedImageRefs.mpr ⟨plugin, installed, tracked⟩

structure Swept (inventory : Inventory containers) (plugins : List (Text × PluginTables)) (wanted start : List Text)
    (met : List ImageSummary) (state : Pruning) : Prop where
  starts : start ⊆ state.inUse
  spares : inventory.Spares plugins state.calls
  covers : ∀ image ∈ met, imageTracked image wanted = true → inventory.InUse plugins image.id →
    image.aliases.map normalizeImageRef ⊆ state.inUse
  inUseFrom : ∀ name ∈ state.inUse,
    name ∈ start ∨ ∃ image ∈ inventory.merged, name ∈ image.aliases.map normalizeImageRef
  removedFrom : ∀ name ∈ state.removed, ∃ image ∈ inventory.merged, name ∈ image.aliases.map normalizeImageRef

variable {wanted start : List Text} {met : List ImageSummary} {state : Pruning}

theorem Swept.begins (inventory : Inventory containers) (plugins : List (Text × PluginTables))
    (wanted start : List Text) :
    Swept inventory plugins wanted start [] ⟨start, [], [], []⟩ where
  starts := List.Subset.refl start
  spares := fun _ called => absurd called not_mem_nil
  covers := fun _ none => absurd none not_mem_nil
  inUseFrom := fun _ listed => .inl listed
  removedFrom := fun _ none => absurd none not_mem_nil

theorem Swept.step (swept : Swept inventory plugins wanted start met state) (listed : image ∈ inventory.merged)
    (keeps : Keeps plugins start) :
    Swept inventory plugins wanted start (met ++ [image]) (pruneImage answers wanted state image) := by
  unfold pruneImage
  split
  case isTrue untracked =>
    refine { swept with covers := fun other seen tracked used => ?_ }
    rcases mem_append.mp seen with earlier | now
    · exact swept.covers other earlier tracked used
    · rw [mem_singleton.mp now, untracked] at tracked
      cases tracked
  case isFalse tracked =>
    split
    case isTrue shared =>
      refine ⟨?_, swept.spares, ?_, ?_, swept.removedFrom⟩
      · exact List.Subset.trans swept.starts (subset_append_left _ _)
      · intro other seen tracked used
        rcases mem_append.mp seen with earlier | now
        · exact List.Subset.trans (swept.covers other earlier tracked used) (subset_append_left _ _)
        · rw [mem_singleton.mp now]
          exact subset_append_right _ _
      · intro name inUse
        rcases mem_append.mp inUse with before | own
        · exact swept.inUseFrom name before
        · exact .inr ⟨image, listed, own⟩
    case isFalse unshared =>
      have unused : ¬ inventory.InUse plugins image.id := by
        intro used
        have stillKeeps : Keeps plugins state.inUse := fun plugin installed ref tracked proper =>
          swept.starts (keeps plugin installed ref tracked proper)
        refine unshared ?_
        unfold isShared
        rcases Inventory.shared_of_inUse listed used stillKeeps with running | tracked
        · simp [running]
        · simp [tracked]
      have spares : inventory.Spares plugins (removeImageTemplate answers state.calls image).1 :=
        removeImageTemplate_spares listed unused swept.spares
      have covers : ∀ other ∈ met ++ [image], imageTracked other wanted = true → inventory.InUse plugins other.id →
          other.aliases.map normalizeImageRef ⊆ state.inUse := by
        intro other seen tracked used
        rcases mem_append.mp seen with earlier | now
        · exact swept.covers other earlier tracked used
        · exact absurd (mem_singleton.mp now ▸ used) unused
      split
      case h_1 calls error removal =>
        rw [removal] at spares
        exact ⟨swept.starts, spares, covers, swept.inUseFrom, swept.removedFrom⟩
      case h_2 calls removal =>
        rw [removal] at spares
        refine ⟨swept.starts, spares, covers, swept.inUseFrom, fun name gone => ?_⟩
        rcases mem_append.mp gone with before | own
        · exact swept.removedFrom name before
        · exact ⟨image, listed, own⟩

variable (answers) in
theorem Swept.run (swept : Swept inventory plugins wanted start met state)
    (listed : images ⊆ inventory.merged)
    (keeps : Keeps plugins start) :
    Swept inventory plugins wanted start (met ++ images) (images.foldl (pruneImage answers wanted) state) := by
  induction images generalizing met state with
  | nil => rwa [append_nil]
  | cons image rest ih =>
    obtain ⟨first, others⟩ := cons_subset.mp listed
    rw [append_cons, foldl_cons]
    exact ih (swept.step first keeps) others

theorem pruneRef_spares (before : inventory.Spares plugins state.calls)
    (skipped : ∀ ref ∈ refs, ∀ id, inventory.Resolves ref id → inventory.InUse plugins id →
      normalizeImageRef ref ∈ state.inUse) :
    inventory.Spares plugins (refs.foldl (pruneRef answers) state).calls := by
  induction refs generalizing state with
  | nil => exact before
  | cons ref rest ih =>
    rw [foldl_cons]
    unfold pruneRef
    dsimp only
    split
    case isTrue => exact ih before fun other later => skipped other (mem_cons_of_mem ref later)
    case isFalse free =>
      refine ih (fun called member id resolves used => ?_) fun other later =>
        skipped other (mem_cons_of_mem ref later)
      rcases mem_append.mp member with earlier | now
      · exact before called earlier id resolves used
      · rw [mem_singleton.mp now] at resolves
        exact free (.inr (.inl (skipped ref mem_cons_self id resolves used)))

theorem calls_subset_pruneRef (ref : Text) : state.calls ⊆ (pruneRef answers state ref).calls := by
  unfold pruneRef
  dsimp only
  split
  case isTrue => exact List.Subset.refl _
  case isFalse => exact subset_append_left _ _

theorem calls_subset_pruneRefs (refs : List Text) : state.calls ⊆ (refs.foldl (pruneRef answers) state).calls := by
  induction refs generalizing state with
  | nil => exact List.Subset.refl _
  | cons ref rest ih => exact List.Subset.trans (calls_subset_pruneRef ref) ih

theorem exists_call_of_free (proper : isName name = true)
    (listed : ∃ ref ∈ refs, normalizeImageRef ref = name) (free : name ∉ state.inUse) (kept : name ∉ state.removed) :
    ∃ ref ∈ (refs.foldl (pruneRef answers) state).calls, normalizeImageRef ref = name := by
  induction refs generalizing state with
  | nil => obtain ⟨ref, none, _⟩ := listed; nomatch none
  | cons ref rest ih =>
    rw [foldl_cons]
    by_cases same : normalizeImageRef ref = name
    · refine ⟨ref, calls_subset_pruneRefs rest ?_, same⟩
      have spelled : ref ≠ [] := by
        rintro rfl
        rw [← same] at proper
        exact absurd proper (by decide)
      unfold pruneRef
      dsimp only
      rw [if_neg (by rw [same]; tauto)]
      exact mem_append_right _ mem_cons_self
    · have later : ∃ other ∈ rest, normalizeImageRef other = name := by
        obtain ⟨other, member, spelled⟩ := listed
        exact ⟨other, (mem_cons.mp member).resolve_left fun first => same (first ▸ spelled), spelled⟩
      unfold pruneRef
      dsimp only
      split
      case isTrue => exact ih later free kept
      case isFalse =>
        refine ih later free fun gone => ?_
        rcases mem_append.mp gone with before | now
        · exact kept before
        · exact same (mem_singleton.mp now).symm

theorem Inventory.own_alias (listed : image ∈ inventory.images) (own : name ∈ image.names)
    (spelled : ∃ other ∈ inventory.merged, name ∈ other.aliases.map normalizeImageRef) :
    ∃ row ∈ inventory.images, row.id = image.id ∧ name ∈ row.aliases.map normalizeImageRef := by
  obtain ⟨other, merged, among⟩ := spelled
  obtain ⟨ref, spelling, rfl⟩ := mem_map.mp among
  have named : normalizeImageRef ref ∈ other.names := mem_names.mpr ⟨.inr among, (mem_names.mp own).2⟩
  have same : other.id = image.id :=
    Inventory.Resolves.unique ((Inventory.resolves_iff_merged merged).mpr named) ⟨image, listed, rfl, own⟩ rfl
  obtain ⟨row, member, equal, also⟩ := (exists_coalesceImagesByID (ref ∈ ·.aliases) (mem_aliases_mergeRows ref)
    inventory.images).mp ⟨other, merged, rfl, spelling⟩
  exact ⟨row, member, equal.trans same, mem_map_of_mem also⟩

theorem refsInUse_keeps (name : Text) : Keeps (otherPlugins plugins name) (refsInUse containers plugins name) := by
  intro plugin installed ref tracked _
  refine mem_append_right _ (mem_map_of_mem ?_)
  exact mem_flatMap.mpr ⟨plugin, installed, tracked⟩

theorem prune_spares_iff
    (swept : Swept inventory (otherPlugins plugins name) (refs.map normalizeImageRef)
      (refsInUse containers plugins name)
      inventory.merged state) :
    inventory.Spares (otherPlugins plugins name) (refs.foldl (pruneRef answers) state).calls ↔
      inventory.CoversIds plugins name refs := by
  constructor
  · intro spares ref listed image member used byId
    by_contra uncovered
    rw [not_or] at uncovered
    have proper := (inventory.identified image member).2
    have own : normalizeImageRef image.id ∈ image.names := mem_names.mpr ⟨.inl rfl, proper⟩
    have free : normalizeImageRef image.id ∉ state.inUse := fun inUse =>
      (swept.inUseFrom _ inUse).elim uncovered.1 fun spelled => uncovered.2 (Inventory.own_alias member own spelled)
    have kept : normalizeImageRef image.id ∉ state.removed := fun gone =>
      uncovered.2 (Inventory.own_alias member own (swept.removedFrom _ gone))
    obtain ⟨called, made, spelled⟩ := exists_call_of_free proper ⟨ref, listed, byId⟩ free kept
    exact spares called made image.id ⟨image, member, rfl, spelled ▸ own⟩ used
  · intro covers
    refine pruneRef_spares swept.spares ?_
    rintro ref listed id ⟨image, member, rfl, own⟩ used
    obtain ⟨whole, merged, same⟩ := Inventory.exists_merged member
    have named : normalizeImageRef ref ∈ whole.names :=
      (Inventory.resolves_iff_merged merged).mp (same ▸ ⟨image, member, rfl, own⟩)
    have tracked : imageTracked whole (refs.map normalizeImageRef) = true :=
      imageTracked_of_mem_names named (mem_map_of_mem listed)
    have aliases := swept.covers whole merged tracked (same ▸ used)
    rcases (mem_names.mp named).1 with byId | byAlias
    · rw [same] at byId
      rcases covers ref listed image member used byId with inUse | ⟨row, known, equal, among⟩
      · exact swept.starts (byId ▸ inUse)
      · obtain ⟨spelling, also, spelled⟩ := mem_map.mp among
        obtain ⟨whole', merged', same', also'⟩ := (exists_coalesceImagesByID (spelling ∈ ·.aliases)
          (mem_aliases_mergeRows spelling) inventory.images).mpr ⟨row, known, equal, also⟩
        obtain rfl := Inventory.merged_unique merged' merged (same'.trans same.symm)
        exact aliases (byId.trans spelled.symm ▸ mem_map_of_mem also')
    · exact aliases byAlias

theorem pruneUnusedImages_complete (named : refs ≠ [])
    (complete : answers.Complete plugins name) :
    (pruneUnusedImages answers containers plugins images name refs).2 =
      (refs.foldl (pruneRef answers) ((coalesceImagesByID images).foldl
        (pruneImage answers (refs.map normalizeImageRef)) ⟨refsInUse containers plugins name, [], [], []⟩)).calls := by
  have records : (plugins.any fun plugin => plugin.1 ≠ name && !answers.readsRecord plugin.1) = false := by
    rw [any_eq_false]
    intro plugin installed
    by_cases other : plugin.1 = name
    · simp [other]
    · simp [complete.seesRecords plugin installed other]
  unfold pruneUnusedImages
  rw [if_neg named, complete.seesContainers, complete.seesPlugins, records, complete.seesImages]
  rfl

theorem pruneUnusedImages_incomplete (incomplete : ¬ answers.Complete plugins name) :
    (pruneUnusedImages answers containers plugins images name refs).2 = [] := by
  unfold pruneUnusedImages
  split
  case isTrue => rfl
  case isFalse =>
    split
    case isTrue => rfl
    case isFalse seesContainers =>
      split
      case isTrue => rfl
      case isFalse seesPlugins =>
        split
        case isTrue => rfl
        case isFalse seesRecords =>
          split
          case isTrue => rfl
          case isFalse seesImages =>
            refine absurd ⟨?_, ?_, ?_, ?_⟩ incomplete
            · exact Bool.eq_true_of_not_eq_false seesContainers
            · exact Bool.eq_true_of_not_eq_false seesPlugins
            · intro plugin installed other
              by_contra unread
              refine seesRecords (any_eq_true.mpr ⟨plugin, installed, ?_⟩)
              simp [other, Bool.eq_false_iff.mpr unread]
            · exact Bool.eq_true_of_not_eq_false seesImages

end Removal

/-- The sweep for orphans spares every image in use. The clean-up after an uninstall does so exactly
if no reference of the plugin is the bare ID of an image in use that nothing else names by its ID:
the pass over the images notes the tags and digests of an image that it keeps, but not its ID. -/
theorem image_cleanup_spares (answers : Answers) {containers : List ContainerSummary} (inventory : Inventory containers)
    (plugins : List (Text × PluginTables)) :
    (∀ minAge now, inventory.Spares plugins (cleanupOrphanedImages answers plugins inventory.images minAge now).2) ∧
    ∀ name refs,
      inventory.Spares (otherPlugins plugins name)
          (pruneUnusedImages answers containers plugins inventory.images name refs).2 ↔
        (answers.Complete plugins name → inventory.CoversIds plugins name refs) := by
  refine ⟨cleanupOrphanedImages_spares, fun name refs => ?_⟩
  have none : inventory.Spares (otherPlugins plugins name) [] := fun _ called => absurd called not_mem_nil
  by_cases complete : answers.Complete plugins name
  · by_cases named : refs = []
    · subst named
      exact iff_of_true none fun _ _ listed => absurd listed not_mem_nil
    · rw [pruneUnusedImages_complete named complete]
      have begins := Swept.begins inventory (otherPlugins plugins name) (refs.map normalizeImageRef)
        (refsInUse containers plugins name)
      have swept := begins.run answers (List.Subset.refl inventory.merged) (refsInUse_keeps name)
      rw [nil_append] at swept
      rw [prune_spares_iff swept]
      exact ⟨fun covers _ => covers, fun covers => covers complete⟩
  · rw [pruneUnusedImages_incomplete complete]
    exact iff_of_true none fun claimed => absurd claimed complete

def calmAnswers : Answers where
  listsContainers := true
  listsPlugins := true
  readsRecord := fun _ => true
  listsImages := true
  removes := fun _ _ => true
  remaining := fun _ => some []
  cancelled := fun _ => false

/-- One image, tagged `app:1`. -/
def appImage : Inventory [] where
  images := [⟨"sha256:0a", ["app:1"], [], 0, 0⟩]
  identified := by decide
  unambiguous := by decide
  counted := by decide

def tracksOnly (ref : Text) : PluginTables :=
  { plugin := ⟨[], .running, [], .ociImage, [], [], 1, false⟩, services := [], instances := [], volumes := [],
    ports := [], config := [],
    containerRefs := [⟨"main", "app", ref, [], []⟩], bearerToken := none }

/-- The plugin `one` tracks the image by its ID. Its uninstall removes the image, which the plugin
`two` tracks by the tag. -/
theorem shared_image_removed :
    ¬ ∀ (answers : Answers) (containers : List ContainerSummary) (inventory : Inventory containers)
      (plugins : List (Text × PluginTables)) (name : Text) (refs : List Text),
      inventory.Spares (otherPlugins plugins name)
        (pruneUnusedImages answers containers plugins inventory.images name refs).2 := by
  intro spares
  have calls : (pruneUnusedImages calmAnswers [] [("two", tracksOnly "app:1")] appImage.images "one"
      ["sha256:0a"]).2 = ["sha256:0a"] := by decide
  have spared := spares calmAnswers [] appImage [("two", tracksOnly "app:1")] "one"
    ["sha256:0a"]
  rw [calls] at spared
  refine spared _ mem_cons_self "sha256:0a" ⟨_, mem_cons_self, rfl, by decide⟩ (.inl ?_)
  exact ⟨_, mem_cons_self, "app:1", by decide, _, mem_cons_self, rfl, by decide⟩

end Tierd.Plugin.Images
