import Tierd.Data.Trees

namespace Tierd.Backup

open Tierd.Data Tierd.Data.Paths List

variable {κ : Type}

def passedOver (name : Text) : Bool := name = ['.'] ∨ name = ['.', '.'] ∨ slash ∈ name

/-- `levels` is what is left of the maximal depth. -/
def walkRsyncWorkUnits (tree : FileTree κ) : Nat → List Text → List (List Text)
  | 0, rel => if rel = [] then [] else [rel]
  | levels + 1, rel =>
    let entries := tree.readDir rel
    if entries = [] then if rel = [] then [] else [rel]
    else if ∀ entry ∈ entries, entry.isDir = false then
      if rel = [] then (entries.filter fun entry => !passedOver entry.name).map fun entry => [entry.name]
      else [rel]
    else (entries.filter fun entry => !passedOver entry.name).flatMap fun entry =>
      if entry.isDir then walkRsyncWorkUnits tree levels (rel ++ [entry.name]) else [rel ++ [entry.name]]

def enumerateRsyncWorkUnits (tree : FileTree κ) : List (List Text) := walkRsyncWorkUnits tree 2 []

section Enumeration

variable {tree : FileTree κ} {rel path unit : List Text} {levels : Nat}

theorem passedOver_of_find {name : Text} {entry : TreeEntry κ} (found : tree.find (rel ++ [name]) = some entry) :
    passedOver name = false := by
  have proper := tree.isEntryName_of_find found name (by simp)
  simp [passedOver, proper.1.2, proper.2.1, proper.2.2]

theorem walk_covers {rest : List Text} {content : κ} (enough : rel ≠ [] ∨ levels ≠ 0) (strictly : rest ≠ [])
    (found : tree.find (rel ++ rest) = some (.file content)) :
    ∃ unit ∈ walkRsyncWorkUnits tree levels rel, unit <+: rel ++ rest := by
  induction levels generalizing rel rest with
  | zero =>
    have inside : rel ≠ [] := enough.resolve_right (· rfl)
    simp [walkRsyncWorkUnits, inside]
  | succ levels ih =>
    obtain ⟨name, rest, rfl⟩ := exists_cons_of_ne_nil strictly
    have listed : ∃ entry, tree.find (rel ++ [name]) = some entry := by
      cases rest with
      | nil => exact ⟨_, found⟩
      | cons second rest =>
        have deeper : tree.find (rel ++ [name] ++ second :: rest) = some (.file content) := by simpa using found
        exact ⟨.dir, tree.find_above deeper (cons_ne_nil _ _)⟩
    obtain ⟨entry, here⟩ := listed
    have member := tree.mem_readDir here
    have kept : (⟨name, entry.isDir⟩ : DirEntry) ∈ (tree.readDir rel).filter fun entry => !passedOver entry.name :=
      mem_filter.mpr ⟨member, by simp [passedOver_of_find here]⟩
    have below : rel ++ [name] <+: rel ++ name :: rest := ⟨rest, by simp⟩
    simp only [walkRsyncWorkUnits]
    split_ifs with empty root plain root
    · simp [empty] at member
    · simp [empty] at member
    · exact ⟨[name], mem_map.mpr ⟨_, kept, rfl⟩, by simp [root]⟩
    · exact ⟨rel, mem_singleton_self rel, prefix_append rel _⟩
    · cases entry with
      | file other => exact ⟨rel ++ [name], mem_flatMap.mpr ⟨_, kept, mem_singleton_self _⟩, below⟩
      | dir =>
        have further : rest ≠ [] := by
          rintro rfl
          simp [here] at found
        have deeper : tree.find (rel ++ [name] ++ rest) = some (.file content) := by simpa using found
        obtain ⟨unit, walked, above⟩ := ih (.inl (by simp)) further deeper
        exact ⟨unit, mem_flatMap.mpr ⟨_, kept, walked⟩, by simpa using above⟩

theorem units_cover {content : κ} (found : tree.files path = some content) :
    ∃ unit ∈ enumerateRsyncWorkUnits tree, unit <+: path := by
  have file := tree.files_eq_some.mp found
  have inside : path ≠ [] := by
    rintro rfl
    simp [FileTree.find] at file
  exact walk_covers (.inr (by decide)) inside file

end Enumeration

abbrev Files (κ : Type) := List Text → Option κ

/-- What rsync copies to: at or below the given places the source's files, and with `--delete`
nothing else. -/
def place (delete : Bool) (source : FileTree κ) (places : List (List Text)) (now : Files κ) : Files κ := fun path =>
  if ∃ place ∈ places, place <+: path then
    match source.find path with
    | some (.file content) => some content
    | some .dir => none
    | none => if delete then none else now path
  else now path

def unitText (unit : List Text) : Text := [slash].intercalate unit

def SkippedLine (line : Text) : Prop := line = [] ∨ line.head? = some '#' ∨ line.head? = some ';'
deriving Decidable

/-- `--files-from`: one path per line, from the root of the source. -/
def filesFrom (list : Text) : List (List Text) := ((Text.lines list).filter fun line => ¬ SkippedLine line).map names

/-- On a mount the units come from the source, over SSH from the local destination. -/
inductive Transfer where
  /-- `runParallelRsyncMount`; delete mode never comes here, `rsyncMount` then runs a single stream. -/
  | mount
  /-- `runParallelRsyncSSH`. -/
  | pull (delete : Bool)
deriving DecidableEq

def Transfer.delete : Transfer → Bool
  | .mount => false
  | .pull delete => delete

def Transfer.places : Transfer → List Text → List (List Text)
  | .mount, unit => filesFrom (unitText unit ++ ['\n'])
  | .pull _, unit => [unit]

/-- rsync succeeds: every path of the list exists, or the remote path is of the kind the local one
has. -/
def Transfer.Accepts (transfer : Transfer) (source dest : FileTree κ) (unit : List Text) : Prop :=
  match transfer with
  | .mount => ∀ place ∈ Transfer.places .mount unit, (source.find place).isSome
  | .pull _ => (source.find unit).map TreeEntry.isDir = (dest.find unit).map TreeEntry.isDir

instance (transfer : Transfer) (source dest : FileTree κ) (unit : List Text) :
    Decidable (transfer.Accepts source dest unit) := by
  unfold Transfer.Accepts
  cases transfer <;> infer_instance

def Transfer.units (transfer : Transfer) (source dest : FileTree κ) : List (List Text) :=
  match transfer with
  | .mount => enumerateRsyncWorkUnits source
  | .pull _ => enumerateRsyncWorkUnits dest

/-- rsync is taken to copy what it is told to, whole. -/
def Transfer.runUnit (transfer : Transfer) (source dest : FileTree κ) (now : Files κ) (unit : List Text) :
    Option (Files κ) :=
  if transfer.Accepts source dest unit then some (place transfer.delete source (transfer.places unit) now) else none

/-- The units in the order in which the workers finish them. Without a unit a pull falls back to a
single stream. -/
def Transfer.runParallel (transfer : Transfer) (source dest : FileTree κ) (order : List (List Text)) :
    Option (Files κ) :=
  match transfer, order with
  | .pull delete, [] => some (place delete source [[]] dest.files)
  | transfer, order => order.foldlM (transfer.runUnit source dest) dest.files

def Transfer.Complete (transfer : Transfer) (source : FileTree κ) (after : Files κ) : Prop :=
  (∀ path content, source.files path = some content → after path = some content) ∧
    (transfer.delete = true → ∀ path content, after path = some content → source.files path = some content)

section Placing

variable {delete : Bool} {source dest : FileTree κ} {places : List (List Text)} {now : Files κ} {path : List Text}
  {transfer : Transfer} {order : List (List Text)}

theorem place_of_file {content : κ} (file : source.files path = some content)
    (covered : ∃ place ∈ places, place <+: path) :
    place delete source places now path = some content := by
  rw [place, if_pos covered, FileTree.files_eq_some.mp file]

theorem place_delete (covered : ∃ place ∈ places, place <+: path) :
    place true source places now path = source.files path := by
  rw [place, if_pos covered, FileTree.files]
  split <;> simp_all

theorem foldl_place {value : Option κ}
    (settles : ∀ unit now, (∃ place ∈ transfer.places unit, place <+: path) →
      place delete source (transfer.places unit) now path = value)
    (settled : now path = value ∨ ∃ unit ∈ order, ∃ place ∈ transfer.places unit, place <+: path) :
    order.foldl (fun now unit => place delete source (transfer.places unit) now) now path = value := by
  induction order generalizing now with
  | nil => simpa using settled
  | cons unit rest ih =>
    refine ih ?_
    by_cases covered : ∃ place ∈ transfer.places unit, place <+: path
    · exact .inl (settles unit now covered)
    · rcases settled with already | ⟨other, member, later⟩
      · exact .inl ((if_neg covered).trans already)
      · rcases mem_cons.mp member with rfl | further
        · exact absurd later covered
        · exact .inr ⟨other, further, later⟩

theorem foldl_place_elsewhere (apart : ∀ unit ∈ order, ¬ ∃ place ∈ transfer.places unit, place <+: path) :
    order.foldl (fun now unit => place delete source (transfer.places unit) now) now path = now path := by
  induction order generalizing now with
  | nil => rfl
  | cons unit rest ih =>
    refine (ih fun other member => apart other (mem_cons_of_mem _ member)).trans ?_
    exact if_neg (apart unit mem_cons_self)

theorem foldlM_runUnit :
    order.foldlM (transfer.runUnit source dest) now =
      if ∀ unit ∈ order, transfer.Accepts source dest unit then
        some (order.foldl (fun now unit => place transfer.delete source (transfer.places unit) now) now)
      else none := by
  induction order generalizing now with
  | nil => simp
  | cons unit rest ih =>
    rw [foldlM_cons]
    by_cases accepted : transfer.Accepts source dest unit
    · simp [Transfer.runUnit, accepted, ih]
    · simp [Transfer.runUnit, accepted]

end Placing

/-- rsync reads the line of the unit as the unit. -/
def ReadAsItself (unit : List Text) : Prop :=
  '\n' ∉ unitText unit ∧ (unitText unit).head? ≠ some '#' ∧ (unitText unit).head? ≠ some ';'
deriving Decidable

/-- A run that reports success leaves a complete backup, in whatever order the workers take the
units. -/
def Transfer.SuccessIsComplete (transfer : Transfer) (source dest : FileTree κ) : Prop :=
  ∀ order after, order.Perm (transfer.units source dest) → transfer.runParallel source dest order = some after →
    transfer.Complete source after

/-- On a mount: some line names nothing in the source, so that no run succeeds; or every unit is
read as itself, or its files are there already or are copied by lines of other units. Over SSH: the
local directory is empty, or some local unit is not there on the remote side with its kind, or the
local units cover the remote files. -/
def Transfer.Sound (transfer : Transfer) (source dest : FileTree κ) : Prop :=
  match transfer with
  | .mount =>
    (∃ unit ∈ enumerateRsyncWorkUnits source, ∃ place ∈ filesFrom (unitText unit ++ ['\n']), source.find place = none) ∨
      ∀ unit ∈ enumerateRsyncWorkUnits source, ReadAsItself unit ∨
        ∀ path content, unit <+: path → source.files path = some content → dest.files path = some content ∨
          ∃ other ∈ enumerateRsyncWorkUnits source, ∃ place ∈ filesFrom (unitText other ++ ['\n']), place <+: path
  | .pull _ =>
    enumerateRsyncWorkUnits dest = [] ∨
      (∃ unit ∈ enumerateRsyncWorkUnits dest,
        (source.find unit).map TreeEntry.isDir ≠ (dest.find unit).map TreeEntry.isDir) ∨
      ∀ path content, source.files path = some content → ∃ unit ∈ enumerateRsyncWorkUnits dest, unit <+: path

section Soundness

variable {source dest : FileTree κ} {transfer : Transfer} {unit : List Text}

theorem walk_found {rel : List Text} {levels : Nat} {entry : TreeEntry κ} (here : source.find rel = some entry)
    (walked : unit ∈ walkRsyncWorkUnits source levels rel) : unit ≠ [] ∧ ∃ entry, source.find unit = some entry := by
  have whole (inside : rel ≠ []) (only : unit ∈ [rel]) : unit ≠ [] ∧ ∃ entry, source.find unit = some entry := by
    obtain rfl := mem_singleton.mp only
    exact ⟨inside, entry, here⟩
  induction levels generalizing rel entry with
  | zero =>
    simp only [walkRsyncWorkUnits] at walked
    split_ifs at walked with root
    · cases walked
    · exact whole root walked
  | succ levels ih =>
    simp only [walkRsyncWorkUnits] at walked
    split_ifs at walked with empty root plain root
    · cases walked
    · exact whole root walked
    · obtain ⟨listed, member, rfl⟩ := mem_map.mp walked
      obtain ⟨found, there, _⟩ := source.find_of_mem_readDir (mem_filter.mp member).1
      exact ⟨cons_ne_nil _ _, found, by simpa [root] using there⟩
    · exact whole root walked
    · obtain ⟨listed, member, below⟩ := mem_flatMap.mp walked
      obtain ⟨found, there, _⟩ := source.find_of_mem_readDir (mem_filter.mp member).1
      split_ifs at below
      · refine ih there below fun inside only => ?_
        obtain rfl := mem_singleton.mp only
        exact ⟨inside, found, there⟩
      · obtain rfl := mem_singleton.mp below
        exact ⟨by simp, found, there⟩

theorem filesFrom_of_readAsItself (walked : unit ∈ enumerateRsyncWorkUnits source) (read : ReadAsItself unit) :
    filesFrom (unitText unit ++ ['\n']) = [unit] := by
  have root : source.find [] = some .dir := if_pos rfl
  obtain ⟨inside, entry, found⟩ := walk_found root walked
  have proper := source.isEntryName_of_find found
  have single : Text.lines (unitText unit ++ ['\n']) = [unitText unit, []] := by
    have one : (unitText unit).splitOn '\n' = [unitText unit] := splitOn_eq_singleton read.1
    rw [Text.lines, splitOn_append_cons, one]
    rfl
  have shown : names (unitText unit) = unit := names_spelled proper
  have nonempty : unitText unit ≠ [] := by
    intro empty
    rw [empty] at shown
    exact inside (shown.symm.trans (by decide))
  have kept : ¬ SkippedLine (unitText unit) := by
    rintro (blank | comment | comment)
    · exact nonempty blank
    · exact read.2.1 comment
    · exact read.2.2 comment
  have blank : SkippedLine [] := .inl rfl
  simp [filesFrom, single, kept, blank, shown]

variable {order : List (List Text)}

theorem run_at_file {after : Files κ} {path : List Text} {content : κ}
    (ran : order.foldlM (transfer.runUnit source dest) dest.files = some after)
    (file : source.files path = some content) :
    after path = some content ↔ dest.files path = some content ∨
      ∃ unit ∈ order, ∃ place ∈ transfer.places unit, place <+: path := by
  rw [foldlM_runUnit] at ran
  split_ifs at ran
  obtain rfl := Option.some.inj ran
  constructor
  · intro there
    by_cases covered : ∃ unit ∈ order, ∃ place ∈ transfer.places unit, place <+: path
    · exact .inr covered
    · refine .inl ((foldl_place_elsewhere fun unit member reached => ?_).symm.trans there)
      exact covered ⟨unit, member, reached⟩
  · exact foldl_place fun unit now covered => place_of_file file covered

theorem run_of_accepts (accepted : ∀ unit ∈ order, transfer.Accepts source dest unit) :
    ∃ after, order.foldlM (transfer.runUnit source dest) dest.files = some after := by
  rw [foldlM_runUnit, if_pos accepted]
  exact ⟨_, rfl⟩

theorem accepts_of_run {after : Files κ}
    (ran : order.foldlM (transfer.runUnit source dest) dest.files = some after) :
    ∀ unit ∈ order, transfer.Accepts source dest unit := by
  rw [foldlM_runUnit] at ran
  split_ifs at ran with accepted
  exact accepted

theorem mount_sound_iff : Transfer.mount.SuccessIsComplete source dest ↔ Transfer.mount.Sound source dest := by
  constructor
  · intro complete
    by_cases dangling : ∃ unit ∈ enumerateRsyncWorkUnits source, ∃ place ∈ filesFrom (unitText unit ++ ['\n']),
        source.find place = none
    · exact .inl dangling
    · refine .inr fun unit walked => or_iff_not_imp_left.mpr fun _ path content below file => ?_
      have accepted : ∀ unit ∈ enumerateRsyncWorkUnits source, Transfer.mount.Accepts source dest unit := by
        intro unit walked place listed
        rw [← Option.ne_none_iff_isSome]
        exact fun absent => dangling ⟨unit, walked, place, listed, absent⟩
      obtain ⟨after, ran⟩ := run_of_accepts accepted
      exact (run_at_file ran file).mp ((complete _ after (List.Perm.refl _) ran).1 path content file)
  · intro sound order after shuffled ran
    refine ⟨fun path content file => (run_at_file ran file).mpr ?_, nofun⟩
    obtain ⟨unit, walked, above⟩ := units_cover file
    rcases sound with ⟨broken, member, place, listed, absent⟩ | sound
    · have accepted := accepts_of_run ran broken (shuffled.mem_iff.mpr member) place listed
      simp [absent] at accepted
    · rcases sound unit walked with read | elsewhere
      · refine .inr ⟨unit, shuffled.mem_iff.mpr walked, unit, ?_, above⟩
        rw [Transfer.places, filesFrom_of_readAsItself walked read]
        exact mem_singleton_self unit
      · rcases elsewhere path content above file with already | ⟨other, member, covered⟩
        · exact .inl already
        · exact .inr ⟨other, shuffled.mem_iff.mpr member, covered⟩

theorem runParallel_of_ne_nil (nonempty : order ≠ []) :
    transfer.runParallel source dest order = order.foldlM (transfer.runUnit source dest) dest.files := by
  obtain ⟨unit, rest, rfl⟩ := exists_cons_of_ne_nil nonempty
  cases transfer <;> rfl

theorem pull_delete_exact {after : Files κ} {path : List Text} {content : κ}
    (ran : order.foldlM ((Transfer.pull true).runUnit source dest) dest.files = some after)
    (all : ∀ unit ∈ enumerateRsyncWorkUnits dest, unit ∈ order) (there : after path = some content) :
    source.files path = some content := by
  rw [foldlM_runUnit] at ran
  split_ifs at ran
  obtain rfl := Option.some.inj ran
  by_cases covered : ∃ unit ∈ order, ∃ place ∈ (Transfer.pull true).places unit, place <+: path
  · exact (foldl_place (fun unit now reached => place_delete reached) (.inr covered)).symm.trans there
  · have before : dest.files path = some content := by
      refine (foldl_place_elsewhere fun unit member reached => ?_).symm.trans there
      exact covered ⟨unit, member, reached⟩
    obtain ⟨unit, walked, above⟩ := units_cover before
    exact absurd ⟨unit, all unit walked, unit, mem_singleton_self unit, above⟩ covered

theorem pull_sound_iff {delete : Bool} :
    (Transfer.pull delete).SuccessIsComplete source dest ↔ (Transfer.pull delete).Sound source dest := by
  constructor
  · intro complete
    refine or_iff_not_imp_left.mpr fun some_unit => or_iff_not_imp_left.mpr fun same path content file => ?_
    have accepted : ∀ unit ∈ enumerateRsyncWorkUnits dest, (Transfer.pull delete).Accepts source dest unit :=
      fun unit walked => not_not.mp fun different => same ⟨unit, walked, different⟩
    obtain ⟨after, ran⟩ := run_of_accepts accepted
    have copied := complete _ after (List.Perm.refl _) ((runParallel_of_ne_nil some_unit).trans ran)
    rcases (run_at_file ran file).mp (copied.1 path content file) with already | ⟨unit, walked, place, only, above⟩
    · exact units_cover already
    · exact ⟨unit, walked, mem_singleton.mp only ▸ above⟩
  · intro sound order after shuffled ran
    by_cases single : order = []
    · subst single
      obtain rfl := Option.some.inj ran
      have root (path : List Text) : ∃ place ∈ ([[]] : List (List Text)), place <+: path :=
        ⟨[], mem_singleton_self [], nil_prefix⟩
      refine ⟨fun path content file => place_of_file file (root path), fun deleting path content there => ?_⟩
      obtain rfl : delete = true := deleting
      exact (place_delete (root path)).symm.trans there
    · rw [runParallel_of_ne_nil single] at ran
      have accepted := accepts_of_run ran
      have all : ∀ unit ∈ enumerateRsyncWorkUnits dest, unit ∈ order := fun unit walked => shuffled.mem_iff.mpr walked
      rcases sound with none_found | ⟨unit, walked, different⟩ | covers
      · have emptied : order.Perm [] := by
          rw [← none_found]
          exact shuffled
        exact absurd emptied.eq_nil single
      · exact absurd (accepted unit (all unit walked)) different
      · refine ⟨fun path content file => (run_at_file ran file).mpr (.inr ?_), fun deleting path content there => ?_⟩
        · obtain ⟨unit, walked, above⟩ := covers path content file
          exact ⟨unit, all unit walked, unit, mem_singleton_self unit, above⟩
        · obtain rfl : delete = true := deleting
          exact pull_delete_exact ran all there

end Soundness

/-- A reported success is a complete backup exactly for these trees. -/
theorem success_is_complete_iff (transfer : Transfer) (source dest : FileTree κ) :
    transfer.SuccessIsComplete source dest ↔ transfer.Sound source dest := by
  cases transfer with
  | mount => exact mount_sound_iff
  | pull delete => exact pull_sound_iff

def commented : FileTree Nat where
  entries := ⟨[⟨[['a']], .dir⟩, ⟨[['a'], ['x']], .file 1⟩, ⟨[['#', 'b']], .file 2⟩], by unfold List.NodupKeys; decide⟩
  proper := by decide
  housed := by decide

/-- The directory `a` alone. -/
def uncommented : FileTree Nat where
  entries := ⟨[⟨[['a']], .dir⟩, ⟨[['a'], ['x']], .file 1⟩], by unfold List.NodupKeys; decide⟩
  proper := by decide
  housed := by decide

/-- Both ways report success and leave the second file out: on a mount its line is skipped, and over
SSH no unit leads to it. -/
theorem second_file_left_out :
    (∃ after, Transfer.mount.runParallel commented uncommented [[['#', 'b']], [['a']]] = some after ∧
        commented.files [['#', 'b']] = some 2 ∧ after [['#', 'b']] = none) ∧
      (∃ after, (Transfer.pull true).runParallel commented uncommented [[['a']]] = some after ∧
        commented.files [['#', 'b']] = some 2 ∧ after [['#', 'b']] = none) ∧
      Transfer.mount.units commented uncommented = [[['#', 'b']], [['a']]] ∧
      (Transfer.pull true).units commented uncommented = [[['a']]] :=
  ⟨⟨_, rfl, by decide, by decide⟩, ⟨_, rfl, by decide, by decide⟩, by decide, by decide⟩

end Tierd.Backup
