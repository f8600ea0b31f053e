import Tierd.Data.Text

namespace Tierd.Data.Paths

open List

def slash : Char := '/'

/-- One part of a path, seen from a directory. -/
def enter (directory : List Text) (part : Text) : List Text :=
  if part = [] ∨ part = ['.'] then directory
  else if part = ['.', '.'] then directory.dropLast
  else directory ++ [part]

theorem enter_cons {directory : List Text} {c : Char} {rest : Text} (noDot : c ≠ '.') :
    enter directory (c :: rest) = directory ++ [c :: rest] := by
  simp [enter, noDot]

/-- A path is followed part by part. -/
def follow (directory parts : List Text) : List Text := parts.foldl enter directory

/-- The directory names an absolute path leads through. -/
def names (path : Text) : List Text := follow [] (path.splitOn slash)

/-- `filepath.Clean` on an absolute path. -/
def clean (path : Text) : Text := slash :: [slash].intercalate (names path)

/-- A directory name is not empty and has no slash in it. -/
def IsName (part : Text) : Prop := part ≠ [] ∧ slash ∉ part

theorem not_mem_of_mem_splitOn {separator : Char} {text part : Text}
    (member : part ∈ text.splitOn separator) : separator ∉ part := by
  induction text generalizing part with
  | nil =>
    obtain rfl : part = [] := by simpa using member
    exact not_mem_nil
  | cons c rest ih =>
    unfold List.splitOn at ih member
    rw [splitOnP_cons_eq_if_modifyHead] at member
    split at member
    case isTrue =>
      rcases mem_cons.mp member with rfl | later
      · exact not_mem_nil
      · exact ih later
    case isFalse other =>
      cases parts : rest.splitOnP (· == separator) with
      | nil => simp [parts] at member
      | cons head tail =>
        simp only [parts, mem_cons] at ih
        simp only [parts, modifyHead_cons, mem_cons] at member
        rcases member with rfl | later
        · rintro (_ | ⟨_, inHead⟩)
          · simp at other
          · exact ih (.inl rfl) inHead
        · exact ih (.inr later)

theorem splitOn_append_cons {separator : Char} (first second : Text) :
    (first ++ separator :: second).splitOn separator = first.splitOn separator ++ second.splitOn separator :=
  splitOnP_append_cons first second (beq_self_eq_true separator)

theorem mem_follow {directory parts : List Text} {part : Text} (member : part ∈ follow directory parts) :
    part ∈ directory ∨ part ∈ parts ∧ part ≠ [] ∧ part ≠ ['.'] ∧ part ≠ ['.', '.'] := by
  induction parts generalizing directory with
  | nil => exact .inl member
  | cons next rest ih =>
    rcases ih member with entered | ⟨later, proper⟩
    · unfold enter at entered
      split_ifs at entered with stays climbs
      · exact .inl entered
      · exact .inl (mem_of_mem_dropLast entered)
      · rcases mem_append.mp entered with old | new
        · exact .inl old
        · obtain rfl := mem_singleton.mp new
          exact .inr ⟨mem_cons_self, fun empty => stays (.inl empty), fun dot => stays (.inr dot), climbs⟩
    · exact .inr ⟨mem_cons_of_mem next later, proper⟩

theorem names_isName (path : Text) : ∀ part ∈ names path, IsName part := by
  intro part member
  obtain ⟨listed, filled, _⟩ := (mem_follow member).resolve_left not_mem_nil
  exact ⟨filled, not_mem_of_mem_splitOn listed⟩

theorem follow_append (directory first second : List Text) :
    follow directory (first ++ second) = follow (follow directory first) second :=
  foldl_append

theorem names_below (directory path : Text) :
    names (directory ++ slash :: path) = follow (names directory) (path.splitOn slash) := by
  unfold names
  rw [splitOn_append_cons, follow_append]

theorem splitOn_spelled {parts : List Text} (valid : ∀ part ∈ parts, IsName part)
    (nonempty : parts ≠ []) : ([slash].intercalate parts).splitOn slash = parts :=
  splitOn_intercalate slash (fun part member => (valid part member).2) nonempty

theorem spelled_append {first second : List Text} (left : first ≠ []) (right : second ≠ []) :
    [slash].intercalate (first ++ second) = [slash].intercalate first ++ slash :: [slash].intercalate second := by
  induction first with
  | nil => exact absurd rfl left
  | cons head rest ih =>
    cases rest with
    | nil =>
      obtain ⟨next, more, rfl⟩ := exists_cons_of_ne_nil right
      simp [intercalate_cons_cons]
    | cons next more =>
      have tail := ih (cons_ne_nil next more)
      simp only [cons_append, intercalate_cons_cons] at tail ⊢
      rw [tail]
      simp only [append_assoc]

theorem spelled_inj {first second : List Text} (left : ∀ part ∈ first, IsName part)
    (right : ∀ part ∈ second, IsName part) (same : [slash].intercalate first = [slash].intercalate second) :
    first = second := by
  have unspelled : ∀ {parts : List Text}, (∀ part ∈ parts, IsName part) →
      [slash].intercalate parts = [] → parts = [] := by
    intro parts valid empty
    by_contra nonempty
    have single := splitOn_spelled valid nonempty
    rw [empty] at single
    exact (valid [] (single ▸ mem_singleton_self [])).1 rfl
  by_cases none : first = []
  · subst none
    exact (unspelled right same.symm).symm
  · have other : second ≠ [] := fun empty => none (unspelled left (by rw [same, empty]; rfl))
    rw [← splitOn_spelled left none, same, splitOn_spelled right other]

theorem clean_inj {first second : Text} : clean first = clean second ↔ names first = names second := by
  unfold clean
  constructor
  · intro same
    exact spelled_inj (names_isName first) (names_isName second) (List.cons.inj same).2
  · intro same
    rw [same]

theorem follow_of_proper {directory parts : List Text}
    (proper : ∀ part ∈ parts, part ≠ [] ∧ part ≠ ['.'] ∧ part ≠ ['.', '.']) :
    follow directory parts = directory ++ parts := by
  induction parts generalizing directory with
  | nil => simp [follow]
  | cons next rest ih =>
    obtain ⟨filled, noDot, noParent⟩ := proper next mem_cons_self
    have entered : enter directory next = directory ++ [next] := by simp [enter, filled, noDot, noParent]
    have further : follow (directory ++ [next]) rest = directory ++ [next] ++ rest :=
      ih fun part member => proper part (mem_cons_of_mem next member)
    calc follow directory (next :: rest) = follow (directory ++ [next]) rest := by rw [← entered]; rfl
      _ = directory ++ next :: rest := by rw [further, append_assoc]; rfl

theorem names_clean (path : Text) : names (clean path) = names path := by
  have proper : ∀ part ∈ names path, part ≠ [] ∧ part ≠ ['.'] ∧ part ≠ ['.', '.'] :=
    fun _ member => ((mem_follow member).resolve_left not_mem_nil).2
  by_cases root : names path = []
  · have single : clean path = [slash] := by simp [clean, root]
    rw [single, root]
    rfl
  · have spelled : (clean path).splitOn slash = [] :: names path := by
      have parts : ([] ++ slash :: [slash].intercalate (names path)).splitOn slash =
          [].splitOn slash ++ ([slash].intercalate (names path)).splitOn slash := splitOn_append_cons _ _
      rw [splitOn_spelled (names_isName path) root] at parts
      simpa [clean] using parts
    calc names (clean path) = follow [] ([] :: names path) := by rw [names, spelled]
      _ = follow [] (names path) := by simp [follow, enter]
      _ = names path := by
          rw [follow_of_proper proper]
          rfl

theorem below_prefix_iff {directory : List Text} {path : Text} (valid : ∀ part ∈ directory, IsName part)
    (nonempty : directory ≠ []) :
    slash :: [slash].intercalate directory ++ [slash] <+: clean path ↔
      ∃ below, below ≠ [] ∧ names path = directory ++ below := by
  constructor
  · rintro ⟨rest, spelled⟩
    have spelled : [slash].intercalate (names path) = [slash].intercalate directory ++ slash :: rest := by
      simpa [clean] using spelled.symm
    have somewhere : names path ≠ [] := by
      intro empty
      simp [empty] at spelled
    refine ⟨rest.splitOn slash, splitOn_ne_nil slash rest, ?_⟩
    calc names path = ([slash].intercalate (names path)).splitOn slash :=
          (splitOn_spelled (names_isName path) somewhere).symm
      _ = ([slash].intercalate directory ++ slash :: rest).splitOn slash := by rw [spelled]
      _ = directory ++ rest.splitOn slash := by rw [splitOn_append_cons, splitOn_spelled valid nonempty]
  · rintro ⟨below, further, leads⟩
    refine ⟨[slash].intercalate below, ?_⟩
    simp [clean, leads, spelled_append nonempty further]

/-- What a relative path amounts to: so many directories up, and then down through
`below`. -/
structure Relative where
  ups : Nat
  below : List Text
deriving DecidableEq, Repr

def Relative.enter (relative : Relative) (part : Text) : Relative :=
  if part = [] ∨ part = ['.'] then relative
  else if part = ['.', '.'] then
    if relative.below = [] then { relative with ups := relative.ups + 1 }
    else { relative with below := relative.below.dropLast }
  else { relative with below := relative.below ++ [part] }

def Relative.ofParts (parts : List Text) : Relative := parts.foldl Relative.enter ⟨0, []⟩

/-- The place a relative path leads to. -/
def Relative.reach (relative : Relative) (directory : List Text) : List Text :=
  directory.rdrop relative.ups ++ relative.below

theorem rdrop_succ (directory : List Text) (count : Nat) :
    directory.rdrop (count + 1) = (directory.rdrop count).dropLast := by
  simp only [List.rdrop, dropLast_eq_take, take_take, length_take]
  congr 1
  omega

theorem Relative.reach_enter (relative : Relative) (directory : List Text) (part : Text) :
    (relative.enter part).reach directory = Paths.enter (relative.reach directory) part := by
  unfold Relative.enter Paths.enter
  split_ifs with stays climbs top
  · rfl
  · simp only [reach, top, append_nil]
    exact rdrop_succ directory relative.ups
  · simp only [reach]
    rw [dropLast_append_of_ne_nil top]
  · simp only [reach, append_assoc]

theorem follow_eq_reach (directory parts : List Text) :
    follow directory parts = (Relative.ofParts parts).reach directory := by
  have steps : ∀ relative : Relative,
      (parts.foldl Relative.enter relative).reach directory = follow (relative.reach directory) parts := by
    induction parts with
    | nil => exact fun _ => rfl
    | cons next rest ih =>
      intro relative
      rw [foldl_cons, ih, Relative.reach_enter]
      rfl
  simpa [Relative.reach, Relative.ofParts] using (steps ⟨0, []⟩).symm

theorem Relative.reach_eq_append_iff {relative : Relative} {directory below : List Text} :
    relative.reach directory = directory ++ below ↔
      relative.below = directory.drop (directory.length - relative.ups) ++ below := by
  unfold reach List.rdrop
  nth_rewrite 3 [← take_append_drop (directory.length - relative.ups) directory]
  rw [append_assoc, append_cancel_left_eq]

end Tierd.Data.Paths
