import Tierd.Data.Paths

namespace Tierd.Data

open List

open Paths

/-- A name that a directory can hold. -/
def IsEntryName (name : Text) : Prop := (name ≠ [] ∧ slash ∉ name) ∧ name ≠ ['.'] ∧ name ≠ ['.', '.']
deriving Decidable

theorem names_spelled {path : List Text} (proper : ∀ name ∈ path, IsEntryName name) :
    names ([slash].intercalate path) = path := by
  cases path with
  | nil => decide
  | cons first rest =>
    unfold names
    rw [splitOn_spelled (fun name member => (proper name member).1) (cons_ne_nil _ _)]
    exact follow_of_proper fun name member => ⟨(proper name member).1.1, (proper name member).2⟩

inductive TreeEntry (κ : Type*) where
  | dir
  | file (content : κ)
deriving DecidableEq

def TreeEntry.isDir {κ : Type*} : TreeEntry κ → Bool
  | .dir => true
  | .file _ => false

/-- One line of a directory listing. -/
structure DirEntry where
  name : Text
  isDir : Bool
deriving DecidableEq

/-- A table of entries by their path below the root, which is not an entry. -/
structure FileTree (κ : Type*) where
  entries : AList fun _ : List Text => TreeEntry κ
  proper : ∀ path ∈ entries.keys, path ≠ [] ∧ ∀ name ∈ path, IsEntryName name
  housed : ∀ path ∈ entries.keys, path.dropLast = [] ∨ entries.lookup path.dropLast = some .dir

namespace FileTree

variable {κ : Type*} (tree : FileTree κ)

def find (path : List Text) : Option (TreeEntry κ) := if path = [] then some .dir else tree.entries.lookup path

/-- The regular files, by their path. -/
def files (path : List Text) : Option κ :=
  match tree.find path with
  | some (.file content) => some content
  | _ => none

def listed (dir : List Text) : List DirEntry :=
  tree.entries.entries.filterMap fun entry =>
    if entry.1.dropLast = dir then entry.1.getLast?.map fun name => ⟨name, entry.2.isDir⟩ else none

/-- The entries of a directory in the order of their names. -/
def readDir (dir : List Text) : List DirEntry :=
  (tree.listed dir).insertionSort fun first second => first.name ≤ second.name

variable {tree} {path dir : List Text} {name : Text} {entry : TreeEntry κ}

theorem files_eq_some {content : κ} : tree.files path = some content ↔ tree.find path = some (.file content) := by
  unfold files
  split
  case h_1 found => simp [found]
  case h_2 others => exact ⟨nofun, fun found => absurd found (others content)⟩

theorem find_concat : tree.find (dir ++ [name]) = tree.entries.lookup (dir ++ [name]) := by
  simp [find]

theorem mem_keys_of_find (inside : path ≠ []) (found : tree.find path = some entry) : path ∈ tree.entries.keys := by
  rw [find, if_neg inside] at found
  exact AList.mem_keys.mp (AList.lookup_isSome.mp (by rw [found]; rfl))

theorem isEntryName_of_find (found : tree.find path = some entry) : ∀ name ∈ path, IsEntryName name := by
  by_cases root : path = []
  · simp [root]
  · exact (tree.proper path (mem_keys_of_find root found)).2

theorem find_of_concat (found : tree.find (dir ++ [name]) = some entry) : tree.find dir = some .dir := by
  have listed := mem_keys_of_find (by simp) found
  rcases tree.housed _ listed with root | parent
  · rw [dropLast_concat] at root
    simp [find, root]
  · rw [dropLast_concat] at parent
    by_cases root : dir = []
    · simp [find, root]
    · rw [find, if_neg root]
      exact parent

/-- What lies above an entry is a directory. -/
theorem find_above {rest : List Text} (found : tree.find (dir ++ rest) = some entry) (strictly : rest ≠ []) :
    tree.find dir = some .dir := by
  induction rest using List.reverseRecOn generalizing entry with
  | nil => exact absurd rfl strictly
  | append_singleton rest last ih =>
    rw [← append_assoc] at found
    have parent := find_of_concat found
    by_cases inside : rest = []
    · rwa [inside, append_nil] at parent
    · exact ih parent inside

theorem mem_readDir (found : tree.find (dir ++ [name]) = some entry) : ⟨name, entry.isDir⟩ ∈ tree.readDir dir := by
  rw [find_concat] at found
  refine (mem_insertionSort _).mpr
    (mem_filterMap.mpr ⟨⟨dir ++ [name], entry⟩, AList.mem_lookup_iff.mp found, ?_⟩)
  simp

theorem find_of_mem_readDir {shown : DirEntry} (shows : shown ∈ tree.readDir dir) :
    ∃ entry, tree.find (dir ++ [shown.name]) = some entry ∧ entry.isDir = shown.isDir := by
  obtain ⟨⟨path, entry⟩, member, named⟩ := mem_filterMap.mp ((mem_insertionSort _).mp shows)
  split_ifs at named with above
  obtain ⟨last, ends, rfl⟩ := Option.map_eq_some_iff.mp named
  have whole : path = dir ++ [last] := by rw [← above, dropLast_append_getLast? last ends]
  subst whole
  exact ⟨entry, find_concat.trans (AList.mem_lookup_iff.mpr member), rfl⟩

end FileTree

end Tierd.Data
