import Tierd.Data.Bytes

namespace Tierd.Data

open List

/-- The components of a path below the mount point. -/
abbrev Path := List String

inductive Node where
  | dir
  | file (ino : UInt64)
  | other
deriving DecidableEq, Repr

structure File where
  content : Bytes
  mtime : Int
deriving DecidableEq, Repr

/-- Removing a name does not touch its inode; two names of one inode are hard links. -/
structure FileSystem where
  nodes : Std.ExtTreeMap Path Node
  files : UInt64 → File

def parents (path : Path) : List Path := (List.range path.length).map path.take

theorem length_of_mem_parents {path dir : Path} (listed : dir ∈ parents path) :
    dir.length < path.length := by
  obtain ⟨count, within, rfl⟩ := mem_map.mp listed
  have bound := mem_range.mp within
  rw [length_take]
  omega

namespace FileSystem

variable (fs : FileSystem)

def lookup (path : Path) : Option Node := fs.nodes[path]?

def contentAt (path : Path) : Option Bytes :=
  match fs.lookup path with
  | some (.file ino) => some (fs.files ino).content
  | _ => none

/-- Some name still refers to the inode. -/
def inUse (ino : UInt64) : Bool := fs.nodes.toList.any fun entry => decide (entry.2 = .file ino)

def unlink (path : Path) : FileSystem := { fs with nodes := fs.nodes.erase path }

def setNode (path : Path) (node : Node) : FileSystem := { fs with nodes := fs.nodes.insert path node }

def setFile (ino : UInt64) (file : File) : FileSystem :=
  { fs with files := Function.update fs.files ino file }

/-- An exclusive create: the name and the inode must both be free. -/
def create (path : Path) (ino : UInt64) (now : Int) : Option FileSystem :=
  if fs.lookup path = none ∧ fs.inUse ino = false then
    some ((fs.setNode path (.file ino)).setFile ino ⟨[], now⟩)
  else none

/-- A hard link under a free name. -/
def link (old new : Path) : Option FileSystem :=
  match fs.lookup old, fs.lookup new with
  | some node, none => some (fs.setNode new node)
  | _, _ => none

def append (ino : UInt64) (bytes : Bytes) (now : Int) : FileSystem :=
  fs.setFile ino ⟨(fs.files ino).content ++ bytes, now⟩

/-- A write at an offset; a gap before it is filled with zeros. -/
def overwrite (content : Bytes) (offset : Nat) (bytes : Bytes) : Bytes :=
  content.take offset ++ List.replicate (offset - content.length) 0 ++ bytes ++
    content.drop (offset + bytes.length)

def write (ino : UInt64) (offset : Nat) (bytes : Bytes) (now : Int) : FileSystem :=
  fs.setFile ino ⟨overwrite (fs.files ino).content offset bytes, now⟩

def chtimes (ino : UInt64) (mtime : Int) : FileSystem :=
  fs.setFile ino { fs.files ino with mtime }

/-- Creates the missing directories of a list; refused where something else
stands in the way. -/
def mkdirAll (fs : FileSystem) : List Path → Option FileSystem
  | [] => some fs
  | dir :: rest =>
    match fs.lookup dir with
    | none => (fs.setNode dir .dir).mkdirAll rest
    | some .dir => fs.mkdirAll rest
    | some _ => none

variable {fs} {path target : Path} {ino : UInt64}

theorem lookup_unlink :
    (fs.unlink path).lookup target = if target = path then none else fs.lookup target := by
  simp only [lookup, unlink, Std.ExtTreeMap.getElem?_erase, Std.compare_eq_iff_eq, eq_comm (a := path)]

@[simp] theorem lookup_unlink_self : (fs.unlink path).lookup path = none := by
  simp [lookup_unlink]

theorem lookup_unlink_other (different : target ≠ path) :
    (fs.unlink path).lookup target = fs.lookup target := by
  rw [lookup_unlink, if_neg different]

theorem lookup_setNode {node : Node} :
    (fs.setNode path node).lookup target = if target = path then some node else fs.lookup target := by
  simp only [lookup, setNode, Std.ExtTreeMap.getElem?_insert, Std.compare_eq_iff_eq, eq_comm (a := path)]

@[simp] theorem lookup_setFile {file : File} : (fs.setFile ino file).lookup path = fs.lookup path := rfl

theorem contentAt_eq_some {content : Bytes} :
    fs.contentAt path = some content ↔
      ∃ ino, fs.lookup path = some (.file ino) ∧ (fs.files ino).content = content := by
  unfold contentAt
  constructor
  · intro read
    split at read
    · rename_i ino named
      exact ⟨ino, named, Option.some.inj read⟩
    · contradiction
  · rintro ⟨ino, named, rfl⟩
    rw [named]

theorem content_of_contentAt {content : Bytes} (read : fs.contentAt path = some content)
    (named : fs.lookup path = some (.file ino)) : (fs.files ino).content = content := by
  simpa [contentAt, named] using read

variable {after : FileSystem}

theorem contentAt_congr (sameName : after.lookup path = fs.lookup path)
    (sameFile : ∀ ino, fs.lookup path = some (.file ino) →
      (after.files ino).content = (fs.files ino).content) :
    after.contentAt path = fs.contentAt path := by
  unfold contentAt
  rw [sameName]
  split
  · rename_i ino named
    rw [sameFile ino named]
  · rfl

theorem contentAt_unlink_other (different : target ≠ path) :
    (fs.unlink path).contentAt target = fs.contentAt target :=
  contentAt_congr (lookup_unlink_other different) fun _ _ => rfl

theorem contentAt_chtimes {mtime : Int} : (fs.chtimes ino mtime).contentAt path = fs.contentAt path := by
  refine contentAt_congr rfl fun found _ => ?_
  by_cases same : found = ino <;> simp [chtimes, setFile, same]

theorem contentAt_of_absent (absent : fs.lookup path = none) : fs.contentAt path = none := by
  simp only [contentAt, absent]

theorem create_eq_some {now : Int} (created : fs.create path ino now = some after) :
    after = (fs.setNode path (.file ino)).setFile ino ⟨[], now⟩ := by
  unfold create at created
  split at created
  · exact (Option.some.inj created).symm
  · contradiction

theorem lookup_create_other {now : Int} (created : fs.create path ino now = some after)
    (different : target ≠ path) : after.lookup target = fs.lookup target := by
  rw [create_eq_some created, lookup_setFile, lookup_setNode, if_neg different]

theorem lookup_link {new : Path} (linked : fs.link path new = some after) :
    after.lookup new = fs.lookup path := by
  unfold link at linked
  split at linked
  · rename_i node named _
    cases linked
    rw [lookup_setNode, if_pos rfl, named]
  · contradiction

theorem files_link {new : Path} (linked : fs.link path new = some after) :
    after.files = fs.files := by
  unfold link at linked
  split at linked
  · cases linked
    rfl
  · contradiction

theorem contentAt_link {new : Path} (linked : fs.link path new = some after) :
    after.contentAt new = fs.contentAt path := by
  unfold contentAt
  rw [lookup_link linked, files_link linked]

theorem length_le_overwrite (content : Bytes) (offset : Nat) (bytes : Bytes) :
    content.length ≤ (overwrite content offset bytes).length := by
  simp only [overwrite, length_append, length_take, length_replicate, length_drop]
  omega

theorem take_overwrite {content : Bytes} {count offset : Nat} (bytes : Bytes) (before : count ≤ offset)
    (within : count ≤ content.length) : (overwrite content offset bytes).take count = content.take count := by
  have first : count ≤ (content.take offset).length := by
    rw [length_take]
    omega
  simp only [overwrite, append_assoc]
  rw [take_append_of_le_length first, take_take, min_eq_left before]

theorem mkdirAll_frame {dirs : List Path} (made : fs.mkdirAll dirs = some after) :
    after.files = fs.files ∧ ∀ path, path ∉ dirs → after.lookup path = fs.lookup path := by
  induction dirs generalizing fs with
  | nil =>
    cases made
    exact ⟨rfl, fun _ _ => rfl⟩
  | cons dir rest ih =>
    simp only [mkdirAll] at made
    split at made
    · obtain ⟨sameFiles, sameNames⟩ := ih made
      refine ⟨sameFiles, fun path elsewhere => ?_⟩
      rw [mem_cons, not_or] at elsewhere
      rw [sameNames path elsewhere.2, lookup_setNode, if_neg elsewhere.1]
    · obtain ⟨sameFiles, sameNames⟩ := ih made
      exact ⟨sameFiles, fun path elsewhere => sameNames path (not_mem_of_not_mem_cons elsewhere)⟩
    · contradiction

end FileSystem

end Tierd.Data
