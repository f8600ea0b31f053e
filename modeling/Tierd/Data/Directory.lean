import Tierd.Data.Text

namespace Tierd.Data

/-- The regular files of a directory, by name. -/
abbrev Directory (ν : Type*) := AList fun _ : Text => ν

namespace Directory

variable {ν : Type*}

def SameFiles (left right : Directory ν) : Prop := ∀ name, left.lookup name = right.lookup name

theorem SameFiles.refl (dir : Directory ν) : SameFiles dir dir := fun _ => rfl

theorem SameFiles.symm {left right : Directory ν} (same : SameFiles left right) : SameFiles right left :=
  fun name => (same name).symm

theorem SameFiles.trans {left middle right : Directory ν} (first : SameFiles left middle)
    (second : SameFiles middle right) : SameFiles left right := fun name => (first name).trans (second name)

def removeNames (dir : Directory ν) (names : List Text) : Directory ν := names.foldl (fun d name => d.erase name) dir

/-- A listing of the directory and the removal of every listed name that is selected. -/
def removeWhere (selected : Text → Bool) (dir : Directory ν) : Directory ν :=
  dir.removeNames (dir.keys.filter selected)

theorem lookup_removeNames (names : List Text) (dir : Directory ν) (name : Text) :
    (dir.removeNames names).lookup name = if name ∈ names then none else dir.lookup name := by
  induction names generalizing dir with
  | nil => simp [removeNames]
  | cons first rest ih =>
    have later : dir.removeNames (first :: rest) = removeNames (dir.erase first) rest := rfl
    rw [later, ih]
    by_cases same : name = first
    · subst same
      simp
    · simp [same, AList.lookup_erase_ne same]

@[simp] theorem lookup_removeWhere (selected : Text → Bool) (dir : Directory ν) (name : Text) :
    (dir.removeWhere selected).lookup name = if selected name then none else dir.lookup name := by
  rw [removeWhere, lookup_removeNames]
  by_cases chosen : selected name = true
  · by_cases present : name ∈ dir.keys
    · simp [chosen, present]
    · have absent : dir.lookup name = none := AList.lookup_eq_none.mpr present
      simp [chosen, absent]
  · simp [chosen]

/-- What became of the copy of one file.  A write that fails may have replaced the
contents by something else already. -/
inductive Copied (ν : Type*) where
  | ok
  | unread (reason : Text)
  | unwritten (reason : Text) (left : Option ν)
deriving DecidableEq, Repr

def copyFiles (copied : Text → Copied ν) : List (Sigma fun _ : Text => ν) → Directory ν → Directory ν × Except Text Unit
  | [], into => (into, .ok ())
  | ⟨name, content⟩ :: rest, into =>
    match copied name with
    | .ok => copyFiles copied rest (into.insert name content)
    | .unread reason => (into, .error reason)
    | .unwritten reason none => (into, .error reason)
    | .unwritten reason (some left) => (into.insert name left, .error reason)

theorem copyFiles_succeeds {copied : Text → Copied ν} (succeeds : ∀ name, copied name = .ok)
    (entries : List (Sigma fun _ : Text => ν)) (into : Directory ν) :
    (copyFiles copied entries into).2 = .ok () := by
  induction entries generalizing into with
  | nil => rfl
  | cons entry rest ih => simp only [copyFiles, succeeds, ih]

theorem lookup_copyFiles {copied : Text → Copied ν} {entries : List (Sigma fun _ : Text => ν)}
    (distinct : entries.NodupKeys)
    {into : Directory ν} (succeeded : (copyFiles copied entries into).2 = .ok ()) (name : Text) :
    (copyFiles copied entries into).1.lookup name = (entries.dlookup name).or (into.lookup name) := by
  induction entries generalizing into with
  | nil => simp [copyFiles]
  | cons entry rest ih =>
    obtain ⟨first, content⟩ := entry
    obtain ⟨fresh, remaining⟩ := List.nodupKeys_cons.mp distinct
    cases copy : copied first with
    | unread reason => simp [copyFiles, copy] at succeeded
    | unwritten reason left => cases left <;> simp [copyFiles, copy] at succeeded
    | ok =>
      simp only [copyFiles, copy] at succeeded ⊢
      rw [ih remaining succeeded]
      by_cases same : name = first
      · subst same
        have absent : rest.dlookup name = none := List.dlookup_eq_none.mpr fresh
        simp [absent]
      · have skipped : List.dlookup name (⟨first, content⟩ :: rest) = rest.dlookup name :=
          List.dlookup_cons_ne rest _ same
        rw [AList.lookup_insert_ne same, skipped]

theorem lookup_copy_entries {copied : Text → Copied ν} {source into : Directory ν}
    (succeeded : (copyFiles copied source.entries into).2 = .ok ()) (name : Text) :
    (copyFiles copied source.entries into).1.lookup name = (source.lookup name).or (into.lookup name) :=
  lookup_copyFiles source.nodupKeys succeeded name

end Directory

end Tierd.Data
