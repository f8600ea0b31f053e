import Tierd.Data.Directory

namespace Tierd.Data

abbrev Dictionary (ν : Type*) := AList fun _ : Text => ν

namespace Dictionary

variable {ν μ : Type*}

/-- Writes the entries one after the other. -/
def insertAll (entries : List (Text × ν)) (dict : Dictionary ν) : Dictionary ν :=
  entries.foldl (fun d entry => d.insert entry.1 entry.2) dict

theorem lookup_insertAll {entries : List (Text × ν)} (once : (entries.map Prod.fst).Nodup) (dict : Dictionary ν)
    (name : Text) (value : ν) :
    (insertAll entries dict).lookup name = some value ↔
      (name, value) ∈ entries ∨ (name ∉ entries.map Prod.fst ∧ dict.lookup name = some value) := by
  induction entries generalizing dict with
  | nil => simp [insertAll]
  | cons entry rest ih =>
    obtain ⟨key, written⟩ := entry
    obtain ⟨single, restOnce⟩ := List.nodup_cons.mp once
    have unfolded : insertAll ((key, written) :: rest) dict = insertAll rest (dict.insert key written) := rfl
    rw [unfolded, ih restOnce, List.mem_cons, List.map_cons, List.mem_cons]
    by_cases here : name = key
    · subst here
      have last : (name, value) ∉ rest := fun member => single (List.mem_map.mpr ⟨_, member, rfl⟩)
      simp [last, single, eq_comm]
    · simp [here, AList.lookup_insert_ne here]

/-- Copies entries one after the other, each from its source to its target. -/
def copyAll (copy : ν → ν) (writes : List (Text × Text)) (dict : Dictionary ν) : Dictionary ν :=
  writes.foldl
    (fun d write =>
      match d.lookup write.1 with
      | some value => d.insert write.2 (copy value)
      | none => d)
    dict

def mapValues (change : ν → μ) (dict : Dictionary ν) : Dictionary μ where
  entries := dict.entries.map fun entry => ⟨entry.1, change entry.2⟩
  nodupKeys := by
    have keys : (dict.entries.map fun entry => (⟨entry.1, change entry.2⟩ : Sigma fun _ : Text => μ)).keys =
        dict.entries.keys := by
      simp [List.keys, Function.comp_def]
    rw [List.NodupKeys, keys]
    exact dict.nodupKeys

end Dictionary

end Tierd.Data
