import Mathlib

namespace Tierd.Data

variable {ι κ ν : Type*} [DecidableEq κ]

set_option linter.unusedSectionVars false

/-- Enters a row under its key, if it has one. -/
def enter (key : ν → Option κ) (index : κ → Option ν) (row : ν) : κ → Option ν :=
  match key row with
  | some k => Function.update index k (some row)
  | none => index

def leave (key : ν → Option κ) (index : κ → Option ν) (row : ν) : κ → Option ν :=
  match key row with
  | some k => Function.update index k none
  | none => index

def loadIndex (key : ν → Option κ) (rows : List ν) : κ → Option ν :=
  rows.foldl (enter key) fun _ => none

theorem enter_apply (key : ν → Option κ) (index : κ → Option ν) (row : ν) (k : κ) :
    enter key index row k = if key row = some k then some row else index k := by
  unfold enter
  cases keyed : key row with
  | none => simp
  | some found =>
    by_cases same : k = found
    · simp [same]
    · simp [same, Ne.symm same]

theorem leave_apply (key : ν → Option κ) (index : κ → Option ν) (row : ν) (k : κ) :
    leave key index row k = if key row = some k then none else index k := by
  unfold leave
  cases keyed : key row with
  | none => simp
  | some found =>
    by_cases same : k = found
    · simp [same]
    · simp [same, Ne.symm same]

section Maps

variable {primary : ν → ι} {key : ν → Option κ} {byID : ι → Option ν} {byKey : κ → Option ν}

/-- `byKey` holds exactly the rows of `byID`, by their key. -/
def Inverse (key : ν → Option κ) (byID : ι → Option ν) (byKey : κ → Option ν) : Prop :=
  ∀ k row, byKey k = some row ↔ (∃ id, byID id = some row) ∧ key row = some k

theorem Inverse.unique_row (inverse : Inverse key byID byKey) {first second : ι} {left right : ν} {k : κ}
    (foundLeft : byID first = some left) (foundRight : byID second = some right)
    (keyLeft : key left = some k) (keyRight : key right = some k) : left = right := by
  have throughLeft := (inverse k left).mpr ⟨⟨first, foundLeft⟩, keyLeft⟩
  have throughRight := (inverse k right).mpr ⟨⟨second, foundRight⟩, keyRight⟩
  exact Option.some.inj (throughLeft.symm.trans throughRight)

variable [DecidableEq ι]

theorem update_eq_some_iff {id other : ι} {value : Option ν} {found : ν} :
    Function.update byID id value other = some found ↔
      (other = id ∧ value = some found) ∨ (other ≠ id ∧ byID other = some found) := by
  rw [Function.update_apply]
  by_cases same : other = id
  · simp [same]
  · simp [same]

theorem Inverse.enter_iff (inverse : Inverse key byID byKey)
    (keyed : ∀ id row, byID id = some row → primary row = id) (row : ν) :
    Inverse key (Function.update byID (primary row) (some row)) (enter key byKey row) ↔
      (∀ old, byID (primary row) = some old → key old = none ∨ key old = key row) ∧
      (∀ k found, key row = some k → byKey k = some found → primary found = primary row) := by
  constructor
  · intro entered
    constructor
    · intro old stored
      cases keyOld : key old with
      | none => exact .inl rfl
      | some k =>
        by_contra! changed
        have stale : enter key byKey row k = some old := by
          rw [enter_apply, if_neg (Ne.symm changed.2)]
          exact (inverse k old).mpr ⟨⟨_, stored⟩, keyOld⟩
        obtain ⟨⟨id, kept⟩, _⟩ := (entered k old).mp stale
        rcases update_eq_some_iff.mp kept with ⟨_, same⟩ | ⟨elsewhere, found⟩
        · cases same
          exact changed.2 keyOld.symm
        · exact elsewhere ((keyed id old found).symm.trans (keyed _ old stored))
    · intro k found keyRow indexed
      obtain ⟨⟨id, stored⟩, keyFound⟩ := (inverse k found).mp indexed
      have identity := keyed id found stored
      by_contra different
      have kept : Function.update byID (primary row) (some row) id = some found :=
        update_eq_some_iff.mpr (.inr ⟨fun same => different (identity.trans same), stored⟩)
      have found_eq := (entered k found).mpr ⟨⟨id, kept⟩, keyFound⟩
      rw [enter_apply, if_pos keyRow] at found_eq
      exact different (congrArg primary (Option.some.inj found_eq).symm)
  · rintro ⟨keeps, free⟩ k found
    rw [enter_apply]
    simp only [update_eq_some_iff]
    by_cases here : key row = some k
    · rw [if_pos here]
      constructor
      · rintro ⟨⟩
        exact ⟨⟨primary row, .inl ⟨rfl, rfl⟩⟩, here⟩
      · rintro ⟨⟨id, ⟨_, same⟩ | ⟨other, stored⟩⟩, keyFound⟩
        · exact same
        · have same := free k found here ((inverse k found).mpr ⟨⟨id, stored⟩, keyFound⟩)
          exact absurd ((keyed id found stored).symm.trans same) other
    · rw [if_neg here, inverse]
      constructor
      · rintro ⟨⟨id, stored⟩, keyFound⟩
        refine ⟨⟨id, .inr ⟨?_, stored⟩⟩, keyFound⟩
        rintro rfl
        rcases keeps found stored with unkeyed | sameKey
        · exact absurd (unkeyed.symm.trans keyFound) (by simp)
        · exact here (sameKey.symm.trans keyFound)
      · rintro ⟨⟨id, ⟨_, ⟨⟩⟩ | ⟨_, stored⟩⟩, keyFound⟩
        · exact absurd keyFound here
        · exact ⟨⟨id, stored⟩, keyFound⟩

theorem Inverse.enter_some_iff {name : ν → κ} (inverse : Inverse (fun row => some (name row)) byID byKey)
    (keyed : ∀ id row, byID id = some row → primary row = id) (row : ν) :
    Inverse (fun row => some (name row)) (Function.update byID (primary row) (some row))
        (enter (fun row => some (name row)) byKey row) ↔
      (∀ old, byID (primary row) = some old → name old = name row) ∧
      (∀ found, byKey (name row) = some found → primary found = primary row) := by
  rw [inverse.enter_iff keyed]
  simp only [reduceCtorEq, false_or, Option.some.injEq]
  exact and_congr_right' ⟨fun free found => free (name row) found rfl,
    fun free k found same => same ▸ free found⟩

theorem Inverse.leave (inverse : Inverse key byID byKey)
    (keyed : ∀ id row, byID id = some row → primary row = id) {id : ι} {old : ν}
    (stored : byID id = some old) : Inverse key (Function.update byID id none) (leave key byKey old) := by
  intro k found
  rw [leave_apply]
  simp only [update_eq_some_iff, reduceCtorEq, and_false, false_or]
  by_cases here : key old = some k
  · rw [if_pos here]
    refine ⟨fun impossible => (by cases impossible), ?_⟩
    rintro ⟨⟨other, different, storedFound⟩, keyFound⟩
    have same := inverse.unique_row storedFound stored keyFound here
    rw [← keyed other found storedFound, ← keyed id old stored, same] at different
    exact absurd rfl different
  · rw [if_neg here, inverse]
    constructor
    · rintro ⟨⟨other, storedFound⟩, keyFound⟩
      refine ⟨⟨other, ?_, storedFound⟩, keyFound⟩
      rintro rfl
      exact here (Option.some.inj (stored.symm.trans storedFound) ▸ keyFound)
    · rintro ⟨⟨other, _, storedFound⟩, keyFound⟩
      exact ⟨⟨other, storedFound⟩, keyFound⟩

end Maps

section Table

variable [Ord ι] [Std.TransOrd ι] [Std.LawfulEqOrd ι]

/-- Every row is stored under its own primary key. -/
def Keyed (primary : ν → ι) (table : Std.ExtTreeMap ι ν) : Prop :=
  ∀ id row, table[id]? = some row → primary row = id

/-- The index finds exactly the rows of the table by their key. -/
def Indexes (key : ν → Option κ) (index : κ → Option ν) (table : Std.ExtTreeMap ι ν) : Prop :=
  ∀ k row, index k = some row ↔ (∃ id : ι, table[id]? = some row) ∧ key row = some k

/-- No two rows of the table share a key. -/
def Distinct (key : ν → Option κ) (table : Std.ExtTreeMap ι ν) : Prop :=
  ∀ (first second : ι) left right k, table[first]? = some left → table[second]? = some right →
    key left = some k → key right = some k → left = right

variable {primary : ν → ι} {key : ν → Option κ} {index : κ → Option ν} {table : Std.ExtTreeMap ι ν}

theorem getElem?_insert_iff {id : ι} {row found : ν} {other : ι} :
    (table.insert id row)[other]? = some found ↔
      (other = id ∧ found = row) ∨ (other ≠ id ∧ table[other]? = some found) := by
  rw [Std.ExtTreeMap.getElem?_insert]
  by_cases same : other = id
  · simp [same, eq_comm]
  · have different : compare id other ≠ .eq := fun equal => same (Std.LawfulEqCmp.eq_of_compare equal).symm
    simp [same, different]

theorem getElem?_erase_iff {id other : ι} {found : ν} :
    (table.erase id)[other]? = some found ↔ other ≠ id ∧ table[other]? = some found := by
  rw [Std.ExtTreeMap.getElem?_erase]
  by_cases same : other = id
  · simp [same]
  · have different : compare id other ≠ .eq := fun equal => same (Std.LawfulEqCmp.eq_of_compare equal).symm
    simp [same, different]

theorem lookup_insert [DecidableEq ι] (id : ι) (row : ν) :
    (fun other => (table.insert id row)[other]?) = Function.update (fun other => table[other]?) id (some row) := by
  funext other
  refine Option.ext fun found => ?_
  rw [getElem?_insert_iff, update_eq_some_iff]
  simp [eq_comm]

theorem lookup_erase [DecidableEq ι] (id : ι) :
    (fun other => (table.erase id)[other]?) = Function.update (fun other => table[other]?) id none := by
  funext other
  refine Option.ext fun found => ?_
  rw [getElem?_erase_iff, update_eq_some_iff]
  simp

theorem Keyed.insert (keyed : Keyed primary table) (row : ν) :
    Keyed primary (table.insert (primary row) row) := by
  intro id found stored
  rcases getElem?_insert_iff.mp stored with ⟨rfl, rfl⟩ | ⟨_, before⟩
  · rfl
  · exact keyed id found before

theorem Keyed.erase (keyed : Keyed primary table) (gone : ι) : Keyed primary (table.erase gone) :=
  fun id found stored => keyed id found (getElem?_erase_iff.mp stored).2

theorem Indexes.distinct (indexed : Indexes key index table) : Distinct key table := by
  have inverse : Inverse key (fun id => table[id]?) index := indexed
  intro first second left right k foundLeft foundRight keyLeft keyRight
  exact inverse.unique_row foundLeft foundRight keyLeft keyRight

/-- An index is determined by its table. -/
theorem Indexes.unique {other : κ → Option ν} (first : Indexes key index table)
    (second : Indexes key other table) : index = other := by
  funext k
  refine Option.ext fun row => ?_
  exact (first k row).trans (second k row).symm

theorem Indexes.insert [DecidableEq ι] (indexed : Indexes key index table) (keyed : Keyed primary table)
    {row : ν} (keeps : ∀ old, table[primary row]? = some old → key old = key row)
    (free : ∀ k found, key row = some k → index k = some found → primary found = primary row) :
    Indexes key (enter key index row) (table.insert (primary row) row) := by
  have inverse : Inverse key (fun id => table[id]?) index := indexed
  have entered := (inverse.enter_iff keyed row).mpr ⟨fun old stored => .inr (keeps old stored), free⟩
  rwa [← lookup_insert] at entered

theorem Indexes.erase [DecidableEq ι] (indexed : Indexes key index table) (keyed : Keyed primary table)
    {id : ι} {old : ν} (stored : table[id]? = some old) :
    Indexes key (leave key index old) (table.erase id) := by
  have inverse : Inverse key (fun id => table[id]?) index := indexed
  have left := inverse.leave keyed stored
  rwa [← lookup_erase] at left

theorem erase_absent {id : ι} (absent : table[id]? = none) : table.erase id = table := by
  refine Std.ExtTreeMap.ext_getElem? fun other => Option.ext fun found => ?_
  rw [getElem?_erase_iff]
  constructor
  · exact And.right
  · intro stored
    refine ⟨?_, stored⟩
    rintro rfl
    exact absurd (absent.symm.trans stored) (by simp)

end Table

theorem loadIndex_append (key : ν → Option κ) (rows : List ν) (row : ν) :
    loadIndex key (rows ++ [row]) = enter key (loadIndex key rows) row := by
  simp [loadIndex]

theorem mem_of_loadIndex {key : ν → Option κ} {rows : List ν} {k : κ} {row : ν}
    (found : loadIndex key rows k = some row) : row ∈ rows ∧ key row = some k := by
  induction rows using List.reverseRecOn with
  | nil => simp [loadIndex] at found
  | append_singleton rows last ih =>
    rw [loadIndex_append, enter_apply] at found
    split at found
    case isTrue here =>
      cases found
      exact ⟨by simp, here⟩
    case isFalse =>
      obtain ⟨member, keyed⟩ := ih found
      exact ⟨List.mem_append_left _ member, keyed⟩

theorem loadIndex_of_mem {key : ν → Option κ} {rows : List ν} {k : κ} {row : ν} (member : row ∈ rows)
    (keyed : key row = some k) : ∃ found, loadIndex key rows k = some found := by
  induction rows using List.reverseRecOn with
  | nil => cases member
  | append_singleton rows last ih =>
    rw [loadIndex_append, enter_apply]
    split
    case isTrue => exact ⟨last, rfl⟩
    case isFalse other =>
      rcases List.mem_append.mp member with earlier | final
      · exact ih earlier
      · rw [List.mem_singleton.mp final] at keyed
        exact absurd keyed other

theorem Indexes.load [Ord ι] [Std.TransOrd ι] {key : ν → Option κ}
    {table : Std.ExtTreeMap ι ν} {rows : List ν} (distinct : Distinct key table)
    (listed : ∀ row, row ∈ rows ↔ ∃ id : ι, table[id]? = some row) :
    Indexes key (loadIndex key rows) table := by
  intro k row
  constructor
  · intro found
    obtain ⟨member, keyed⟩ := mem_of_loadIndex found
    exact ⟨(listed row).mp member, keyed⟩
  · rintro ⟨⟨id, stored⟩, keyed⟩
    obtain ⟨last, found⟩ := loadIndex_of_mem ((listed row).mpr ⟨id, stored⟩) keyed
    obtain ⟨member, keyLast⟩ := mem_of_loadIndex found
    obtain ⟨other, storedLast⟩ := (listed last).mp member
    rw [found, distinct other id last row k storedLast stored keyLast keyed]

theorem loadIndex_primary [DecidableEq ι] [Ord ι] [Std.TransOrd ι] {primary : ν → ι}
    {table : Std.ExtTreeMap ι ν} (keyed : Keyed primary table) {rows : List ν}
    (listed : ∀ row, row ∈ rows ↔ ∃ id : ι, table[id]? = some row) (id : ι) :
    loadIndex (fun row => some (primary row)) rows id = table[id]? := by
  have distinct : Distinct (fun row => some (primary row)) table := by
    intro first second left right k foundLeft foundRight keyLeft keyRight
    have sameID : first = second := by
      rw [← keyed first left foundLeft, ← keyed second right foundRight]
      exact Option.some.inj (keyLeft.trans keyRight.symm)
    rw [sameID] at foundLeft
    exact Option.some.inj (foundLeft.symm.trans foundRight)
  refine Option.ext fun row => ?_
  rw [Indexes.load distinct listed]
  constructor
  · rintro ⟨⟨other, stored⟩, same⟩
    rw [← Option.some.inj same, keyed other row stored]
    exact stored
  · exact fun stored => ⟨⟨id, stored⟩, congrArg some (keyed id row stored)⟩

section Mirror

variable [DecidableEq ι] [Ord ι] [Std.TransOrd ι] [Std.LawfulEqOrd ι]

/-- `byID` and `byKey` hold the rows of the table by primary key and by key. -/
structure Mirrored (primary : ν → ι) (key : ν → Option κ) (byID : ι → Option ν) (byKey : κ → Option ν)
    (table : Std.ExtTreeMap ι ν) : Prop where
  keyed : Keyed primary table
  byID_eq : ∀ id, byID id = table[id]?
  indexed : Indexes key byKey table

variable {primary : ν → ι} {key : ν → Option κ} {byID : ι → Option ν} {byKey : κ → Option ν}
  {table : Std.ExtTreeMap ι ν}

theorem Mirrored.insert (mirrored : Mirrored primary key byID byKey table) {row : ν}
    (keeps : ∀ old, byID (primary row) = some old → key old = key row)
    (free : ∀ k found, key row = some k → byKey k = some found → primary found = primary row) :
    Mirrored primary key (Function.update byID (primary row) (some row)) (enter key byKey row)
      (table.insert (primary row) row) where
  keyed := mirrored.keyed.insert row
  byID_eq := by
    rw [funext mirrored.byID_eq, ← lookup_insert]
    exact fun _ => rfl
  indexed := mirrored.indexed.insert mirrored.keyed (by simpa only [mirrored.byID_eq] using keeps) free

theorem Mirrored.erase (mirrored : Mirrored primary key byID byKey table) {id : ι} {row : ν}
    (stored : byID id = some row) :
    Mirrored primary key (Function.update byID id none) (leave key byKey row) (table.erase id) where
  keyed := mirrored.keyed.erase id
  byID_eq := by
    rw [funext mirrored.byID_eq, ← lookup_erase]
    exact fun _ => rfl
  indexed := mirrored.indexed.erase mirrored.keyed (by rwa [mirrored.byID_eq] at stored)

theorem Mirrored.erase_absent (mirrored : Mirrored primary key byID byKey table) {id : ι}
    (absent : byID id = none) : Mirrored primary key byID byKey (table.erase id) := by
  rw [mirrored.byID_eq] at absent
  rwa [Tierd.Data.erase_absent absent]

theorem Mirrored.eq_load (mirrored : Mirrored primary key byID byKey table) (rows : List ν)
    (listed : ∀ row, row ∈ rows ↔ ∃ id : ι, table[id]? = some row) :
    byID = loadIndex (fun row => some (primary row)) rows ∧ byKey = loadIndex key rows := by
  have primaryIndex : Indexes (fun row => some (primary row)) byID table := by
    intro id row
    rw [mirrored.byID_eq]
    constructor
    · exact fun stored => ⟨⟨id, stored⟩, congrArg some (mirrored.keyed id row stored)⟩
    · rintro ⟨⟨other, stored⟩, same⟩
      rw [← Option.some.inj same, mirrored.keyed other row stored]
      exact stored
  exact ⟨primaryIndex.unique (.load primaryIndex.distinct listed),
    mirrored.indexed.unique (.load mirrored.indexed.distinct listed)⟩

theorem Mirrored.load (keyed : Keyed primary table) (distinct : Distinct key table) {rows : List ν}
    (listed : ∀ row, row ∈ rows ↔ ∃ id : ι, table[id]? = some row) :
    Mirrored primary key (loadIndex (fun row => some (primary row)) rows) (loadIndex key rows) table where
  keyed := keyed
  byID_eq := loadIndex_primary keyed listed
  indexed := .load distinct listed

end Mirror

end Tierd.Data
