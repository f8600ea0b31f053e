import Tierd.Data.Guards

namespace Tierd.Data

open List

variable {α κ ν : Type*} [DecidableEq κ]

/-- Changes the rows that have the key. -/
def changeRow (key : α → κ) (k : κ) (change : α → α) (rows : List α) : List α :=
  rows.map fun row => if key row = k then change row else row

variable {key : α → κ} {k : κ} {change : α → α} {rows : List α}

theorem mem_changeRow {row : α} :
    row ∈ changeRow key k change rows ↔
      (∃ old ∈ rows, key old = k ∧ change old = row) ∨ (row ∈ rows ∧ key row ≠ k) := by
  unfold changeRow
  rw [mem_map]
  constructor
  · rintro ⟨old, member, rfl⟩
    by_cases here : key old = k
    · exact .inl ⟨old, member, here, (if_pos here).symm⟩
    · rw [if_neg here]
      exact .inr ⟨member, here⟩
  · rintro (⟨old, member, here, rfl⟩ | ⟨member, elsewhere⟩)
    · exact ⟨old, member, if_pos here⟩
    · exact ⟨row, member, if_neg elsewhere⟩

theorem map_changeRow {column : α → ν} (keeps : ∀ row, column (change row) = column row) :
    (changeRow key k change rows).map column = rows.map column := by
  unfold changeRow
  rw [map_map]
  refine map_congr_left fun row _ => ?_
  simp only [Function.comp_apply]
  split
  case isTrue => exact keeps row
  case isFalse => rfl

theorem map_key_changeRow {new : α} (same : key new = k) :
    (changeRow key k (fun _ => new) rows).map key = rows.map key := by
  unfold changeRow
  rw [map_map]
  refine map_congr_left fun row _ => ?_
  simp only [Function.comp_apply]
  split
  case isTrue here => exact same.trans here.symm
  case isFalse => rfl

theorem forall_changeRow {condition : α → Prop} (before : ∀ row ∈ rows, condition row)
    (changed : ∀ row ∈ rows, key row = k → condition (change row)) :
    ∀ row ∈ changeRow key k change rows, condition row := by
  intro row member
  rcases mem_changeRow.mp member with ⟨old, oldMember, here, rfl⟩ | ⟨kept, _⟩
  · exact changed old oldMember here
  · exact before row kept

theorem find?_changeRow (keeps : ∀ row, key (change row) = key row) (wanted : κ) :
    (changeRow key k change rows).find? (fun row => key row = wanted) =
      if wanted = k then (rows.find? fun row => key row = wanted).map change
      else rows.find? fun row => key row = wanted := by
  unfold changeRow
  rw [List.find?_map]
  have sameKey : ((fun row => decide (key row = wanted)) ∘ fun row => if key row = k then change row else row) =
      fun row => decide (key row = wanted) := by
    funext row
    simp only [Function.comp_apply]
    split
    case isTrue => rw [keeps]
    case isFalse => rfl
  rw [sameKey]
  cases found : rows.find? fun row => decide (key row = wanted) with
  | none => simp
  | some row =>
    have here : key row = wanted := by simpa using List.find?_some found
    by_cases same : wanted = k
    · simp [same, here]
    · simp [same, here]

theorem nodup_filterMap_changeRow {column : α → Option ν} (unique : (rows.map key).Nodup)
    (distinct : (rows.filterMap column).Nodup)
    (fresh : ∀ row ∈ rows, key row = k → ∀ value ∈ column (change row),
      ∀ other ∈ rows, key other ≠ k → column other ≠ some value) :
    ((changeRow key k change rows).filterMap column).Nodup := by
  rw [nodup_iff_pairwise_ne, pairwise_filterMap] at distinct ⊢
  rw [nodup_iff_pairwise_ne, pairwise_map] at unique
  unfold changeRow
  rw [pairwise_map]
  refine (unique.and distinct).imp_of_mem ?_
  rintro first second firstMember secondMember ⟨keysDiffer, valuesDiffer⟩ value firstValue other secondValue rfl
  by_cases firstHere : key first = k
  · have secondElsewhere : key second ≠ k := fun secondHere => keysDiffer (firstHere.trans secondHere.symm)
    rw [if_pos firstHere] at firstValue
    rw [if_neg secondElsewhere] at secondValue
    exact fresh first firstMember firstHere _ firstValue second secondMember secondElsewhere secondValue
  · rw [if_neg firstHere] at firstValue
    by_cases secondHere : key second = k
    · rw [if_pos secondHere] at secondValue
      exact fresh second secondMember secondHere _ secondValue first firstMember firstHere firstValue
    · rw [if_neg secondHere] at secondValue
      exact valuesDiffer value firstValue value secondValue rfl

theorem eq_of_column {column : α → Option ν} (distinct : (rows.filterMap column).Nodup)
    {first second : α} (firstMember : first ∈ rows) (secondMember : second ∈ rows) {value : ν}
    (firstValue : column first = some value) (secondValue : column second = some value) : first = second := by
  rw [nodup_iff_pairwise_ne, pairwise_filterMap] at distinct
  by_contra different
  have symmetric : Std.Symm fun a b : α =>
      ∀ x, column a = some x → ∀ y, column b = some y → x ≠ y :=
    ⟨fun _ _ apart x right y left same => apart y left x right same.symm⟩
  exact distinct.forall firstMember secondMember different value firstValue value secondValue rfl

theorem nodup_map_concat {column : α → ν} {row : α} (once : (rows.map column).Nodup)
    (fresh : ∀ other ∈ rows, column other ≠ column row) : ((rows ++ [row]).map column).Nodup := by
  rw [map_append, map_singleton, nodup_append]
  refine ⟨once, nodup_singleton _, ?_⟩
  intro value member other single
  obtain ⟨existing, inRows, rfl⟩ := mem_map.mp member
  rw [mem_singleton.mp single]
  exact fresh existing inRows

theorem foldl_changeRow {ω : Type*} {items : List ω} {name : ω → κ} {change : ω → α → α}
    (keeps : ∀ item row, key (change item row) = key row) (once : (items.map name).Nodup) :
    items.foldl (fun table item => changeRow key (name item) (change item) table) rows =
      rows.map fun row => (items.find? fun item => name item = key row).elim row fun item => change item row := by
  induction items generalizing rows with
  | nil => simp
  | cons item rest ih =>
    obtain ⟨single, restOnce⟩ := nodup_cons.mp once
    rw [foldl_cons, ih restOnce, changeRow, map_map]
    refine map_congr_left fun row _ => ?_
    simp only [Function.comp_apply, List.find?_cons]
    by_cases here : key row = name item
    · have last : rest.find? (fun other => decide (name other = key row)) = none := by
        rw [List.find?_eq_none]
        intro other member same
        exact single (mem_map.mpr ⟨other, member, (of_decide_eq_true same).trans here⟩)
      rw [if_pos here, keeps, last]
      simp [here]
    · rw [if_neg here]
      simp [Ne.symm here]

inductive Violation where
  | unique
  | foreignKey
deriving DecidableEq

section Insert

variable {ρ ι : Type} [DecidableEq ι] (key : ρ → ι) (parent : ρ → Prop) [DecidablePred parent]

/-- `INSERT INTO` a table with a primary key whose rows refer to a parent. -/
def insertRow (rows : List ρ) (row : ρ) : Except Violation (List ρ) :=
  if key row ∈ rows.map key then .error .unique
  else if parent row then .ok (rows ++ [row])
  else .error .foreignKey

/-- One row after the other; the first refusal is reported with its row. -/
def insertRows : List ρ → List ρ → Except (ρ × Violation) (List ρ)
  | rows, [] => .ok rows
  | rows, row :: rest => do
      let grown ← (insertRow key parent rows row).mapError fun violation => (row, violation)
      insertRows grown rest

variable {key parent} {rows : List ρ}

theorem insertRow_eq_ok {row : ρ} {grown : List ρ} :
    insertRow key parent rows row = .ok grown ↔ key row ∉ rows.map key ∧ parent row ∧ rows ++ [row] = grown := by
  unfold insertRow
  split
  · simp_all
  · split <;> simp_all

theorem insertRows_eq_ok {new grown : List ρ} :
    insertRows key parent rows new = .ok grown ↔
      (∀ row ∈ new, parent row ∧ key row ∉ rows.map key) ∧ (new.map key).Nodup ∧ rows ++ new = grown := by
  induction new generalizing rows with
  | nil => simp [insertRows]
  | cons row rest ih =>
    simp only [insertRows, bind_eq_ok, mapError_eq_ok, insertRow_eq_ok, ih]
    constructor
    · rintro ⟨_, ⟨fresh, known, rfl⟩, others, once, rfl⟩
      refine ⟨forall_mem_cons.mpr ⟨⟨known, fresh⟩, fun other member => ?_⟩, ?_, by simp⟩
      · obtain ⟨otherKnown, otherFresh⟩ := others other member
        exact ⟨otherKnown, fun taken => otherFresh (by simp [mem_map.mp taken])⟩
      · refine nodup_cons.mpr ⟨fun repeats => ?_, once⟩
        obtain ⟨other, member, same⟩ := mem_map.mp repeats
        exact (others other member).2 (by simp [same])
    · rintro ⟨all, once, rfl⟩
      obtain ⟨⟨known, fresh⟩, others⟩ := forall_mem_cons.mp all
      obtain ⟨single, restOnce⟩ := nodup_cons.mp once
      refine ⟨_, ⟨fresh, known, rfl⟩, fun other member => ⟨(others other member).1, fun taken => ?_⟩, restOnce, by simp⟩
      rw [map_append, mem_append] at taken
      rcases taken with old | new
      · exact (others other member).2 old
      · rw [map_singleton, mem_singleton] at new
        exact single (mem_map.mpr ⟨other, member, new⟩)

theorem insertRows_of_one_owner {ω : Type} {owner : ρ → ω} {known : ω → Prop} [DecidablePred known] {name : ω}
    {new grown : List ρ} (owned : ∀ row ∈ new, owner row = name) (once : (new.map key).Nodup)
    (fresh : ∀ row ∈ new, key row ∉ rows.map key) :
    insertRows key (fun row => known (owner row)) rows new = .ok grown ↔
      (new ≠ [] → known name) ∧ rows ++ new = grown := by
  rw [insertRows_eq_ok]
  constructor
  · rintro ⟨all, -, rfl⟩
    refine ⟨fun nonempty => ?_, rfl⟩
    obtain ⟨row, member⟩ := exists_mem_of_ne_nil new nonempty
    exact owned row member ▸ (all row member).1
  · rintro ⟨ownerKnown, rfl⟩
    refine ⟨fun row member => ⟨?_, fresh row member⟩, once, rfl⟩
    rw [owned row member]
    exact ownerKnown (ne_nil_of_mem member)

end Insert

end Tierd.Data
