import Mathlib

namespace Tierd.Data

open List

variable {α κ : Type*} [DecidableEq κ] (key : α → κ)

/-- The first element of each key, unless the key was seen before. -/
def firsts (seen : List κ) : List α → List α
  | [] => []
  | x :: rest => if key x ∈ seen then firsts seen rest else x :: firsts (key x :: seen) rest

variable {key} {seen : List κ} {items : List α} {x : α}

theorem firsts_cons_seen (met : key x ∈ seen) : firsts key seen (x :: items) = firsts key seen items :=
  if_pos met

theorem firsts_cons_new (unmet : key x ∉ seen) :
    firsts key seen (x :: items) = x :: firsts key (key x :: seen) items :=
  if_neg unmet

theorem firsts_sublist : (firsts key seen items).Sublist items := by
  induction items generalizing seen with
  | nil => exact .slnil
  | cons head rest ih =>
    unfold firsts
    split
    · exact ih.cons head
    · exact ih.cons_cons head

theorem not_seen_of_mem_firsts (kept : x ∈ firsts key seen items) : key x ∉ seen := by
  induction items generalizing seen with
  | nil => nomatch kept
  | cons head rest ih =>
    unfold firsts at kept
    split at kept
    case isTrue => exact ih kept
    case isFalse unmet =>
      rcases mem_cons.mp kept with rfl | later
      · exact unmet
      · exact fun met => ih later (mem_cons_of_mem _ met)

theorem exists_firsts (met : x ∈ items) (unmet : key x ∉ seen) : ∃ y ∈ firsts key seen items, key y = key x := by
  induction items generalizing seen with
  | nil => nomatch met
  | cons head rest ih =>
    by_cases old : key head ∈ seen
    · rw [firsts_cons_seen old]
      rcases mem_cons.mp met with rfl | later
      · exact absurd old unmet
      · exact ih later unmet
    · rw [firsts_cons_new old]
      by_cases same : key x = key head
      · exact ⟨head, mem_cons_self, same.symm⟩
      · have later : x ∈ rest := (mem_cons.mp met).resolve_left fun first => same (congrArg key first)
        have stillUnmet : key x ∉ key head :: seen := fun again => (mem_cons.mp again).elim same unmet
        obtain ⟨y, kept, agrees⟩ := ih later stillUnmet
        exact ⟨y, mem_cons_of_mem head kept, agrees⟩

theorem mem_firsts_self {items : List κ} {k : κ} : k ∈ firsts id [] items ↔ k ∈ items := by
  refine ⟨fun kept => firsts_sublist.subset kept, fun met => ?_⟩
  have unmet : id k ∉ ([] : List κ) := not_mem_nil
  obtain ⟨first, kept, rfl⟩ := exists_firsts met unmet
  exact kept

theorem findSome?_range_eq_some {look : Nat → Option α} {total : Nat} {found : α} :
    (List.range total).findSome? look = some found ↔
      ∃ place < total, look place = some found ∧ ∀ before < place, look before = none := by
  induction total with
  | zero => simp
  | succ total ih =>
    rw [range_succ, List.findSome?_append, Option.or_eq_some_iff, ih, List.findSome?_eq_none_iff]
    constructor
    · rintro (⟨place, within, hit⟩ | ⟨misses, hit⟩)
      · exact ⟨place, by omega, hit⟩
      · exact ⟨total, by omega, by simpa using hit, fun before earlier => misses before (mem_range.mpr earlier)⟩
    · rintro ⟨place, within, hit, misses⟩
      rcases Nat.lt_succ_iff_lt_or_eq.mp within with earlier | rfl
      · exact .inl ⟨place, earlier, hit, misses⟩
      · exact .inr ⟨fun before member => misses before (mem_range.mp member), by simpa using hit⟩

end Tierd.Data
