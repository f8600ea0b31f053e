import Mathlib

namespace Tierd.Data

open List

variable {α ι : Type*} (join : List α → List α → List α) (adds : ι → List α) (rejects : ι → α → Bool)

/-- Joins its entries to what is there and then rejects some of it, its own included. -/
def layer (below : List α) (top : ι) : List α := (join below (adds top)).filter fun x => !rejects top x

def layered (layers : List ι) : List α := layers.foldl (layer join adds rejects) []

/-- The layers after the last one that rejects the entry. -/
def sinceRejected (x : α) (layers : List ι) : List ι := layers.rtakeWhile fun top => !rejects top x

variable {join adds rejects} {layers : List ι} {x : α} {top : ι}

theorem layered_concat :
    layered join adds rejects (layers ++ [top]) = layer join adds rejects (layered join adds rejects layers) top :=
  foldl_concat _ _ _ _

theorem sinceRejected_concat_of_rejects (rejected : rejects top x = true) :
    sinceRejected rejects x (layers ++ [top]) = [] :=
  rtakeWhile_concat_neg _ _ _ (by simp [rejected])

theorem sinceRejected_concat_of_accepts (accepted : rejects top x = false) :
    sinceRejected rejects x (layers ++ [top]) = sinceRejected rejects x layers ++ [top] :=
  rtakeWhile_concat_pos _ _ _ (by simp [accepted])

theorem mem_layered (joins : ∀ x first second, x ∈ join first second ↔ x ∈ first ∨ x ∈ second) :
    x ∈ layered join adds rejects layers ↔ ∃ top ∈ sinceRejected rejects x layers, x ∈ adds top := by
  induction layers using List.reverseRecOn with
  | nil => simp [layered, sinceRejected]
  | append_singleton below top ih =>
    rw [layered_concat, layer, mem_filter, joins, ih]
    cases verdict : rejects top x with
    | true => simp [sinceRejected_concat_of_rejects verdict]
    | false =>
      simp only [sinceRejected_concat_of_accepts verdict, mem_append, mem_singleton, or_and_right, exists_or,
        exists_eq_left, Bool.not_false, and_true]

theorem count_layered_append [DecidableEq α] :
    (layered (· ++ ·) adds rejects layers).count x = ((sinceRejected rejects x layers).flatMap adds).count x := by
  induction layers using List.reverseRecOn with
  | nil => rfl
  | append_singleton below top ih =>
    rw [layered_concat, layer]
    cases verdict : rejects top x with
    | true =>
      rw [sinceRejected_concat_of_rejects verdict]
      exact count_eq_zero_of_not_mem fun kept => by simp [verdict] at kept
    | false =>
      rw [sinceRejected_concat_of_accepts verdict, count_filter (by simp [verdict]), count_append, ih,
        flatMap_append, count_append, flatMap_singleton]

section Once

variable [DecidableEq α]

/-- The additions that are not there yet. -/
def appendNew (below new : List α) : List α := new.foldl (fun all x => if x ∈ all then all else all ++ [x]) below

theorem mem_appendNew (x : α) (below new : List α) : x ∈ appendNew below new ↔ x ∈ below ∨ x ∈ new := by
  unfold appendNew
  induction new generalizing below with
  | nil => simp
  | cons head rest ih =>
    rw [foldl_cons, ih, mem_cons]
    split
    case isTrue known =>
      constructor
      · exact Or.imp_right .inr
      · rintro (before | rfl | later)
        · exact .inl before
        · exact .inl known
        · exact .inr later
    case isFalse => rw [mem_append, mem_singleton, or_assoc]

theorem nodup_appendNew {below : List α} (once : below.Nodup) (new : List α) : (appendNew below new).Nodup := by
  unfold appendNew
  refine List.foldlRecOn new _ (motive := List.Nodup) once fun all once x _ => ?_
  split
  case isTrue => exact once
  case isFalse fresh =>
    refine nodup_append.mpr ⟨once, nodup_singleton x, fun y old z single same => fresh ?_⟩
    exact mem_singleton.mp single ▸ same ▸ old

theorem nodup_layered_appendNew : (layered appendNew adds rejects layers).Nodup := by
  unfold layered
  refine List.foldlRecOn layers _ (motive := List.Nodup) nodup_nil fun below once top _ => ?_
  exact (nodup_appendNew once _).filter _

end Once

end Tierd.Data
