import Tierd.Data.Paths

namespace Tierd.Backup

open Tierd.Data Tierd.Data.Paths

/-- `filepath.Clean`; a relative path keeps its leading `..`. -/
def cleanPath (path : Text) : Text :=
  if path.head? = some slash then clean path
  else
    let relative := Relative.ofParts (path.splitOn slash)
    let parts := List.replicate relative.ups ['.', '.'] ++ relative.below
    if parts = [] then ['.'] else [slash].intercalate parts

structure Pool where
  uuid : Text
  name : Text
  mountpoint : Text
deriving DecidableEq

def Pool.Covers (pool : Pool) (path : Text) : Prop :=
  cleanPath path = cleanPath pool.mountpoint ∨ cleanPath pool.mountpoint ++ [slash] <+: cleanPath path
deriving Decidable

/-- Keeps the first of the longest mountpoints. -/
def longerPool (path : Text) (best : Option Pool) (pool : Pool) : Option Pool :=
  if pool.Covers path ∧ ∀ other ∈ best, (cleanPath other.mountpoint).length < (cleanPath pool.mountpoint).length then
    some pool
  else best

/-- Cleaned paths are compared as texts. -/
def smoothfsPoolForPath (path : Text) (pools : List Pool) : Option Pool := pools.foldl (longerPool path) none

section Found

variable {path : Text} {pools : List Pool} {pool : Pool}

theorem longerPool_keeps {best : Option Pool} (next : Pool) (found : pool ∈ best) :
    ∃ later ∈ longerPool path best next,
      (cleanPath pool.mountpoint).length ≤ (cleanPath later.mountpoint).length := by
  unfold longerPool
  split
  case isTrue longer => exact ⟨next, rfl, (longer.2 pool found).le⟩
  case isFalse => exact ⟨pool, found, le_rfl⟩

theorem foldl_keeps {best : Option Pool} (found : pool ∈ best) :
    ∃ later ∈ pools.foldl (longerPool path) best,
      (cleanPath pool.mountpoint).length ≤ (cleanPath later.mountpoint).length := by
  induction pools generalizing best pool with
  | nil => exact ⟨pool, found, le_rfl⟩
  | cons next rest ih =>
    obtain ⟨later, kept, longer⟩ := longerPool_keeps next found
    obtain ⟨last, remains, longest⟩ := ih kept
    exact ⟨last, remains, longer.trans longest⟩

theorem longest_of_covers (member : pool ∈ pools) (covers : pool.Covers path) :
    ∃ found, smoothfsPoolForPath path pools = some found ∧
      (cleanPath pool.mountpoint).length ≤ (cleanPath found.mountpoint).length := by
  obtain ⟨before, after, rfl⟩ := List.append_of_mem member
  unfold smoothfsPoolForPath
  rw [List.foldl_append, List.foldl_cons]
  have here : ∃ met ∈ longerPool path (before.foldl (longerPool path) none) pool,
      (cleanPath pool.mountpoint).length ≤ (cleanPath met.mountpoint).length := by
    unfold longerPool
    split
    case isTrue => exact ⟨pool, rfl, le_rfl⟩
    case isFalse shorter =>
      push Not at shorter
      obtain ⟨best, known, longer⟩ := shorter covers
      exact ⟨best, known, longer⟩
  obtain ⟨met, known, longer⟩ := here
  obtain ⟨found, kept, longest⟩ := foldl_keeps known
  exact ⟨found, kept, longer.trans longest⟩

theorem covers_of_found (found : smoothfsPoolForPath path pools = some pool) : pool ∈ pools ∧ pool.Covers path := by
  have inductively : ∀ (seen : List Pool) (best : Option Pool),
      (∀ met ∈ best, met ∈ pools ∧ met.Covers path) → (∀ met ∈ seen, met ∈ pools) →
      ∀ met ∈ seen.foldl (longerPool path) best, met ∈ pools ∧ met.Covers path := by
    intro seen
    induction seen with
    | nil => exact fun best known _ => known
    | cons next rest ih =>
      intro best known inside
      refine ih _ (fun met kept => ?_) fun met member => inside met (List.mem_cons_of_mem _ member)
      unfold longerPool at kept
      split at kept
      case isTrue longer =>
        obtain rfl := Option.some.inj kept
        exact ⟨inside next List.mem_cons_self, longer.1⟩
      case isFalse => exact known met kept
  exact inductively pools none (fun _ absent => absurd absent (Option.not_mem_none _))
    (fun _ member => member) pool found

end Found

/-- The mountpoint of a pool as handlers expect it. -/
structure Pool.Proper (pool : Pool) : Prop where
  absolute : pool.mountpoint.head? = some slash
  somewhere : names pool.mountpoint ≠ []

instance (pool : Pool) : Decidable pool.Proper :=
  decidable_of_iff (pool.mountpoint.head? = some slash ∧ names pool.mountpoint ≠ [])
    ⟨fun both => ⟨both.1, both.2⟩, fun proper => ⟨proper.absolute, proper.somewhere⟩⟩

theorem cleanPath_absolute {path : Text} (absolute : path.head? = some slash) : cleanPath path = clean path :=
  if_pos absolute

theorem covers_iff {pool : Pool} {path : Text} (proper : pool.Proper) (absolute : path.head? = some slash) :
    pool.Covers path ↔ names pool.mountpoint <+: names path := by
  have below : clean pool.mountpoint ++ [slash] <+: clean path ↔
      ∃ further, further ≠ [] ∧ names path = names pool.mountpoint ++ further :=
    below_prefix_iff (names_isName pool.mountpoint) proper.somewhere
  unfold Pool.Covers
  rw [cleanPath_absolute absolute, cleanPath_absolute proper.absolute, clean_inj, below]
  constructor
  · rintro (same | ⟨further, _, leads⟩)
    · rw [same]
    · exact ⟨further, leads.symm⟩
  · rintro ⟨further, leads⟩
    by_cases here : further = []
    · subst here
      exact .inl (by simpa using leads.symm)
    · exact .inr ⟨further, here, leads.symm⟩

theorem clean_length_lt {first second : Text} (somewhere : names first ≠ []) (below : names first <+: names second)
    (further : names first ≠ names second) : (clean first).length < (clean second).length := by
  obtain ⟨rest, leads⟩ := below
  have more : rest ≠ [] := by
    rintro rfl
    exact further (by simpa using leads)
  unfold clean
  rw [← leads, spelled_append somewhere more]
  simp only [List.length_cons, List.length_append]
  omega

end Tierd.Backup
