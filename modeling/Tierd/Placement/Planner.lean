import Tierd.Meta.Record

namespace Tierd.Placement

open Tierd.Meta

/-- Addition of Go's `int64`. -/
def addInt64 (first second : Int) : Int := (first + second).bmod (2 ^ 64)

theorem addInt64_eq_add {first second : Int} (low : -2 ^ 63 ≤ first + second) (high : first + second < 2 ^ 63) :
    addInt64 first second = first + second := by
  rw [addInt64, Int.bmod_def]
  omega

theorem addInt64_range (first second : Int) : -2 ^ 63 ≤ addInt64 first second ∧ addInt64 first second < 2 ^ 63 := by
  rw [addInt64, Int.bmod_def]
  omega

/-- A sum that passes the range comes out negative. -/
theorem addInt64_neg {first second : Int} (passes : 2 ^ 63 ≤ first + second) (small : first < 2 ^ 63)
    (smaller : second < 2 ^ 63) : addInt64 first second < 0 := by
  rw [addInt64, Int.bmod_def]
  omega

theorem addInt64_addInt64 (first second third : Int) :
    addInt64 (addInt64 first second) third = addInt64 first (second + third) := by
  unfold addInt64
  rw [Int.bmod_add_bmod, add_assoc]

structure RankedPoolTarget where
  rank : Int
  targetFillPct : Int
  fullThresholdPct : Int
deriving DecidableEq, Repr

structure Candidate where
  rel : String
  size : Nat
  curRank : Int
  pin : PinState
  heat : UInt32
deriving DecidableEq, Repr

structure TierCapacity where
  totalBytes : Int
  usedBytes : Int
  targetCap : Int
  fullCap : Int
deriving DecidableEq, Repr

def TierCapacity.admissionCap (capacity : TierCapacity) : Int := capacity.targetCap

/-- `map[int]*tierCapacity`, keyed by rank. -/
abbrev Capacities := Int → Option TierCapacity

inductive FullFallbackOrder where
  | slowestFirst
  | fastestFirst
deriving DecidableEq, Repr

/-- One tier of a scan: tiers faster than the preferred rank and tiers without a
capacity entry are skipped, and an admission charges the tier. -/
def admitAtCap (ceiling : TierCapacity → Int) (caps : Capacities) (target : RankedPoolTarget)
    (preferredRank size : Int) : Option (Int × Capacities) :=
  if target.rank < preferredRank then none
  else match caps target.rank with
    | none => none
    | some capacity =>
      if addInt64 capacity.usedBytes size ≤ ceiling capacity then
        some (target.rank, Function.update caps target.rank
          (some { capacity with usedBytes := addInt64 capacity.usedBytes size }))
      else none

def admitAtFullCap : Capacities → RankedPoolTarget → Int → Int → Option (Int × Capacities) :=
  admitAtCap TierCapacity.fullCap

def FullFallbackOrder.arrange (ranked : List RankedPoolTarget) : FullFallbackOrder → List RankedPoolTarget
  | .fastestFirst => ranked
  | .slowestFirst => ranked.reverse

def admitWithFallbackOrder (caps : Capacities) (ranked : List RankedPoolTarget)
    (preferredRank size : Int) (order : FullFallbackOrder) : Int × Capacities :=
  match ranked.findSome? fun target =>
      admitAtCap TierCapacity.admissionCap caps target preferredRank size with
  | some admitted => admitted
  | none =>
    match (order.arrange ranked).findSome? fun target =>
        admitAtFullCap caps target preferredRank size with
    | some admitted => admitted
    | none => (preferredRank, caps)

def admitWithFallback (caps : Capacities) (ranked : List RankedPoolTarget)
    (preferredRank size : Int) : Int × Capacities :=
  admitWithFallbackOrder caps ranked preferredRank size .slowestFirst

structure Assignment where
  assignments : List Int
  assigned : List Bool
  caps : Capacities

def Assignment.place (state : Assignment) (idx : Nat) (admitted : Int × Capacities) : Assignment where
  assignments := state.assignments.set idx admitted.1
  assigned := state.assigned.set idx true
  caps := admitted.2

def Assignment.initial (cands : List Candidate) (caps : Capacities) : Assignment where
  assignments := List.replicate cands.length 0
  assigned := List.replicate cands.length false
  caps := caps

section Assign

variable (ranked : List RankedPoolTarget) (fastestRank slowestRank : Int)

def assignPinned (state : Assignment) (entry : Candidate × Nat) : Assignment :=
  let (candidate, idx) := entry
  if candidate.pin = pinHot then
    state.place idx (admitWithFallbackOrder state.caps ranked fastestRank candidate.size .fastestFirst)
  else if candidate.pin = pinCold then
    state.place idx (admitWithFallback state.caps ranked slowestRank candidate.size)
  else state

/-- The indices the second pass sorts. -/
def unpinned (cands : List Candidate) (assigned : List Bool) : List Nat :=
  cands.zipIdx.filterMap fun (candidate, idx) =>
    if candidate.pin = pinNone ∧ assigned.getD idx false = false then some idx else none

/-- The comparison given to `sort.Slice`: hotter first, then smaller first. -/
def hotterOrSmaller (first second : Candidate) : Bool :=
  if first.heat ≠ second.heat then first.heat > second.heat else first.size < second.size

/-- What `sort.Slice` promises: a permutation in which no later element is less
than an earlier one.  Equal elements may come in any order. -/
structure SortedSlice (cands : List Candidate) (indices order : List Nat) : Prop where
  perm : order.Perm indices
  sorted : order.Pairwise fun i j => ∀ first second, cands[i]? = some first → cands[j]? = some second →
    hotterOrSmaller second first = false

def assignUnpinned (cands : List Candidate) (state : Assignment) (idx : Nat) : Assignment :=
  match cands[idx]? with
  | some candidate => state.place idx (admitWithFallback state.caps ranked fastestRank candidate.size)
  | none => state

def assignAllPinned (cands : List Candidate) (caps : Capacities) : Assignment :=
  cands.zipIdx.foldl (assignPinned ranked fastestRank slowestRank) (.initial cands caps)

/-- `order` is what `sort.Slice` makes of the unpinned indices. -/
def assignCandidateRanks (cands : List Candidate) (caps : Capacities) (order : List Nat) : Assignment :=
  order.foldl (assignUnpinned ranked fastestRank cands)
    (assignAllPinned ranked fastestRank slowestRank cands caps)

end Assign

structure PlannedMove where
  idx : Nat
  want : Int
deriving DecidableEq, Repr

/-- Body of the loop of `planMoveOrder`, on (demotions, promotions). -/
def planMove (assignments : List Int) (assigned : List Bool)
    (moves : List PlannedMove × List PlannedMove) (entry : Candidate × Nat) :
    List PlannedMove × List PlannedMove :=
  let (candidate, idx) := entry
  let want := assignments.getD idx 0
  if assigned.getD idx false = false ∨ want = candidate.curRank then moves
  else if want > candidate.curRank then (moves.1 ++ [⟨idx, want⟩], moves.2)
  else (moves.1, moves.2 ++ [⟨idx, want⟩])

def planMoveOrder (cands : List Candidate) (assignments : List Int) (assigned : List Bool) :
    List PlannedMove × List PlannedMove :=
  cands.zipIdx.foldl (planMove assignments assigned) ([], [])

end Tierd.Placement
