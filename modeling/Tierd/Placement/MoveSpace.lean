import Tierd.Placement.Accounting

namespace Tierd.Placement

open Tierd.Data Tierd.Meta List

/-- The destination has the space that the copy needs. -/
def Fits (table : Capacities) (cands : List Candidate) (occupied : Int → Int) (move : PlannedMove) : Prop :=
  ∀ candidate ∈ cands[move.idx]?, ∀ capacity ∈ table move.want,
    occupied move.want + candidate.size ≤ capacity.totalBytes

def curRankAt (cands : List Candidate) (idx : Nat) : Int := (cands[idx]?).elim 0 fun candidate => candidate.curRank

section Order

variable (cands : List Candidate) (assignments : List Int) (assigned : List Bool)

def Demoted (idx : Nat) : Prop := curRankAt cands idx < assignments.getD idx 0
deriving Decidable

/-- Demotions go before promotions, and moves of one kind in the order of the walk. -/
def Ahead (first second : Nat) : Prop :=
  (Demoted cands assignments first ∧ ¬ Demoted cands assignments second) ∨
    ((Demoted cands assignments first ↔ Demoted cands assignments second) ∧ first < second)
deriving Decidable

end Order

section Plan

variable {cands : List Candidate} {assignments : List Int} {assigned : List Bool}

variable {move : PlannedMove}

end Plan

end Tierd.Placement
