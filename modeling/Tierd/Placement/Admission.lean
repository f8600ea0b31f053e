import Tierd.Data.Runs
import Tierd.Placement.Planner

namespace Tierd.Placement

open Tierd.Data Tierd.Meta List

section Admission

variable (ranked : List RankedPoolTarget) (fastestRank slowestRank : Int)

def preferredRank (candidate : Candidate) : Int :=
  if candidate.pin = pinCold then slowestRank else fastestRank

def fallbackOrder (candidate : Candidate) : FullFallbackOrder :=
  if candidate.pin = pinHot then .fastestFirst else .slowestFirst

def admitCandidate (caps : Capacities) (candidate : Candidate) : Int × Capacities :=
  admitWithFallbackOrder caps ranked (preferredRank fastestRank slowestRank candidate) candidate.size
    (fallbackOrder candidate)

def fill (caps : Capacities) (candidate : Candidate) : Capacities :=
  (admitCandidate ranked fastestRank slowestRank caps candidate).2

def assignIndex (cands : List Candidate) (state : Assignment) (idx : Nat) : Assignment :=
  match cands[idx]? with
  | some candidate =>
    state.place idx (admitCandidate ranked fastestRank slowestRank state.caps candidate)
  | none => state

end Admission

def Candidate.pinned (candidate : Candidate) : Bool :=
  candidate.pin = pinHot ∨ candidate.pin = pinCold

def indicesOf (test : Candidate → Bool) (cands : List Candidate) : List Nat :=
  cands.zipIdx.filterMap fun (candidate, idx) => if test candidate then some idx else none

def schedule (cands : List Candidate) (order : List Nat) : List Nat :=
  indicesOf Candidate.pinned cands ++ order

theorem mem_indicesOf {test : Candidate → Bool} {cands : List Candidate} {idx : Nat} :
    idx ∈ indicesOf test cands ↔ ∃ candidate, cands[idx]? = some candidate ∧ test candidate = true := by
  simp only [indicesOf, mem_filterMap, Prod.exists, mem_zipIdx_iff_getElem?]
  constructor
  · rintro ⟨candidate, found, listed, picked⟩
    split at picked
    case isTrue passed =>
      cases picked
      exact ⟨candidate, listed, passed⟩
    case isFalse => cases picked
  · rintro ⟨candidate, listed, passed⟩
    exact ⟨candidate, idx, listed, by simp [passed]⟩

theorem indicesOf_nodup (test : Candidate → Bool) (cands : List Candidate) :
    (indicesOf test cands).Nodup := by
  unfold indicesOf
  have indexed : (cands.zipIdx.map Prod.snd).Nodup := by
    rw [zipIdx_map_snd]
    exact nodup_range'
  have kept : (cands.zipIdx.filterMap fun (entry : Candidate × Nat) =>
      if test entry.1 then some entry.2 else none) =
      (cands.zipIdx.filter fun entry => test entry.1).map Prod.snd := by
    rw [← filterMap_eq_map, filterMap_filter]
    rfl
  exact kept ▸ (indexed.sublist ((filter_sublist).map Prod.snd))

section Run

variable {ranked : List RankedPoolTarget} {fastestRank slowestRank : Int} {cands : List Candidate}

variable {state : Assignment}

theorem assignIndex_of_listed {idx : Nat} {candidate : Candidate}
    (listed : cands[idx]? = some candidate) :
    assignIndex ranked fastestRank slowestRank cands state idx =
      state.place idx (admitCandidate ranked fastestRank slowestRank state.caps candidate) := by
  simp [assignIndex, listed]

theorem assignPinned_eq {idx : Nat} {candidate : Candidate}
    (listed : cands[idx]? = some candidate) :
    assignPinned ranked fastestRank slowestRank state (candidate, idx) =
      if candidate.pinned then assignIndex ranked fastestRank slowestRank cands state idx else state := by
  rw [assignIndex_of_listed listed]
  by_cases hot : candidate.pin = pinHot
  · have notCold : pinHot ≠ pinCold := by decide
    simp [assignPinned, Candidate.pinned, admitCandidate, preferredRank, fallbackOrder, hot, notCold]
  · by_cases cold : candidate.pin = pinCold
    · have notHot : pinCold ≠ pinHot := by decide
      simp [assignPinned, Candidate.pinned, admitCandidate, admitWithFallback, preferredRank,
        fallbackOrder, cold, notHot]
    · simp [assignPinned, Candidate.pinned, hot, cold]

theorem assignAllPinned_eq_run (caps : Capacities) :
    assignAllPinned ranked fastestRank slowestRank cands caps =
      run (assignIndex ranked fastestRank slowestRank cands) (.initial cands caps)
        (indicesOf Candidate.pinned cands) := by
  unfold assignAllPinned run indicesOf
  rw [foldl_filterMap]
  refine foldl_ext _ _ _ fun state entry member => ?_
  obtain ⟨candidate, idx⟩ := entry
  rw [assignPinned_eq (mem_zipIdx_iff_getElem?.mp member)]
  by_cases forced : candidate.pinned <;> simp [forced]

theorem assignIndex_other {idx other : Nat} (different : other ≠ idx) :
    (assignIndex ranked fastestRank slowestRank cands state other).assigned[idx]? = state.assigned[idx]? ∧
    (assignIndex ranked fastestRank slowestRank cands state other).assignments[idx]? =
      state.assignments[idx]? := by
  unfold assignIndex
  split
  case h_1 => simp [Assignment.place, List.getElem?_set_ne different]
  case h_2 => simp

theorem run_assignIndex_other {idx : Nat} {indices : List Nat}
    (absent : idx ∉ indices) :
    (run (assignIndex ranked fastestRank slowestRank cands) state indices).assigned[idx]? =
      state.assigned[idx]? ∧
    (run (assignIndex ranked fastestRank slowestRank cands) state indices).assignments[idx]? =
      state.assignments[idx]? := by
  induction indices generalizing state with
  | nil => simp
  | cons head rest ih =>
    simp only [mem_cons, not_or] at absent
    have different : head ≠ idx := Ne.symm absent.1
    exact ⟨(ih absent.2).1.trans (assignIndex_other different).1,
      (ih absent.2).2.trans (assignIndex_other different).2⟩

theorem run_assignIndex_length {indices : List Nat} :
    (run (assignIndex ranked fastestRank slowestRank cands) state indices).assigned.length =
      state.assigned.length ∧
    (run (assignIndex ranked fastestRank slowestRank cands) state indices).assignments.length =
      state.assignments.length := by
  induction indices generalizing state with
  | nil => simp
  | cons head rest ih =>
    rw [run_cons, ih.1, ih.2]
    unfold assignIndex
    split <;> simp [Assignment.place]

theorem run_assignIndex_caps {indices : List Nat} :
    (run (assignIndex ranked fastestRank slowestRank cands) state indices).caps =
      run (fill ranked fastestRank slowestRank) state.caps (indices.filterMap (cands[·]?)) := by
  induction indices generalizing state with
  | nil => rfl
  | cons head rest ih =>
    rw [run_cons, ih]
    cases listed : cands[head]? with
    | none => simp [assignIndex, listed]
    | some candidate => simp [assignIndex, listed, Assignment.place, fill]

theorem unpinned_assignAllPinned (caps : Capacities) :
    unpinned cands (assignAllPinned ranked fastestRank slowestRank cands caps).assigned =
      indicesOf (fun candidate => candidate.pin = pinNone) cands := by
  unfold unpinned indicesOf
  refine filterMap_congr fun entry member => ?_
  obtain ⟨candidate, idx⟩ := entry
  have listed := mem_zipIdx_iff_getElem?.mp member
  by_cases free : candidate.pin = pinNone
  · have skipped : idx ∉ indicesOf Candidate.pinned cands := by
      intro scheduled
      obtain ⟨found, same, forced⟩ := mem_indicesOf.mp scheduled
      cases listed.symm.trans same
      revert forced
      rw [Candidate.pinned, free]
      decide
    have flag : (assignAllPinned ranked fastestRank slowestRank cands caps).assigned[idx]? =
        (Assignment.initial cands caps).assigned[idx]? := by
      rw [assignAllPinned_eq_run]
      exact (run_assignIndex_other skipped).1
    have small : idx < cands.length := (List.getElem?_eq_some_iff.mp listed).1
    simp [free, getD_eq_getElem?_getD, flag, Assignment.initial, small]
  · simp [free]

variable {caps : Capacities} {order : List Nat}
  (sorted : SortedSlice cands
    (unpinned cands (assignAllPinned ranked fastestRank slowestRank cands caps).assigned) order)

include sorted

theorem mem_order {idx : Nat} :
    idx ∈ order ↔ ∃ candidate, cands[idx]? = some candidate ∧ candidate.pin = pinNone := by
  rw [sorted.perm.mem_iff, unpinned_assignAllPinned, mem_indicesOf]
  simp

theorem schedule_nodup : (schedule cands order).Nodup := by
  have orderNodup : order.Nodup := by
    rw [sorted.perm.nodup_iff, unpinned_assignAllPinned]
    exact indicesOf_nodup _ cands
  refine nodup_append.mpr ⟨indicesOf_nodup _ cands, orderNodup, ?_⟩
  intro pinnedIdx forced freeIdx free same
  obtain ⟨candidate, listed, isPinned⟩ := mem_indicesOf.mp forced
  obtain ⟨found, again, isFree⟩ := (mem_order sorted).mp free
  cases (same ▸ listed).symm.trans again
  revert isPinned
  rw [Candidate.pinned, isFree]
  decide

theorem assignCandidateRanks_eq_run :
    assignCandidateRanks ranked fastestRank slowestRank cands caps order =
      run (assignIndex ranked fastestRank slowestRank cands) (.initial cands caps)
        (schedule cands order) := by
  unfold assignCandidateRanks schedule
  rw [assignAllPinned_eq_run, run_append]
  refine foldl_ext _ _ _ fun state idx member => ?_
  obtain ⟨candidate, listed, free⟩ := (mem_order sorted).mp member
  have notHot : pinNone ≠ pinHot := by decide
  have notCold : pinNone ≠ pinCold := by decide
  simp [assignUnpinned, assignIndex, listed, admitCandidate, preferredRank, fallbackOrder,
    admitWithFallback, free, notHot, notCold]

theorem assigned_rank {before after : List Nat} {idx : Nat} {candidate : Candidate}
    (scheduled : schedule cands order = before ++ idx :: after)
    (listed : cands[idx]? = some candidate) :
    (assignCandidateRanks ranked fastestRank slowestRank cands caps order).assigned[idx]? = some true ∧
    (assignCandidateRanks ranked fastestRank slowestRank cands caps order).assignments[idx]? =
      some (admitCandidate ranked fastestRank slowestRank
        (run (fill ranked fastestRank slowestRank) caps (before.filterMap (cands[·]?))) candidate).1 := by
  have nodup := schedule_nodup sorted
  rw [scheduled] at nodup
  have notLater : idx ∉ after := (nodup_cons.mp (nodup_append.mp nodup).2.1).1
  have small : idx < cands.length := (List.getElem?_eq_some_iff.mp listed).1
  rw [assignCandidateRanks_eq_run sorted, scheduled, run_append, run_cons]
  rw [(run_assignIndex_other notLater).1, (run_assignIndex_other notLater).2,
    assignIndex_of_listed listed, run_assignIndex_caps]
  constructor
  · refine List.getElem?_set_self ?_
    rw [run_assignIndex_length.1]
    simpa [Assignment.initial] using small
  · refine List.getElem?_set_self ?_
    rw [run_assignIndex_length.2]
    simpa [Assignment.initial] using small

omit sorted

end Run

theorem planMove_mem {assignments : List Int} {assigned : List Bool}
    {moves : List PlannedMove × List PlannedMove} {entry : Candidate × Nat} {move : PlannedMove} :
    (move ∈ (planMove assignments assigned moves entry).1 ∨
      move ∈ (planMove assignments assigned moves entry).2) ↔
    (move ∈ moves.1 ∨ move ∈ moves.2) ∨
      (assigned.getD entry.2 false = true ∧ assignments.getD entry.2 0 ≠ entry.1.curRank ∧
        move = ⟨entry.2, assignments.getD entry.2 0⟩) := by
  simp only [planMove]
  split
  case isTrue settled => grind
  case isFalse moving =>
    split <;> simp only [mem_append, mem_singleton] <;> grind

theorem foldl_planMove_mem {assignments : List Int} {assigned : List Bool}
    {moves : List PlannedMove × List PlannedMove} {entries : List (Candidate × Nat)}
    {move : PlannedMove} :
    (move ∈ (entries.foldl (planMove assignments assigned) moves).1 ∨
      move ∈ (entries.foldl (planMove assignments assigned) moves).2) ↔
    (move ∈ moves.1 ∨ move ∈ moves.2) ∨ ∃ entry ∈ entries,
      assigned.getD entry.2 false = true ∧ assignments.getD entry.2 0 ≠ entry.1.curRank ∧
        move = ⟨entry.2, assignments.getD entry.2 0⟩ := by
  induction entries generalizing moves with
  | nil => simp
  | cons entry rest ih =>
    rw [foldl_cons, ih, planMove_mem]
    simp only [mem_cons, exists_eq_or_imp, or_assoc]

theorem planMoveOrder_mem {cands : List Candidate} {assignments : List Int} {assigned : List Bool}
    {move : PlannedMove} :
    (move ∈ (planMoveOrder cands assignments assigned).1 ++
      (planMoveOrder cands assignments assigned).2) ↔
    ∃ candidate, cands[move.idx]? = some candidate ∧ assigned.getD move.idx false = true ∧
      assignments.getD move.idx 0 = move.want ∧ move.want ≠ candidate.curRank := by
  rw [mem_append, planMoveOrder, foldl_planMove_mem]
  simp only [not_mem_nil, or_self, false_or, Prod.exists, mem_zipIdx_iff_getElem?]
  constructor
  · rintro ⟨candidate, idx, listed, flagged, elsewhere, rfl⟩
    exact ⟨candidate, listed, flagged, rfl, elsewhere⟩
  · rintro ⟨candidate, listed, flagged, wanted, elsewhere⟩
    exact ⟨candidate, move.idx, listed, flagged, wanted ▸ elsewhere, by rw [wanted]⟩

/-- Neither cap of any tier that a scan from `preferredRank` may use leaves room. -/
def NoRoom (caps : Capacities) (ranked : List RankedPoolTarget) (preferredRank size : Int) : Prop :=
  ∀ target ∈ ranked, preferredRank ≤ target.rank → ∀ capacity ∈ caps target.rank,
    capacity.targetCap < capacity.usedBytes + size ∧ capacity.fullCap < capacity.usedBytes + size

/-- The values of a table entry are of type `int64`, and the target cap is a part of a size. -/
structure TierCapacity.InRange (capacity : TierCapacity) : Prop where
  used_low : -2 ^ 63 ≤ capacity.usedBytes
  used_high : capacity.usedBytes < 2 ^ 63
  target_nonneg : 0 ≤ capacity.targetCap
  target_high : capacity.targetCap < 2 ^ 63

def Capacities.InRange (caps : Capacities) : Prop := ∀ rank, ∀ capacity ∈ caps rank, capacity.InRange

/-- On this tier the sum that the scan compares with a cap passes the range of `int64`. -/
def Passes (caps : Capacities) (size : Int) (target : RankedPoolTarget) : Prop :=
  ∃ capacity ∈ caps target.rank, 2 ^ 63 ≤ capacity.usedBytes + size
deriving Decidable

theorem FullFallbackOrder.mem_arrange {ranked : List RankedPoolTarget} {target : RankedPoolTarget}
    (order : FullFallbackOrder) : target ∈ order.arrange ranked ↔ target ∈ ranked := by
  cases order with
  | slowestFirst => exact mem_reverse
  | fastestFirst => exact Iff.rfl

section Range

variable {ceiling : TierCapacity → Int} {caps : Capacities} {target : RankedPoolTarget} {preferred : Int} {size : Nat}

theorem admitAtCap_eq_some {admitted : Int × Capacities}
    (took : admitAtCap ceiling caps target preferred size = some admitted) :
    admitted.1 = target.rank ∧ ∃ capacity, caps target.rank = some capacity ∧ preferred ≤ target.rank ∧
      addInt64 capacity.usedBytes size ≤ ceiling capacity ∧ admitted.2 =
        Function.update caps target.rank (some { capacity with usedBytes := addInt64 capacity.usedBytes size }) := by
  unfold admitAtCap at took
  split at took
  case isTrue => cases took
  case isFalse eligible =>
    split at took
    case h_1 => cases took
    case h_2 capacity known =>
      split at took
      case isTrue room =>
        cases took
        exact ⟨rfl, capacity, known, not_lt.mp eligible, room, rfl⟩
      case isFalse => cases took

theorem admitAtCap_of_room {capacity : TierCapacity} (eligible : preferred ≤ target.rank)
    (known : caps target.rank = some capacity) (room : addInt64 capacity.usedBytes size ≤ ceiling capacity) :
    admitAtCap ceiling caps target preferred size = some (target.rank,
      Function.update caps target.rank (some { capacity with usedBytes := addInt64 capacity.usedBytes size })) := by
  unfold admitAtCap
  rw [if_neg (not_lt.mpr eligible), known]
  dsimp only
  rw [if_pos room]

theorem admitAtCap_eq_none_iff : admitAtCap ceiling caps target preferred size = none ↔
    (preferred ≤ target.rank → ∀ capacity ∈ caps target.rank, ceiling capacity < addInt64 capacity.usedBytes size) := by
  constructor
  · intro refused eligible capacity known
    by_contra room
    rw [admitAtCap_of_room eligible known (not_lt.mp room)] at refused
    cases refused
  · intro full
    cases took : admitAtCap ceiling caps target preferred size with
    | none => rfl
    | some admitted =>
      obtain ⟨_, capacity, known, eligible, room, _⟩ := admitAtCap_eq_some took
      exact absurd room (not_le.mpr (full eligible capacity known))

theorem TierCapacity.InRange.charged {capacity : TierCapacity} (range : capacity.InRange) (amount : Int) :
    { capacity with usedBytes := addInt64 capacity.usedBytes amount : TierCapacity }.InRange where
  used_low := (addInt64_range _ _).1
  used_high := (addInt64_range _ _).2
  target_nonneg := range.target_nonneg
  target_high := range.target_high

theorem TierCapacity.InRange.addInt64_eq {capacity : TierCapacity} (range : capacity.InRange)
    (fits : capacity.usedBytes + size < 2 ^ 63) : addInt64 capacity.usedBytes size = capacity.usedBytes + size := by
  have low := range.used_low
  exact addInt64_eq_add (by omega) fits

theorem admitAtCap_inRange {admitted : Int × Capacities} (range : caps.InRange)
    (took : admitAtCap ceiling caps target preferred size = some admitted) : admitted.2.InRange := by
  obtain ⟨_, capacity, known, _, _, charged⟩ := admitAtCap_eq_some took
  intro rank
  rw [charged]
  by_cases here : rank = target.rank
  · rw [here, Function.update_self]
    rintro entry ⟨⟩
    exact (range target.rank capacity known).charged size
  · rw [Function.update_of_ne here]
    exact range rank

theorem fill_inRange {ranked : List RankedPoolTarget} {fastestRank slowestRank : Int} {candidate : Candidate}
    (range : caps.InRange) : (fill ranked fastestRank slowestRank caps candidate).InRange := by
  unfold fill admitCandidate admitWithFallbackOrder
  split
  case h_1 scanned =>
    obtain ⟨_, _, took⟩ := exists_of_findSome?_eq_some scanned
    exact admitAtCap_inRange range took
  case h_2 =>
    split
    case h_1 scanned =>
      obtain ⟨_, _, took⟩ := exists_of_findSome?_eq_some scanned
      exact admitAtCap_inRange range took
    case h_2 => exact range

theorem run_fill_inRange {ranked : List RankedPoolTarget} {fastestRank slowestRank : Int} (range : caps.InRange)
    (files : List Candidate) : (run (fill ranked fastestRank slowestRank) caps files).InRange :=
  run_invariant (fun _ _ held => fill_inRange held) files range

/-- A tier where the sum passes the range has room for any file, as the scan sees it. -/
theorem admitAtCap_of_passes (range : caps.InRange) (small : size < 2 ^ 63) (eligible : preferred ≤ target.rank)
    (passes : Passes caps size target) :
    ∃ admitted, admitAtCap TierCapacity.admissionCap caps target preferred size = some admitted := by
  obtain ⟨capacity, known, beyond⟩ := passes
  have held := range target.rank capacity known
  have negative : addInt64 capacity.usedBytes size < 0 := addInt64_neg beyond held.used_high (by exact_mod_cast small)
  exact ⟨_, admitAtCap_of_room eligible known (negative.le.trans held.target_nonneg)⟩

end Range

/-- Where a file without room is put: on the first tier of its scan on which the sum passes the
range of `int64`, or else on the rank the scan starts from. -/
def misfitRank (caps : Capacities) (ranked : List RankedPoolTarget) (preferredRank size : Int) : Int :=
  ((ranked.find? fun target => preferredRank ≤ target.rank ∧ Passes caps size target).map (·.rank)).getD preferredRank

section Misfit

variable {caps : Capacities} {ranked : List RankedPoolTarget} {preferred : Int} {size : Nat} (range : caps.InRange)
  (small : size < 2 ^ 63)

include range

theorem admitAtCap_misfit {ceiling : TierCapacity → Int} {target : RankedPoolTarget}
    (full : preferred ≤ target.rank → ∀ capacity ∈ caps target.rank, ceiling capacity < capacity.usedBytes + size)
    (within : ¬ (preferred ≤ target.rank ∧ Passes caps size target)) :
    admitAtCap ceiling caps target preferred size = none := by
  refine admitAtCap_eq_none_iff.mpr fun eligible capacity known => ?_
  have fits : capacity.usedBytes + size < 2 ^ 63 := not_le.mp fun beyond => within ⟨eligible, capacity, known, beyond⟩
  rw [(range target.rank capacity known).addInt64_eq fits]
  exact full eligible capacity known

include small

theorem target_scan_misfit (misfit : NoRoom caps ranked preferred size) :
    (ranked.findSome? fun target => admitAtCap TierCapacity.admissionCap caps target preferred size).map Prod.fst =
      (ranked.find? fun target => preferred ≤ target.rank ∧ Passes caps size target).map (·.rank) := by
  induction ranked with
  | nil => rfl
  | cons target slower ih =>
    have later := ih fun other member => misfit other (mem_cons_of_mem _ member)
    rw [List.findSome?_cons, List.find?_cons]
    by_cases passes : preferred ≤ target.rank ∧ Passes caps size target
    · obtain ⟨admitted, took⟩ := admitAtCap_of_passes range small passes.1 passes.2
      simp [took, passes, (admitAtCap_eq_some took).1]
    · have full := misfit target mem_cons_self
      have refused : admitAtCap TierCapacity.admissionCap caps target preferred size = none :=
        admitAtCap_misfit range (fun eligible capacity known => (full eligible capacity known).1) passes
      simp only [refused, passes, decide_false]
      exact later

theorem admitWithFallbackOrder_noRoom (misfit : NoRoom caps ranked preferred size) (order : FullFallbackOrder) :
    (admitWithFallbackOrder caps ranked preferred size order).1 = misfitRank caps ranked preferred size := by
  have scanned := target_scan_misfit range small misfit
  unfold admitWithFallbackOrder misfitRank
  rw [← scanned]
  cases first : ranked.findSome? fun target => admitAtCap TierCapacity.admissionCap caps target preferred size with
  | some admitted => rfl
  | none =>
    rw [first, Option.map_none, eq_comm, Option.map_eq_none_iff, List.find?_eq_none] at scanned
    have refused : (order.arrange ranked).findSome? (fun target => admitAtFullCap caps target preferred size) =
      none := by
      refine List.findSome?_eq_none_iff.mpr fun target member => ?_
      have listed := order.mem_arrange.mp member
      exact admitAtCap_misfit range (fun eligible capacity known => (misfit target listed eligible capacity known).2)
        (by simpa using scanned target listed)
    simp [refused]

end Misfit

/-- A file that fits nowhere when it is admitted stays where it is exactly when it already lies on
the rank its scan starts from or, where a sum passes the range of `int64`, on the first tier of the
scan on which that happens. -/
theorem misfit_stays_iff {ranked : List RankedPoolTarget} {fastestRank slowestRank : Int}
    {cands : List Candidate} {caps : Capacities} {order : List Nat} (range : caps.InRange)
    (sorted : SortedSlice cands
      (unpinned cands (assignAllPinned ranked fastestRank slowestRank cands caps).assigned) order)
    {before after : List Nat} {idx : Nat} {candidate : Candidate}
    (scheduled : schedule cands order = before ++ idx :: after)
    (listed : cands[idx]? = some candidate) (small : candidate.size < 2 ^ 63)
    (misfit : NoRoom (run (fill ranked fastestRank slowestRank) caps (before.filterMap (cands[·]?)))
      ranked (preferredRank fastestRank slowestRank candidate) candidate.size) :
    (let result := assignCandidateRanks ranked fastestRank slowestRank cands caps order
     ∀ move ∈ (planMoveOrder cands result.assignments result.assigned).1 ++
        (planMoveOrder cands result.assignments result.assigned).2, move.idx ≠ idx) ↔
      candidate.curRank = misfitRank (run (fill ranked fastestRank slowestRank) caps (before.filterMap (cands[·]?)))
        ranked (preferredRank fastestRank slowestRank candidate) candidate.size := by
  obtain ⟨flagged, ranked_as⟩ := assigned_rank sorted scheduled listed
  have returned := admitWithFallbackOrder_noRoom (run_fill_inRange range _) small misfit (fallbackOrder candidate)
  change (admitCandidate _ _ _ _ candidate).1 = _ at returned
  rw [returned] at ranked_as
  generalize misfitRank _ _ _ _ = rank at ranked_as ⊢
  simp only [planMoveOrder_mem, getD_eq_getElem?_getD]
  constructor
  · intro unmoved
    by_contra elsewhere
    exact unmoved ⟨idx, rank⟩ ⟨candidate, listed, by simp [flagged], by simp [ranked_as], Ne.symm elsewhere⟩ rfl
  · rintro home ⟨moved, want⟩ ⟨found, again, _, wanted, elsewhere⟩ rfl
    cases listed.symm.trans again
    simp only [ranked_as, Option.getD_some] at wanted
    exact elsewhere (wanted.symm.trans home.symm)

def crowdedTiers : Capacities
  | 1 => some ⟨100, 90, 50, 95⟩
  | 2 => some ⟨100, 80, 50, 95⟩
  | _ => none

def twoRanked : List RankedPoolTarget := [⟨1, 50, 95⟩, ⟨2, 50, 95⟩]

/-- A file of 20 bytes without pin. -/
def plainFile (rank : Int) : Candidate := ⟨"a", 20, rank, pinNone, 0⟩

theorem misfit_stays_on_fastest :
    let result := assignCandidateRanks twoRanked 1 2 [plainFile 1] crowdedTiers [0]
    ∀ move ∈ (planMoveOrder [plainFile 1] result.assignments result.assigned).1 ++
      (planMoveOrder [plainFile 1] result.assignments result.assigned).2, move.idx ≠ 0 := by
  have sorted : SortedSlice [plainFile 1]
      (unpinned [plainFile 1] (assignAllPinned twoRanked 1 2 [plainFile 1] crowdedTiers).assigned) [0] :=
    ⟨by decide, pairwise_singleton _ _⟩
  have range : crowdedTiers.InRange := by
    intro rank capacity known
    unfold crowdedTiers at known
    split at known <;> cases known <;> constructor <;> decide
  have misfit : NoRoom crowdedTiers twoRanked 1 20 := by
    unfold NoRoom
    decide
  have scheduled : schedule [plainFile 1] [0] = [] ++ 0 :: [] := by decide
  exact (misfit_stays_iff range sorted scheduled rfl (by decide) misfit).mpr (by decide)

/-- On the slow tier the same file is promoted to a tier that has no room for it. -/
theorem misfit_promoted :
    NoRoom crowdedTiers twoRanked (preferredRank 1 2 (plainFile 2)) (plainFile 2).size ∧
    SortedSlice [plainFile 2]
      (unpinned [plainFile 2] (assignAllPinned twoRanked 1 2 [plainFile 2] crowdedTiers).assigned) [0] ∧
    schedule [plainFile 2] [0] = [0] ∧
    planMoveOrder [plainFile 2] (assignCandidateRanks twoRanked 1 2 [plainFile 2] crowdedTiers [0]).assignments
      (assignCandidateRanks twoRanked 1 2 [plainFile 2] crowdedTiers [0]).assigned = ([], [⟨0, 1⟩]) := by
  refine ⟨?_, ⟨by decide, pairwise_singleton _ _⟩, by decide, by decide⟩
  unfold NoRoom
  decide

end Tierd.Placement
