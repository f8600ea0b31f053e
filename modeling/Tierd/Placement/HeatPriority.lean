import Tierd.Placement.Accounting

namespace Tierd.Placement

open Tierd.Data Tierd.Meta List

def TargetRoom (caps : Capacities) (ranked : List RankedPoolTarget) (preferredRank size : Int) : Prop :=
  ∃ target ∈ ranked, preferredRank ≤ target.rank ∧ ∃ capacity ∈ caps target.rank,
    capacity.usedBytes + size ≤ capacity.targetCap
deriving Decidable

/-- A tier has room under its target cap. -/
def RoomAt (caps : Capacities) (rank size : Int) : Prop :=
  ∃ capacity ∈ caps rank, capacity.usedBytes + size ≤ capacity.targetCap

section Room

variable {ranked : List RankedPoolTarget} {fastestRank slowestRank : Int} {cands : List Candidate} {caps : Capacities}
  (range : caps.InRange)

include range

theorem RoomAt.earlier (sizes : ∀ candidate ∈ cands, candidate.size < 2 ^ 63) {indices : List Nat}
    (within : Guarded (fill ranked fastestRank slowestRank) (NoOverflow ranked fastestRank slowestRank) caps
      (indices.filterMap (cands[·]?))) {rank size smaller : Int}
    (room : RoomAt (run (fill ranked fastestRank slowestRank) caps (indices.filterMap (cands[·]?))) rank size)
    (small : smaller ≤ size) : RoomAt caps rank smaller := by
  obtain ⟨capacity, known, fits⟩ := room
  have received_small := (guarded_iff_received sizes range indices).mp within
  have exactly := (plusInt64_eq_plus_iff range fun rank => received_nonneg cands _ rank).mpr received_small
  rw [run_fill_eq_received range, exactly] at known
  obtain ⟨before, knownBefore, rfl⟩ := Option.map_eq_some_iff.mp known
  refine ⟨before, knownBefore, ?_⟩
  have grown := received_nonneg cands (admissions ranked fastestRank slowestRank cands caps indices) rank
  dsimp only at fits
  omega

theorem admitAtCap_of_roomAt {target : RankedPoolTarget} {preferred : Int} {size : Nat}
    (eligible : preferred ≤ target.rank) (room : RoomAt caps target.rank size) :
    ∃ admitted, admitAtCap TierCapacity.admissionCap caps target preferred size = some admitted := by
  obtain ⟨capacity, known, fits⟩ := room
  have held := range target.rank capacity known
  have exactly := held.addInt64_eq (fits.trans_lt held.target_high)
  exact ⟨_, admitAtCap_of_room eligible known (exactly.trans_le fits)⟩

theorem target_scan_le {preferred : Int} {size : Nat} {targets : List RankedPoolTarget}
    (increasing : targets.Pairwise fun first second => first.rank < second.rank) {target : RankedPoolTarget}
    (member : target ∈ targets) (eligible : preferred ≤ target.rank) (room : RoomAt caps target.rank size) :
    ∃ admitted, (targets.findSome? fun tier => admitAtCap TierCapacity.admissionCap caps tier preferred size) =
      some admitted ∧ admitted.1 ≤ target.rank := by
  induction targets with
  | nil => cases member
  | cons first rest ih =>
    rw [List.findSome?_cons]
    rcases mem_cons.mp member with rfl | later
    · obtain ⟨admitted, took⟩ := admitAtCap_of_roomAt range eligible room
      rw [took]
      exact ⟨admitted, rfl, (admitAtCap_eq_some took).1.le⟩
    · cases took : admitAtCap TierCapacity.admissionCap caps first preferred size with
      | some admitted =>
        have faster := (pairwise_cons.mp increasing).1 target later
        exact ⟨admitted, rfl, (admitAtCap_eq_some took).1.le.trans faster.le⟩
      | none => exact ih (pairwise_cons.mp increasing).2 later

theorem admitCandidate_le_of_room {candidate : Candidate}
    (increasing : ranked.Pairwise fun first second => first.rank < second.rank) {target : RankedPoolTarget}
    (member : target ∈ ranked) (eligible : preferredRank fastestRank slowestRank candidate ≤ target.rank)
    (room : RoomAt caps target.rank candidate.size) :
    (admitCandidate ranked fastestRank slowestRank caps candidate).1 ≤ target.rank := by
  obtain ⟨admitted, scanned, faster⟩ := target_scan_le range increasing member eligible room
  unfold admitCandidate admitWithFallbackOrder
  rw [scanned]
  exact faster

theorem admitCandidate_of_targetRoom {candidate : Candidate} (small : candidate.size < 2 ^ 63)
    (within : NoOverflow ranked fastestRank slowestRank caps candidate)
    (increasing : ranked.Pairwise fun first second => first.rank < second.rank)
    (room : TargetRoom caps ranked (preferredRank fastestRank slowestRank candidate) candidate.size) :
    ∃ target ∈ ranked, preferredRank fastestRank slowestRank candidate ≤ target.rank ∧
      RoomAt caps target.rank candidate.size ∧
      (admitCandidate ranked fastestRank slowestRank caps candidate).1 = target.rank := by
  obtain ⟨somewhere, member, eligible, capacity, known, fits⟩ := room
  obtain ⟨admitted, scanned, _⟩ := target_scan_le range increasing member eligible ⟨capacity, known, fits⟩
  obtain ⟨target, listed, took⟩ := exists_of_findSome?_eq_some scanned
  obtain ⟨same, there, found, reached, here, _⟩ := admitAtCap_eq_some took
  have exactly := (range target.rank there found).addInt64_eq
    (not_le.mp ((passes_of_overflows range scanned (same ▸ found) small).not.mp within))
  refine ⟨target, listed, reached, ⟨there, found, exactly.symm.trans_le here⟩, ?_⟩
  unfold admitCandidate admitWithFallbackOrder
  rw [scanned]
  exact same

end Room

section Priority

variable {ranked : List RankedPoolTarget} {fastestRank slowestRank : Int} {cands : List Candidate} {caps : Capacities}
  {order : List Nat}

theorem preferredRank_of_unpinned {candidate : Candidate} (free : candidate.pin = pinNone) :
    preferredRank fastestRank slowestRank candidate = fastestRank := by
  unfold preferredRank
  rw [if_neg]
  rw [free]
  decide

theorem scheduled_before
    (sorted : SortedSlice cands
      (unpinned cands (assignAllPinned ranked fastestRank slowestRank cands caps).assigned) order)
    {hot cold : Nat} {first second : Candidate} (hotListed : cands[hot]? = some first)
    (coldListed : cands[cold]? = some second) (hotFree : first.pin = pinNone) (coldFree : second.pin = pinNone)
    (prior : hotterOrSmaller first second = true) {before after : List Nat}
    (scheduled : schedule cands order = before ++ cold :: after) : hot ∈ before := by
  have hotMember : hot ∈ order := (mem_order sorted).mpr ⟨first, hotListed, hotFree⟩
  have coldNotPinned : cold ∉ indicesOf Candidate.pinned cands := by
    intro forced
    obtain ⟨found, again, pinned⟩ := mem_indicesOf.mp forced
    cases coldListed.symm.trans again
    revert pinned
    rw [Candidate.pinned, coldFree]
    decide
  have splits : ∃ middle, before = indicesOf Candidate.pinned cands ++ middle ∧ order = middle ++ cold :: after := by
    rcases append_eq_append_iff.mp
      (show indicesOf Candidate.pinned cands ++ order = before ++ cold :: after from scheduled)
      with ⟨middle, front, back⟩ | ⟨middle, front, back⟩
    · exact ⟨middle, front, back⟩
    · cases middle with
      | nil =>
        refine ⟨[], ?_, ?_⟩
        · rw [front, append_nil, append_nil]
        · exact back.symm
      | cons head rest =>
        obtain ⟨rfl, _⟩ := List.cons.inj back
        exact absurd (by rw [front]; simp) coldNotPinned
  obtain ⟨middle, front, back⟩ := splits
  have different : hot ≠ cold := by
    rintro rfl
    cases hotListed.symm.trans coldListed
    simp [hotterOrSmaller] at prior
  have hotMember : hot ∈ middle ++ cold :: after := back ▸ hotMember
  rcases mem_append.mp hotMember with early | late
  · rw [front]
    exact mem_append_right _ early
  · rcases mem_cons.mp late with same | late
    · exact absurd same different
    · have wrong := sorted.sorted
      rw [back] at wrong
      have refused := (pairwise_cons.mp (pairwise_append.mp wrong).2.1).1 hot late second first
        coldListed hotListed
      rw [prior] at refused
      cases refused

/-- A colder or larger file that is placed under a target cap is not placed above a hotter and
smaller one, if no admission overflows. -/
theorem hotter_file_not_slower {ranked : List RankedPoolTarget} {fastestRank slowestRank : Int} {cands : List Candidate}
    {caps : Capacities} {order : List Nat} (range : caps.InRange)
    (sizes : ∀ candidate ∈ cands, candidate.size < 2 ^ 63)
    (increasing : ranked.Pairwise fun first second => first.rank < second.rank)
    (sorted : SortedSlice cands
      (unpinned cands (assignAllPinned ranked fastestRank slowestRank cands caps).assigned) order)
    {hot cold : Nat} {first second : Candidate} (hotListed : cands[hot]? = some first)
    (coldListed : cands[cold]? = some second) (hotFree : first.pin = pinNone) (coldFree : second.pin = pinNone)
    (prior : hotterOrSmaller first second = true) (smaller : first.size ≤ second.size) {before after : List Nat}
    (scheduled : schedule cands order = before ++ cold :: after)
    (within : Guarded (fill ranked fastestRank slowestRank) (NoOverflow ranked fastestRank slowestRank) caps
      ((schedule cands order).filterMap (cands[·]?)))
    (room : TargetRoom (run (fill ranked fastestRank slowestRank) caps (before.filterMap (cands[·]?)))
      ranked fastestRank
      second.size) :
    let result := assignCandidateRanks ranked fastestRank slowestRank cands caps order
    ∃ hotRank coldRank, result.assignments[hot]? = some hotRank ∧ result.assignments[cold]? = some coldRank ∧
      hotRank ≤ coldRank := by
  have earlier := scheduled_before sorted hotListed coldListed hotFree coldFree prior scheduled
  obtain ⟨start, middle, rfl⟩ := append_of_mem earlier
  have hotScheduled : schedule cands order = start ++ hot :: (middle ++ cold :: after) := by
    rw [scheduled, append_assoc, cons_append]
  have hotGiven := (assigned_rank sorted hotScheduled hotListed).2
  have coldGiven := (assigned_rank sorted scheduled coldListed).2
  refine ⟨_, _, hotGiven, coldGiven, ?_⟩
  have preferred : preferredRank fastestRank slowestRank second = fastestRank := preferredRank_of_unpinned coldFree
  have room : TargetRoom
    (run (fill ranked fastestRank slowestRank) caps ((start ++ hot :: middle).filterMap (cands[·]?)))
      ranked (preferredRank fastestRank slowestRank second) second.size := by
    rw [preferred]
    exact room
  rw [scheduled, filterMap_append, filterMap_cons_some coldListed] at within
  have small := sizes second (mem_of_getElem? coldListed)
  obtain ⟨target, member, eligible, roomAt, same⟩ :=
    admitCandidate_of_targetRoom (run_fill_inRange range _) small within.at_split increasing room
  rw [preferred] at eligible
  rw [same]
  have roomBefore : RoomAt (run (fill ranked fastestRank slowestRank) caps (start.filterMap (cands[·]?))) target.rank
      first.size := by
    have until_cold := within.before
    rw [filterMap_append] at until_cold
    rw [filterMap_append, run_append] at roomAt
    exact roomAt.earlier (run_fill_inRange range _) sizes until_cold.later (Int.ofNat_le.mpr smaller)
  refine admitCandidate_le_of_room (run_fill_inRange range _) increasing member ?_ roomBefore
  rwa [preferredRank_of_unpinned hotFree]

def tightTiers : Capacities
  | 1 => some ⟨100, 50, 50, 95⟩
  | 2 => some ⟨100, 30, 50, 50⟩
  | _ => none

/-- Two files of 20 bytes, the first one hotter. -/
def hotAndCold : List Candidate := [⟨"hot", 20, 2, pinNone, 9⟩, ⟨"cold", 20, 2, pinNone, 1⟩]

theorem hotAndCold_sorted (caps : Capacities) (unpinnedIndices : unpinned hotAndCold
    (assignAllPinned twoRanked 1 2 hotAndCold caps).assigned = [0, 1]) :
    SortedSlice hotAndCold (unpinned hotAndCold (assignAllPinned twoRanked 1 2 hotAndCold caps).assigned) [0, 1] := by
  refine ⟨unpinnedIndices ▸ List.Perm.refl _, pairwise_pair.mpr fun first second listed nextListed => ?_⟩
  cases listed
  cases nextListed
  decide

theorem hot_file_above_cold :
    ∃ hotRank coldRank,
      (assignCandidateRanks twoRanked 1 2 hotAndCold emptyTiers [0, 1]).assignments[0]? = some hotRank ∧
      (assignCandidateRanks twoRanked 1 2 hotAndCold emptyTiers [0, 1]).assignments[1]? = some coldRank ∧
      hotRank ≤ coldRank := by
  have increasing : twoRanked.Pairwise fun first second => first.rank < second.rank := by decide
  have scheduled : schedule hotAndCold [0, 1] = [0] ++ 1 :: [] := by decide
  exact hotter_file_not_slower emptyTiers_inRange (by decide) increasing (hotAndCold_sorted emptyTiers (by decide))
    rfl rfl rfl rfl (by decide) (by decide) scheduled (by decide) (by decide)

/-- The hot file takes the last room under a target cap, on the slow tier; the cold one of the same
size falls back to the hard cap of the fast tier. With no room at all it would be given the fast
tier as well. -/
theorem cold_file_above_hot :
    SortedSlice hotAndCold (unpinned hotAndCold (assignAllPinned twoRanked 1 2 hotAndCold tightTiers).assigned) [0, 1] ∧
    hotterOrSmaller ⟨"hot", 20, 2, pinNone, 9⟩ ⟨"cold", 20, 2, pinNone, 1⟩ = true ∧
    (assignCandidateRanks twoRanked 1 2 hotAndCold tightTiers [0, 1]).assignments = [2, 1] :=
  ⟨hotAndCold_sorted tightTiers (by decide), by decide, by decide⟩

end Priority

end Tierd.Placement
