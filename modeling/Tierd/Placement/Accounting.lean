import Tierd.Placement.Admission

namespace Tierd.Placement

open Tierd.Data Tierd.Meta List

inductive ScanPass where
  | target
  | full
deriving DecidableEq, Repr

def ScanPass.ceiling : ScanPass → TierCapacity → Int
  | target => TierCapacity.targetCap
  | full => TierCapacity.fullCap

/-- Which scan admitted which file to which tier. -/
structure LoggedAdmission where
  idx : Nat
  rank : Int
  pass : ScanPass
deriving DecidableEq, Repr

section Log

variable (ranked : List RankedPoolTarget) (fastestRank slowestRank : Int)

def admittingTier (caps : Capacities) (candidate : Candidate) : Option (Int × ScanPass) :=
  match ranked.findSome? fun target => admitAtCap TierCapacity.admissionCap caps target
      (preferredRank fastestRank slowestRank candidate) candidate.size with
  | some admitted => some (admitted.1, .target)
  | none =>
    match ((fallbackOrder candidate).arrange ranked).findSome? fun target => admitAtFullCap caps target
        (preferredRank fastestRank slowestRank candidate) candidate.size with
    | some admitted => some (admitted.1, .full)
    | none => none

/-- The admissions of a schedule, in order. -/
def admissions (cands : List Candidate) : Capacities → List Nat → List LoggedAdmission
  | _, [] => []
  | caps, idx :: rest =>
    match cands[idx]? with
    | none => admissions cands caps rest
    | some candidate =>
      let later := admissions cands (fill ranked fastestRank slowestRank caps candidate) rest
      match admittingTier ranked fastestRank slowestRank caps candidate with
      | some (rank, pass) => ⟨idx, rank, pass⟩ :: later
      | none => later

end Log

/-- The scan for room under a target cap meets a tier on which the sum passes the range of `int64`
before it meets one with room. -/
def Overflows (caps : Capacities) (preferredRank size : Int) : List RankedPoolTarget → Prop
  | [] => False
  | target :: slower =>
    (preferredRank ≤ target.rank ∧ Passes caps size target) ∨
    ((preferredRank ≤ target.rank → ∀ capacity ∈ caps target.rank, capacity.targetCap < capacity.usedBytes + size) ∧
      Overflows caps preferredRank size slower)

instance Overflows.decidable (caps : Capacities) (preferredRank size : Int) :
    ∀ ranked : List RankedPoolTarget, Decidable (Overflows caps preferredRank size ranked)
  | [] => isFalse id
  | target :: slower =>
    have := Overflows.decidable caps preferredRank size slower
    inferInstanceAs (Decidable ((preferredRank ≤ target.rank ∧ Passes caps size target) ∨
      ((preferredRank ≤ target.rank → ∀ capacity ∈ caps target.rank,
        capacity.targetCap < capacity.usedBytes + size) ∧ Overflows caps preferredRank size slower)))

/-- No sum passes the range of `int64` when `candidate` is admitted. -/
def NoOverflow (ranked : List RankedPoolTarget) (fastestRank slowestRank : Int) (caps : Capacities)
    (candidate : Candidate) : Prop :=
  ¬ Overflows caps (preferredRank fastestRank slowestRank candidate) candidate.size ranked
deriving Decidable

def sizeAt (cands : List Candidate) (idx : Nat) : Int := (cands[idx]?).elim 0 fun candidate => candidate.size

def received (cands : List Candidate) (log : List LoggedAdmission) (rank : Int) : Int :=
  ((log.filter fun entry => entry.rank = rank).map fun entry => sizeAt cands entry.idx).sum

/-- The table with what each tier has received. -/
def Capacities.plus (caps : Capacities) (amount : Int → Int) : Capacities :=
  fun rank => (caps rank).map fun capacity => { capacity with usedBytes := capacity.usedBytes + amount rank }

/-- `plus` in the arithmetic of `int64`. -/
def Capacities.plusInt64 (caps : Capacities) (amount : Int → Int) : Capacities :=
  fun rank => (caps rank).map fun capacity => { capacity with usedBytes := addInt64 capacity.usedBytes (amount rank) }

@[simp] theorem received_nil (cands : List Candidate) (rank : Int) : received cands [] rank = 0 := rfl

@[simp] theorem received_cons (cands : List Candidate) (entry : LoggedAdmission) (rest : List LoggedAdmission)
    (rank : Int) : received cands (entry :: rest) rank =
      (if entry.rank = rank then sizeAt cands entry.idx else 0) + received cands rest rank := by
  by_cases here : entry.rank = rank <;> simp [received, here]

theorem sizeAt_of_listed {cands : List Candidate} {idx : Nat} {candidate : Candidate}
    (listed : cands[idx]? = some candidate) : sizeAt cands idx = candidate.size := by
  simp [sizeAt, listed]

section Step

variable {ranked : List RankedPoolTarget} {fastestRank slowestRank : Int}

structure Admits (caps : Capacities) (candidate : Candidate) (preferred rank : Int) (pass : ScanPass)
    (answer : Int × Capacities) (capacity : TierCapacity) : Prop where
  known : caps rank = some capacity
  eligible : preferred ≤ rank
  room : addInt64 capacity.usedBytes candidate.size ≤ pass.ceiling capacity
  result : answer = (rank,
    Function.update caps rank (some { capacity with usedBytes := addInt64 capacity.usedBytes candidate.size }))

variable {candidate : Candidate}

theorem admitCandidate_of_tier {caps : Capacities} {rank : Int} {pass : ScanPass}
    (taken : admittingTier ranked fastestRank slowestRank caps candidate = some (rank, pass)) :
    ∃ capacity, Admits caps candidate (preferredRank fastestRank slowestRank candidate) rank pass
      (admitCandidate ranked fastestRank slowestRank caps candidate) capacity := by
  unfold admittingTier at taken
  split at taken
  case h_1 admitted scanned =>
    cases taken
    obtain ⟨target, _, took⟩ := exists_of_findSome?_eq_some scanned
    obtain ⟨same, capacity, known, eligible, room, charged⟩ := admitAtCap_eq_some took
    rw [← same] at known eligible charged
    rw [admitCandidate, admitWithFallbackOrder, scanned]
    exact ⟨capacity, known, eligible, room, Prod.ext rfl charged⟩
  case h_2 refused =>
    split at taken
    case h_1 admitted scanned =>
      cases taken
      obtain ⟨target, _, took⟩ := exists_of_findSome?_eq_some scanned
      obtain ⟨same, capacity, known, eligible, room, charged⟩ := admitAtCap_eq_some took
      rw [← same] at known eligible charged
      rw [admitCandidate, admitWithFallbackOrder, refused]
      dsimp only
      rw [scanned]
      exact ⟨capacity, known, eligible, room, Prod.ext rfl charged⟩
    case h_2 => cases taken

theorem Admits.filled {caps : Capacities} {preferred rank : Int} {pass : ScanPass}
    {capacity : TierCapacity}
    (admits : Admits caps candidate preferred rank pass (admitCandidate ranked fastestRank slowestRank caps candidate)
      capacity) :
    fill ranked fastestRank slowestRank caps candidate =
      Function.update caps rank (some { capacity with usedBytes := addInt64 capacity.usedBytes candidate.size }) :=
  congrArg Prod.snd admits.result

theorem admitCandidate_of_none {caps : Capacities}
    (refused : admittingTier ranked fastestRank slowestRank caps candidate = none) :
    admitCandidate ranked fastestRank slowestRank caps candidate =
      (preferredRank fastestRank slowestRank candidate, caps) := by
  unfold admittingTier at refused
  split at refused
  case h_1 => cases refused
  case h_2 first =>
    split at refused
    case h_1 => cases refused
    case h_2 second =>
      rw [admitCandidate, admitWithFallbackOrder, first]
      dsimp only
      rw [second]

/-- Only the usage of a tier ever changes. -/
theorem fill_ceilings {caps : Capacities} {rank : Int} {capacity : TierCapacity}
    (filled : fill ranked fastestRank slowestRank caps candidate rank = some capacity) :
    ∃ before, caps rank = some before ∧ capacity = { before with usedBytes := capacity.usedBytes } := by
  cases taken : admittingTier ranked fastestRank slowestRank caps candidate with
  | none =>
    rw [fill, admitCandidate_of_none taken] at filled
    exact ⟨capacity, filled, rfl⟩
  | some place =>
    obtain ⟨before, admits⟩ := admitCandidate_of_tier taken
    rw [admits.filled] at filled
    by_cases here : rank = place.1
    · rw [here, Function.update_self] at filled
      cases filled
      exact ⟨before, here ▸ admits.known, rfl⟩
    · rw [Function.update_of_ne here] at filled
      exact ⟨capacity, filled, rfl⟩

section Overflow

variable {caps : Capacities} {preferred : Int} {size : Nat} (range : caps.InRange)

include range

theorem passes_of_overflows {tiers : List RankedPoolTarget} {admitted : Int × Capacities}
    (scanned : tiers.findSome? (fun target => admitAtCap TierCapacity.admissionCap caps target preferred size) =
      some admitted) {capacity : TierCapacity} (known : caps admitted.1 = some capacity) (small : size < 2 ^ 63) :
    Overflows caps preferred size tiers ↔ 2 ^ 63 ≤ capacity.usedBytes + size := by
  induction tiers with
  | nil => cases scanned
  | cons target slower ih =>
    rw [List.findSome?_cons] at scanned
    unfold Overflows
    cases took : admitAtCap TierCapacity.admissionCap caps target preferred size with
    | some first =>
      rw [took] at scanned
      cases scanned
      obtain ⟨same, found, there, eligible, room, _⟩ := admitAtCap_eq_some took
      cases (same ▸ known).symm.trans there
      by_cases beyond : 2 ^ 63 ≤ capacity.usedBytes + size
      · exact iff_of_true (.inl ⟨eligible, capacity, there, beyond⟩) beyond
      · rw [(range target.rank capacity there).addInt64_eq (not_le.mp beyond)] at room
        refine iff_of_false ?_ beyond
        rintro (⟨_, other, otherKnown, passes⟩ | ⟨full, _⟩)
        · cases there.symm.trans otherKnown
          exact beyond passes
        · exact absurd room (not_le.mpr (full eligible capacity there))
    | none =>
      rw [took] at scanned
      have within : ¬ (preferred ≤ target.rank ∧ Passes caps size target) := by
        rintro ⟨eligible, passes⟩
        obtain ⟨first, accepted⟩ := admitAtCap_of_passes range small eligible passes
        rw [took] at accepted
        cases accepted
      have full : preferred ≤ target.rank → ∀ capacity ∈ caps target.rank,
          capacity.targetCap < capacity.usedBytes + size := by
        intro eligible other there
        have fits : other.usedBytes + size < 2 ^ 63 :=
          not_le.mp fun beyond => within ⟨eligible, other, there, beyond⟩
        have beyond := admitAtCap_eq_none_iff.mp took eligible other there
        rwa [(range target.rank other there).addInt64_eq fits] at beyond
      rw [← ih scanned]
      exact ⟨fun overflow => (overflow.resolve_left within).2, fun later => .inr ⟨full, later⟩⟩

theorem within_of_refused {tiers : List RankedPoolTarget} (small : size < 2 ^ 63)
    (refused : tiers.findSome? (fun target => admitAtCap TierCapacity.admissionCap caps target preferred size) = none) :
    ¬ Overflows caps preferred size tiers ∧
      ∀ target ∈ tiers, preferred ≤ target.rank → ¬ Passes caps size target := by
  have within : ∀ target ∈ tiers, preferred ≤ target.rank → ¬ Passes caps size target := by
    intro target member eligible passes
    obtain ⟨admitted, accepted⟩ := admitAtCap_of_passes range small eligible passes
    rw [List.findSome?_eq_none_iff.mp refused target member] at accepted
    cases accepted
  refine ⟨?_, within⟩
  clear refused
  induction tiers with
  | nil => exact id
  | cons target slower ih =>
    rintro (⟨eligible, passes⟩ | ⟨_, later⟩)
    · exact within target mem_cons_self eligible passes
    · exact ih (fun other member => within other (mem_cons_of_mem _ member)) later

end Overflow

/-- An admission overflows exactly when the sum on the admitting tier does. -/
theorem overflows_iff_of_tier {caps : Capacities} {candidate : Candidate} {rank : Int} {pass : ScanPass}
    {capacity : TierCapacity} (range : caps.InRange) (small : candidate.size < 2 ^ 63)
    (taken : admittingTier ranked fastestRank slowestRank caps candidate = some (rank, pass))
    (known : caps rank = some capacity) :
    Overflows caps (preferredRank fastestRank slowestRank candidate) candidate.size ranked ↔
      2 ^ 63 ≤ capacity.usedBytes + candidate.size := by
  unfold admittingTier at taken
  split at taken
  case h_1 admitted scanned =>
    cases taken
    exact passes_of_overflows range scanned known small
  case h_2 refused =>
    obtain ⟨none_overflows, within⟩ := within_of_refused range small refused
    split at taken
    case h_1 admitted scanned =>
      cases taken
      obtain ⟨target, member, took⟩ := exists_of_findSome?_eq_some scanned
      obtain ⟨same, _, _, eligible, _⟩ := admitAtCap_eq_some took
      have listed := (fallbackOrder candidate).mem_arrange.mp member
      exact iff_of_false none_overflows fun beyond => within target listed eligible ⟨capacity, same ▸ known, beyond⟩
    case h_2 => cases taken

theorem not_overflows_of_none {caps : Capacities} {candidate : Candidate} (range : caps.InRange)
    (small : candidate.size < 2 ^ 63) (refused : admittingTier ranked fastestRank slowestRank caps candidate = none) :
    ¬ Overflows caps (preferredRank fastestRank slowestRank candidate) candidate.size ranked := by
  unfold admittingTier at refused
  split at refused
  case h_1 => cases refused
  case h_2 first => exact (within_of_refused range small first).1

end Step

section Schedule

variable {ranked : List RankedPoolTarget} {fastestRank slowestRank : Int} {cands : List Candidate}

theorem admissions_unlisted {caps : Capacities} {idx : Nat} {rest : List Nat} (absent : cands[idx]? = none) :
    admissions ranked fastestRank slowestRank cands caps (idx :: rest) =
      admissions ranked fastestRank slowestRank cands caps rest := by
  simp only [admissions, absent]

section Listed

variable {caps : Capacities} {idx : Nat} {rest : List Nat} {candidate : Candidate}
  (listed : cands[idx]? = some candidate)

include listed

theorem admissions_refused (refused : admittingTier ranked fastestRank slowestRank caps candidate = none) :
    admissions ranked fastestRank slowestRank cands caps (idx :: rest) =
      admissions ranked fastestRank slowestRank cands (fill ranked fastestRank slowestRank caps candidate) rest := by
  simp only [admissions, listed, refused]

theorem admissions_taken {place : Int × ScanPass}
    (taken : admittingTier ranked fastestRank slowestRank caps candidate = some place) :
    admissions ranked fastestRank slowestRank cands caps (idx :: rest) = ⟨idx, place.1, place.2⟩ ::
      admissions ranked fastestRank slowestRank cands (fill ranked fastestRank slowestRank caps candidate) rest := by
  simp only [admissions, listed, taken]

theorem mem_admissions_cons {entry : LoggedAdmission}
    (logged : entry ∈ admissions ranked fastestRank slowestRank cands caps (idx :: rest)) :
    (∃ place, admittingTier ranked fastestRank slowestRank caps candidate = some place ∧
      entry = ⟨idx, place.1, place.2⟩) ∨
    entry ∈ admissions ranked fastestRank slowestRank cands
      (fill ranked fastestRank slowestRank caps candidate) rest := by
  cases taken : admittingTier ranked fastestRank slowestRank caps candidate with
  | none =>
    rw [admissions_refused listed taken] at logged
    exact .inr logged
  | some place =>
    rw [admissions_taken listed taken] at logged
    rcases mem_cons.mp logged with same | later
    · exact .inl ⟨place, rfl, same⟩
    · exact .inr later

theorem admissions_later {entry : LoggedAdmission}
    (later : entry ∈ admissions ranked fastestRank slowestRank cands
      (fill ranked fastestRank slowestRank caps candidate) rest) :
    entry ∈ admissions ranked fastestRank slowestRank cands caps (idx :: rest) := by
  cases taken : admittingTier ranked fastestRank slowestRank caps candidate with
  | none =>
    rw [admissions_refused listed taken]
    exact later
  | some place =>
    rw [admissions_taken listed taken]
    exact mem_cons_of_mem _ later

end Listed

theorem admissions_append (caps : Capacities) (first second : List Nat) :
    admissions ranked fastestRank slowestRank cands caps (first ++ second) =
      admissions ranked fastestRank slowestRank cands caps first ++
        admissions ranked fastestRank slowestRank cands
          (run (fill ranked fastestRank slowestRank) caps (first.filterMap (cands[·]?))) second := by
  induction first generalizing caps with
  | nil => rfl
  | cons idx rest ih =>
    cases listed : cands[idx]? with
    | none => rw [cons_append, admissions_unlisted listed, admissions_unlisted listed, ih,
      filterMap_cons_none listed]
    | some candidate =>
      rw [cons_append, filterMap_cons_some listed, run_cons]
      cases taken : admittingTier ranked fastestRank slowestRank caps candidate with
      | none => rw [admissions_refused listed taken, admissions_refused listed taken, ih]
      | some place => rw [admissions_taken listed taken, admissions_taken listed taken, ih, cons_append]

variable {caps : Capacities}

theorem mem_admissions {indices : List Nat} {entry : LoggedAdmission}
    (logged : entry ∈ admissions ranked fastestRank slowestRank cands caps indices) :
    ∃ before after candidate, indices = before ++ entry.idx :: after ∧ cands[entry.idx]? = some candidate ∧
      admittingTier ranked fastestRank slowestRank
        (run (fill ranked fastestRank slowestRank) caps (before.filterMap (cands[·]?))) candidate =
          some (entry.rank, entry.pass) := by
  induction indices generalizing caps with
  | nil => cases logged
  | cons idx rest ih =>
    cases listed : cands[idx]? with
    | none =>
      rw [admissions_unlisted listed] at logged
      obtain ⟨before, after, candidate, rfl, found, taken⟩ := ih logged
      refine ⟨idx :: before, after, candidate, rfl, found, ?_⟩
      rwa [filterMap_cons_none listed]
    | some candidate =>
      rcases mem_admissions_cons listed logged with ⟨place, taken, rfl⟩ | later
      · exact ⟨[], rest, candidate, rfl, listed, taken⟩
      · obtain ⟨before, after, found, rfl, foundListed, taken⟩ := ih later
        refine ⟨idx :: before, after, found, rfl, foundListed, ?_⟩
        rwa [filterMap_cons_some listed, run_cons]

theorem admissions_idx_sublist (caps : Capacities) (indices : List Nat) :
    ((admissions ranked fastestRank slowestRank cands caps indices).map (·.idx)).Sublist indices := by
  induction indices generalizing caps with
  | nil => exact List.Sublist.refl []
  | cons idx rest ih =>
    cases listed : cands[idx]? with
    | none =>
      rw [admissions_unlisted listed]
      exact (ih caps).cons idx
    | some candidate =>
      cases taken : admittingTier ranked fastestRank slowestRank caps candidate with
      | none =>
        rw [admissions_refused listed taken]
        exact (ih _).cons idx
      | some place =>
        rw [admissions_taken listed taken]
        exact (ih _).cons_cons idx

theorem run_fill_eq_received (range : caps.InRange) (indices : List Nat) :
    run (fill ranked fastestRank slowestRank) caps (indices.filterMap (cands[·]?)) =
      caps.plusInt64 (received cands (admissions ranked fastestRank slowestRank cands caps indices)) := by
  induction indices generalizing caps with
  | nil =>
    funext rank
    cases known : caps rank with
    | none => simp [Capacities.plusInt64, known]
    | some capacity =>
      have low := (range rank capacity known).used_low
      have high := (range rank capacity known).used_high
      have same : addInt64 capacity.usedBytes 0 = capacity.usedBytes + 0 := addInt64_eq_add (by omega) (by omega)
      simp [Capacities.plusInt64, admissions, known, same]
  | cons idx rest ih =>
    cases listed : cands[idx]? with
    | none => rw [filterMap_cons_none listed, admissions_unlisted listed, ih range]
    | some candidate =>
      rw [filterMap_cons_some listed, run_cons, ih (fill_inRange range)]
      cases taken : admittingTier ranked fastestRank slowestRank caps candidate with
      | none => rw [admissions_refused listed taken, fill, admitCandidate_of_none taken]
      | some place =>
        obtain ⟨capacity, admits⟩ := admitCandidate_of_tier taken
        rw [admissions_taken listed taken, admits.filled]
        funext rank
        simp only [Capacities.plusInt64, received_cons, sizeAt_of_listed listed]
        by_cases here : place.1 = rank
        · subst here
          simp [admits.known, addInt64_addInt64]
        · simp [here, Function.update_of_ne (Ne.symm here)]

theorem received_within {limit : TierCapacity → Int}
    (fixed : ∀ capacity used, limit { capacity with usedBytes := used } = limit capacity)
    (range : caps.InRange) {indices : List Nat} {rank : Int}
    (bounded : ∀ entry ∈ admissions ranked fastestRank slowestRank cands caps indices, entry.rank = rank →
      ∀ capacity ∈ caps rank, entry.pass.ceiling capacity ≤ limit capacity)
    (some_received : ∃ entry ∈ admissions ranked fastestRank slowestRank cands caps indices, entry.rank = rank) :
    ∃ capacity ∈ run (fill ranked fastestRank slowestRank) caps (indices.filterMap (cands[·]?)) rank,
      capacity.usedBytes ≤ limit capacity := by
  induction indices generalizing caps with
  | nil =>
    obtain ⟨entry, logged, _⟩ := some_received
    cases logged
  | cons idx rest ih =>
    cases listed : cands[idx]? with
    | none =>
      rw [admissions_unlisted listed] at bounded some_received
      rw [filterMap_cons_none listed]
      exact ih range bounded some_received
    | some candidate =>
      rw [filterMap_cons_some listed, run_cons]
      by_cases later : ∃ entry ∈ admissions ranked fastestRank slowestRank cands
          (fill ranked fastestRank slowestRank caps candidate) rest, entry.rank = rank
      · refine ih (fill_inRange range) (fun entry logged there capacity filled => ?_) later
        obtain ⟨before, known, same⟩ := fill_ceilings filled
        have kept := bounded entry (admissions_later listed logged) there before known
        rw [same, fixed]
        cases pass : entry.pass <;> rw [pass] at kept <;> exact kept
      · obtain ⟨entry, logged, there⟩ := some_received
        rcases mem_admissions_cons listed logged with ⟨place, taken, rfl⟩ | after
        · obtain ⟨capacity, admits⟩ := admitCandidate_of_tier taken
          have kept := bounded _ logged there capacity (there ▸ admits.known)
          have nothing : received cands (admissions ranked fastestRank slowestRank cands
              (fill ranked fastestRank slowestRank caps candidate) rest) rank = 0 := by
            have none_there : (admissions ranked fastestRank slowestRank cands
                (fill ranked fastestRank slowestRank caps candidate) rest).filter
                  (fun entry => entry.rank = rank) = [] := by
              simpa [filter_eq_nil_iff] using later
            simp [received, none_there]
          have there : place.1 = rank := there
          rw [run_fill_eq_received (fill_inRange range), Capacities.plusInt64, nothing, admits.filled, there,
            Function.update_self]
          refine ⟨_, rfl, ?_⟩
          dsimp only
          rw [addInt64_addInt64, add_zero]
          exact (admits.room.trans kept).trans_eq (fixed _ _).symm
        · exact absurd ⟨entry, after, there⟩ later

theorem received_nonneg (cands : List Candidate) (log : List LoggedAdmission) (rank : Int) :
    0 ≤ received cands log rank := by
  refine sum_nonneg fun amount member => ?_
  obtain ⟨entry, _, rfl⟩ := mem_map.mp member
  unfold sizeAt
  cases cands[entry.idx]? with
  | none => exact le_refl 0
  | some candidate => exact Int.natCast_nonneg candidate.size

theorem charged_iff_received {candidate : Candidate} (entry : LoggedAdmission)
    {capacity : TierCapacity} {later : List LoggedAdmission} (range : caps.InRange)
    (listed : cands[entry.idx]? = some candidate) (known : caps entry.rank = some capacity) :
    (capacity.usedBytes + candidate.size < 2 ^ 63 ∧
      ∀ rank, ∀ other ∈ Function.update caps entry.rank
        (some { capacity with usedBytes := addInt64 capacity.usedBytes candidate.size }) rank,
        other.usedBytes + received cands later rank < 2 ^ 63) ↔
      ∀ rank, ∀ other ∈ caps rank, other.usedBytes + received cands (entry :: later) rank < 2 ^ 63 := by
  have exactly : capacity.usedBytes + candidate.size < 2 ^ 63 → addInt64 capacity.usedBytes candidate.size =
      capacity.usedBytes + candidate.size := (range entry.rank capacity known).addInt64_eq
  simp only [received_cons, sizeAt_of_listed listed]
  constructor
  · rintro ⟨fits, bounded⟩ rank other otherKnown
    have bound := bounded rank
    by_cases here : entry.rank = rank
    · subst here
      cases known.symm.trans otherKnown
      have bound := bound _ (Function.update_self ..)
      rw [exactly fits] at bound
      rwa [if_pos rfl, ← add_assoc]
    · rw [Function.update_of_ne (Ne.symm here)] at bound
      rw [if_neg here, zero_add]
      exact bound other otherKnown
  · intro bounded
    have here := bounded entry.rank capacity known
    rw [if_pos rfl, ← add_assoc] at here
    have fits : capacity.usedBytes + candidate.size < 2 ^ 63 := by
      have nonneg := received_nonneg cands later entry.rank
      omega
    refine ⟨fits, fun rank other otherKnown => ?_⟩
    by_cases same : entry.rank = rank
    · subst same
      rw [Function.update_self] at otherKnown
      cases otherKnown
      rw [exactly fits]
      exact here
    · rw [Function.update_of_ne (Ne.symm same)] at otherKnown
      have bound := bounded rank other otherKnown
      rwa [if_neg same, zero_add] at bound

theorem plusInt64_eq_plus_iff {amount : Int → Int} (range : caps.InRange)
    (nonneg : ∀ rank, 0 ≤ amount rank) :
    caps.plusInt64 amount = caps.plus amount ↔
      ∀ rank, ∀ capacity ∈ caps rank, capacity.usedBytes + amount rank < 2 ^ 63 := by
  constructor
  · intro same rank capacity known
    have known : caps rank = some capacity := known
    have charged := congrFun same rank
    simp only [Capacities.plusInt64, Capacities.plus, known, Option.map_some, Option.some.injEq,
      TierCapacity.mk.injEq] at charged
    rw [← charged.2.1]
    exact (addInt64_range _ _).2
  · intro bounded
    funext rank
    cases known : caps rank with
    | none => simp [Capacities.plusInt64, Capacities.plus, known]
    | some capacity =>
      have low := (range rank capacity known).used_low
      have positive := nonneg rank
      have charged := addInt64_eq_add (by omega) (bounded rank capacity known)
      simp [Capacities.plusInt64, Capacities.plus, known, charged]

/-- No admission of the run overflows exactly when the tiers can hold in an `int64` what they
receive. -/
theorem guarded_iff_received (sizes : ∀ candidate ∈ cands, candidate.size < 2 ^ 63)
    (range : caps.InRange) (indices : List Nat) :
    Guarded (fill ranked fastestRank slowestRank) (NoOverflow ranked fastestRank slowestRank) caps
        (indices.filterMap (cands[·]?)) ↔
      ∀ rank, ∀ capacity ∈ caps rank, capacity.usedBytes +
        received cands (admissions ranked fastestRank slowestRank cands caps indices) rank < 2 ^ 63 := by
  induction indices generalizing caps with
  | nil =>
    refine iff_of_true trivial fun rank capacity known => ?_
    have high := (range rank capacity known).used_high
    simpa [admissions] using high
  | cons idx rest ih =>
    cases listed : cands[idx]? with
    | none =>
      rw [filterMap_cons_none listed, admissions_unlisted listed]
      exact ih range
    | some candidate =>
      have small := sizes candidate (mem_of_getElem? listed)
      rw [filterMap_cons_some listed]
      refine (and_congr_right' (ih (fill_inRange range))).trans ?_
      cases taken : admittingTier ranked fastestRank slowestRank caps candidate with
      | none =>
        rw [admissions_refused listed taken, fill, admitCandidate_of_none taken]
        exact and_iff_right (not_overflows_of_none range small taken)
      | some place =>
        obtain ⟨capacity, admits⟩ := admitCandidate_of_tier taken
        rw [admissions_taken listed taken]
        rw [NoOverflow, overflows_iff_of_tier range small taken admits.known, not_le, admits.filled]
        exact charged_iff_received ⟨idx, place.1, place.2⟩ range listed admits.known

end Schedule

section Whole

variable {ranked : List RankedPoolTarget} {fastestRank slowestRank : Int} {cands : List Candidate} {caps : Capacities}
  {order : List Nat}

/-- The log of `assignCandidateRanks`. -/
def admissionLog (ranked : List RankedPoolTarget) (fastestRank slowestRank : Int) (cands : List Candidate)
    (caps : Capacities) (order : List Nat) : List LoggedAdmission :=
  admissions ranked fastestRank slowestRank cands caps (schedule cands order)

variable (sorted : SortedSlice cands
  (unpinned cands (assignAllPinned ranked fastestRank slowestRank cands caps).assigned) order)

include sorted

theorem assignCandidateRanks_caps :
    (assignCandidateRanks ranked fastestRank slowestRank cands caps order).caps =
      run (fill ranked fastestRank slowestRank) caps ((schedule cands order).filterMap (cands[·]?)) := by
  rw [assignCandidateRanks_eq_run sorted, run_assignIndex_caps]
  rfl

theorem logged_once : ((admissionLog ranked fastestRank slowestRank cands caps order).map (·.idx)).Nodup :=
  (schedule_nodup sorted).sublist (admissions_idx_sublist caps (schedule cands order))

theorem logged_pinned_first :
    ∃ forced free, admissionLog ranked fastestRank slowestRank cands caps order = forced ++ free ∧
      (∀ entry ∈ forced, ∃ candidate, cands[entry.idx]? = some candidate ∧ candidate.pinned = true) ∧
      ∀ entry ∈ free, ∃ candidate, cands[entry.idx]? = some candidate ∧ candidate.pin = pinNone := by
  refine ⟨_, _, admissions_append caps (indicesOf Candidate.pinned cands) order, fun entry logged => ?_,
    fun entry logged => ?_⟩
  · have scheduled := (admissions_idx_sublist caps _).subset (mem_map_of_mem logged)
    exact mem_indicesOf.mp scheduled
  · have scheduled := (admissions_idx_sublist _ order).subset (mem_map_of_mem logged)
    exact (mem_order sorted).mp scheduled

theorem assigned_rank_logged {idx : Nat} {candidate : Candidate} (listed : cands[idx]? = some candidate)
    (scheduled : idx ∈ schedule cands order) :
    ∃ rank, (assignCandidateRanks ranked fastestRank slowestRank cands caps order).assignments[idx]? = some rank ∧
      preferredRank fastestRank slowestRank candidate ≤ rank ∧
      ((∃ entry ∈ admissionLog ranked fastestRank slowestRank cands caps order, entry.idx = idx ∧ entry.rank = rank) ∨
        (rank = preferredRank fastestRank slowestRank candidate ∧
          ∀ entry ∈ admissionLog ranked fastestRank slowestRank cands caps order, entry.idx ≠ idx)) := by
  obtain ⟨before, after, split⟩ := append_of_mem scheduled
  obtain ⟨_, given⟩ := assigned_rank sorted split listed
  have once := schedule_nodup sorted
  rw [split] at once
  have notAfter : idx ∉ after := (nodup_cons.mp (nodup_append.mp once).2.1).1
  have notBefore : idx ∉ before := fun earlier => (nodup_append.mp once).2.2 idx earlier idx mem_cons_self rfl
  cases taken : admittingTier ranked fastestRank slowestRank
      (run (fill ranked fastestRank slowestRank) caps (before.filterMap (cands[·]?))) candidate with
  | none =>
    rw [admitCandidate_of_none taken] at given
    refine ⟨_, given, le_refl _, .inr ⟨rfl, fun entry logged same => ?_⟩⟩
    obtain ⟨earlier, later, found, again, foundListed, took⟩ := mem_admissions logged
    rw [same, split] at again
    obtain ⟨rfl, _, _⟩ := (append_cons_inj_of_notMem notBefore notAfter).mp again
    rw [same] at foundListed
    cases listed.symm.trans foundListed
    rw [taken] at took
    cases took
  | some place =>
    obtain ⟨capacity, admits⟩ := admitCandidate_of_tier taken
    rw [admits.result] at given
    refine ⟨_, given, admits.eligible, .inl ⟨⟨idx, place.1, place.2⟩, ?_, rfl, rfl⟩⟩
    rw [admissionLog, split, admissions_append, admissions_taken listed taken]
    simp

omit sorted

/-- The table is charged exactly what the log admits, every tier keeps to the cap of the scans that
used it, and no file is admitted above its preferred rank, exactly when no admission overflows. -/
theorem capacity_accounting_iff {ranked : List RankedPoolTarget} {fastestRank slowestRank : Int}
    {cands : List Candidate}
    {caps : Capacities} {order : List Nat}
    (sorted : SortedSlice cands
      (unpinned cands (assignAllPinned ranked fastestRank slowestRank cands caps).assigned) order)
    (range : caps.InRange) (sizes : ∀ candidate ∈ cands, candidate.size < 2 ^ 63)
    (ordered : ∀ rank, ∀ capacity ∈ caps rank, capacity.targetCap ≤ capacity.fullCap) :
    (let result := assignCandidateRanks ranked fastestRank slowestRank cands caps order
     let log := admissionLog ranked fastestRank slowestRank cands caps order
     result.caps = caps.plus (received cands log) ∧
     (log.map (·.idx)).Nodup ∧
     (∃ forced free, log = forced ++ free ∧
       (∀ entry ∈ forced, ∃ candidate, cands[entry.idx]? = some candidate ∧ candidate.pinned = true) ∧
       ∀ entry ∈ free, ∃ candidate, cands[entry.idx]? = some candidate ∧ candidate.pin = pinNone) ∧
     (∀ rank, (∃ entry ∈ log, entry.rank = rank) →
       ∃ capacity ∈ result.caps rank, capacity.usedBytes ≤ capacity.fullCap) ∧
     (∀ rank, (∃ entry ∈ log, entry.rank = rank) → (∀ entry ∈ log, entry.rank = rank → entry.pass = .target) →
       ∃ capacity ∈ result.caps rank, capacity.usedBytes ≤ capacity.targetCap) ∧
     ∀ idx candidate, cands[idx]? = some candidate → idx ∈ schedule cands order →
       ∃ rank, result.assignments[idx]? = some rank ∧ preferredRank fastestRank slowestRank candidate ≤ rank ∧
         ((∃ entry ∈ log, entry.idx = idx ∧ entry.rank = rank) ∨
           (rank = preferredRank fastestRank slowestRank candidate ∧ ∀ entry ∈ log, entry.idx ≠ idx))) ↔
    Guarded (fill ranked fastestRank slowestRank) (NoOverflow ranked fastestRank slowestRank) caps
      ((schedule cands order).filterMap (cands[·]?)) := by
  have charged := assignCandidateRanks_caps sorted
  rw [guarded_iff_received sizes range, ← plusInt64_eq_plus_iff range fun rank => received_nonneg cands _ rank,
    ← run_fill_eq_received range]
  constructor
  · rintro ⟨exactly, _⟩
    rw [← charged]
    exact exactly
  · intro exactly
    refine ⟨charged.trans exactly, logged_once sorted, logged_pinned_first sorted, fun rank used => ?_,
      fun rank used onlyTarget => ?_, fun idx candidate listed scheduled =>
        assigned_rank_logged sorted listed scheduled⟩
    · rw [charged]
      refine received_within (fun _ _ => rfl) range (fun entry _ _ capacity known => ?_) used
      cases entry.pass with
      | target => exact ordered rank capacity known
      | full => exact le_refl _
    · rw [charged]
      refine received_within (fun _ _ => rfl) range (fun entry logged there capacity _ => ?_) used
      rw [onlyTarget entry logged there]
      exact le_refl _

def emptyTiers : Capacities
  | 1 => some ⟨100, 0, 50, 95⟩
  | 2 => some ⟨100, 0, 50, 95⟩
  | _ => none

theorem emptyTiers_inRange : emptyTiers.InRange := by
  intro rank capacity known
  unfold emptyTiers at known
  split at known <;> cases known <;> constructor <;> decide

def twoFiles : List Candidate := [plainFile 1, plainFile 2]

theorem two_files_accounted :
    let result := assignCandidateRanks twoRanked 1 2 twoFiles emptyTiers [0, 1]
    result.caps = emptyTiers.plus (received twoFiles (admissionLog twoRanked 1 2 twoFiles emptyTiers [0, 1])) ∧
      (∃ capacity ∈ result.caps 1, capacity.usedBytes ≤ capacity.fullCap) ∧
      (∃ capacity ∈ result.caps 1, capacity.usedBytes ≤ capacity.targetCap) ∧
      ∃ rank, result.assignments[1]? = some rank ∧ 1 ≤ rank := by
  have sorted : SortedSlice twoFiles
      (unpinned twoFiles (assignAllPinned twoRanked 1 2 twoFiles emptyTiers).assigned) [0, 1] := by
    refine ⟨by decide, pairwise_pair.mpr fun first second listed nextListed => ?_⟩
    cases listed
    cases nextListed
    decide
  have ordered : ∀ rank, ∀ capacity ∈ emptyTiers rank, capacity.targetCap ≤ capacity.fullCap := by
    intro rank capacity known
    unfold emptyTiers at known
    split at known <;> cases known <;> decide
  have used : ∃ entry ∈ admissionLog twoRanked 1 2 twoFiles emptyTiers [0, 1], entry.rank = 1 := by decide
  obtain ⟨charged, _, _, full, target, given⟩ :=
    (capacity_accounting_iff sorted emptyTiers_inRange (by decide) ordered).mpr (by decide)
  obtain ⟨rank, assigned, eligible, _⟩ := given 1 (plainFile 2) rfl (by decide)
  exact ⟨charged, full 1 used, target 1 used (by decide), rank, assigned, eligible⟩

def startedTiers : Capacities
  | 1 => some ⟨100, 10, 50, 95⟩
  | _ => none

/-- A sparse file of the largest size, as XFS allows it. -/
def hugeFile : Candidate := ⟨"sparse", 2 ^ 63 - 1, 1, pinNone, 0⟩

/-- The sum wraps to a negative number, so the tier takes the file and seems to have room for all
others. -/
theorem huge_file_admitted :
    let result := assignCandidateRanks [⟨1, 50, 95⟩] 1 1 [hugeFile] startedTiers [0]
    let log := admissionLog [⟨1, 50, 95⟩] 1 1 [hugeFile] startedTiers [0]
    unpinned [hugeFile] (assignAllPinned [⟨1, 50, 95⟩] 1 1 [hugeFile] startedTiers).assigned = [0] ∧
    log = [⟨0, 1, .target⟩] ∧ startedTiers.plus (received [hugeFile] log) 1 = some ⟨100, 2 ^ 63 + 9, 50, 95⟩ ∧
    result.caps 1 = some ⟨100, -2 ^ 63 + 9, 50, 95⟩ := by
  decide

end Whole

end Tierd.Placement
