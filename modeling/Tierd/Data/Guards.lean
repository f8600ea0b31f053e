import Mathlib

namespace Tierd.Data

open List

variable {ε α β : Type}

/-- A check that fails with `error`. -/
def ensure (condition : Prop) [Decidable condition] (error : ε) : Except ε Unit :=
  if condition then .ok () else .error error

variable {error : ε}

@[simp] theorem ensure_eq_ok {condition : Prop} [Decidable condition] {done : Unit} :
    ensure condition error = .ok done ↔ condition := by
  unfold ensure
  split <;> simp_all

theorem ensure_eq_error {condition : Prop} [Decidable condition] {other : ε} :
    ensure condition error = .error other ↔ ¬ condition ∧ error = other := by
  unfold ensure
  split <;> simp_all

/-- A check that is made only under a condition. -/
def checkWhen (condition : Prop) [Decidable condition] (check : Except ε Unit) : Except ε Unit :=
  if condition then check else .ok ()

@[simp] theorem checkWhen_eq_ok {condition : Prop} [Decidable condition] {check : Except ε Unit} {done : Unit} :
    checkWhen condition check = .ok done ↔ (condition → check = .ok ()) := by
  by_cases holds : condition <;> simp [checkWhen, holds]

@[simp] theorem bind_eq_ok {first : Except ε β} {rest : β → Except ε α} {result : α} :
    (first >>= rest) = .ok result ↔ ∃ value, first = .ok value ∧ rest value = .ok result := by
  cases first <;> simp [bind, Except.bind]

theorem bind_eq_error {first : Except ε β} {rest : β → Except ε α} :
    (first >>= rest) = .error error ↔ first = .error error ∨ ∃ value, first = .ok value ∧
      rest value = .error error := by
  cases first <;> simp [bind, Except.bind]

@[simp] theorem map_eq_ok {first : Except ε β} {wrap : β → α} {result : α} :
    (wrap <$> first) = .ok result ↔ ∃ value, first = .ok value ∧ wrap value = result := by
  cases first <;> simp [Functor.map, Except.map]

@[simp] theorem pure_eq_ok {value result : α} : (pure value : Except ε α) = .ok result ↔ value = result :=
  Except.ok.injEq value result ▸ Iff.rfl

@[simp] theorem mapError_eq_ok {δ : Type} {first : Except ε α} {wrap : ε → δ} {result : α} :
    first.mapError wrap = .ok result ↔ first = .ok result := by
  cases first <;> simp [Except.mapError]

theorem mapError_eq_error {δ : Type} {first : Except ε α} {wrap : ε → δ} {error : δ} :
    first.mapError wrap = .error error ↔ ∃ cause, first = .error cause ∧ wrap cause = error := by
  cases first <;> simp [Except.mapError]

/-- A value that has to be there. -/
def require (value : Option α) (error : ε) : Except ε α := value.elim (.error error) .ok

@[simp] theorem require_eq_ok {value : Option α} {result : α} :
    require value error = .ok result ↔ value = some result := by
  cases value <;> simp [require]

theorem require_eq_error {value : Option α} {other : ε} :
    require value error = .error other ↔ value = none ∧ error = other := by
  cases value <;> simp [require]

def checkAll (check : α → Except ε Unit) : List α → Except ε Unit
  | [] => .ok ()
  | item :: rest => do
      check item
      checkAll check rest

variable {items : List α}

@[simp] theorem checkAll_eq_ok {check : α → Except ε Unit} {done : Unit} :
    checkAll check items = .ok done ↔ ∀ item ∈ items, check item = .ok () := by
  induction items with
  | nil => simp [checkAll]
  | cons first rest ih =>
    simp only [checkAll, bind_eq_ok, ih, forall_mem_cons]
    constructor
    · rintro ⟨_, passed, others⟩
      exact ⟨passed, others⟩
    · rintro ⟨passed, others⟩
      exact ⟨(), passed, others⟩

theorem exists_item_of_checkAll_error {check : α → Except ε Unit}
    (failed : checkAll check items = .error error) : ∃ item ∈ items, check item = .error error := by
  induction items with
  | nil => cases failed
  | cons first rest ih =>
    rcases bind_eq_error.mp failed with here | ⟨_, _, later⟩
    · exact ⟨first, mem_cons_self, here⟩
    · obtain ⟨item, member, failedItem⟩ := ih later
      exact ⟨item, mem_cons_of_mem first member, failedItem⟩

theorem foldlM_eq_ok_iff {σ : Type} {step : σ → α → Except ε σ} {allowed : α → Prop} {next : σ → α → σ}
    (each : ∀ state item after, step state item = .ok after ↔ allowed item ∧ next state item = after)
    {start finish : σ} :
    items.foldlM step start = .ok finish ↔ (∀ item ∈ items, allowed item) ∧ items.foldl next start = finish := by
  induction items generalizing start with
  | nil => simp [pure, Except.pure]
  | cons item rest ih =>
    rw [foldlM_cons, bind_eq_ok, foldl_cons, forall_mem_cons]
    constructor
    · rintro ⟨between, first, others⟩
      obtain ⟨accepted, rfl⟩ := (each start item between).mp first
      obtain ⟨later, done⟩ := ih.mp others
      exact ⟨⟨accepted, later⟩, done⟩
    · rintro ⟨⟨accepted, later⟩, done⟩
      exact ⟨_, (each start item _).mpr ⟨accepted, rfl⟩, ih.mpr ⟨later, done⟩⟩

theorem foldlM_invariant {step : β → α → Except ε β} {invariant : β → Prop}
    (kept : ∀ state item next, invariant state → step state item = .ok next → invariant next)
    {start last : β} (initially : invariant start) (done : items.foldlM step start = .ok last) : invariant last := by
  induction items generalizing start with
  | nil => exact pure_eq_ok.mp done ▸ initially
  | cons first rest ih =>
    rw [foldlM_cons, bind_eq_ok] at done
    obtain ⟨middle, here, later⟩ := done
    exact ih (kept start first middle initially here) later

/-- A loop fails at one of its items. -/
theorem exists_item_of_foldlM_error {step : β → α → Except ε β} {start : β}
    (failed : items.foldlM step start = .error error) : ∃ state, ∃ item ∈ items, step state item = .error error := by
  induction items generalizing start with
  | nil => cases failed
  | cons first rest ih =>
    rw [foldlM_cons] at failed
    rcases bind_eq_error.mp failed with here | ⟨_, _, later⟩
    · exact ⟨start, first, mem_cons_self, here⟩
    · obtain ⟨state, item, member, failedItem⟩ := ih later
      exact ⟨state, item, mem_cons_of_mem first member, failedItem⟩

/-- Every item is found; the first error is returned. -/
def findAll (find : α → Except ε β) : List α → Except ε (List β)
  | [] => .ok []
  | item :: rest => do
      let value ← find item
      let values ← findAll find rest
      return value :: values

variable {find : α → Except ε β}

theorem findAll_append_eq_ok {first second : List α} {values : List β} :
    findAll find (first ++ second) = .ok values ↔
      ∃ here, findAll find first = .ok here ∧ ∃ there, findAll find second = .ok there ∧ here ++ there = values := by
  induction first generalizing values with
  | nil => simp [findAll]
  | cons item rest ih =>
    simp only [cons_append, findAll, bind_eq_ok, pure_eq_ok, ih]
    constructor
    · rintro ⟨value, found, _, ⟨here, foundHere, there, foundThere, rfl⟩, rfl⟩
      exact ⟨value :: here, ⟨value, found, here, foundHere, rfl⟩, there, foundThere, rfl⟩
    · rintro ⟨_, ⟨value, found, here, foundHere, rfl⟩, there, foundThere, rfl⟩
      exact ⟨value, found, here ++ there, ⟨here, foundHere, there, foundThere, rfl⟩, rfl⟩

theorem exists_item_of_findAll {values : List β}
    (found : findAll find items = .ok values) {value : β} (member : value ∈ values) :
    ∃ item ∈ items, find item = .ok value := by
  induction items generalizing values with
  | nil =>
    cases found
    cases member
  | cons first rest ih =>
    simp only [findAll, bind_eq_ok, pure_eq_ok] at found
    obtain ⟨here, foundHere, others, foundOthers, rfl⟩ := found
    rcases mem_cons.mp member with rfl | later
    · exact ⟨first, mem_cons_self, foundHere⟩
    · obtain ⟨item, inRest, foundItem⟩ := ih foundOthers later
      exact ⟨item, mem_cons_of_mem first inRest, foundItem⟩

theorem exists_value_of_findAll {values : List β}
    (found : findAll find items = .ok values) {item : α} (member : item ∈ items) :
    ∃ value ∈ values, find item = .ok value := by
  induction items generalizing values with
  | nil => cases member
  | cons first rest ih =>
    simp only [findAll, bind_eq_ok, pure_eq_ok] at found
    obtain ⟨here, foundHere, others, foundOthers, rfl⟩ := found
    rcases mem_cons.mp member with rfl | later
    · exact ⟨here, mem_cons_self, foundHere⟩
    · obtain ⟨value, inOthers, foundItem⟩ := ih foundOthers later
      exact ⟨value, mem_cons_of_mem here inOthers, foundItem⟩

theorem exists_findAll (each : ∀ item ∈ items, ∃ value, find item = .ok value) :
    ∃ values, findAll find items = .ok values := by
  induction items with
  | nil => exact ⟨[], rfl⟩
  | cons first rest ih =>
    obtain ⟨here, foundHere⟩ := each first mem_cons_self
    obtain ⟨others, foundOthers⟩ := ih fun item member => each item (mem_cons_of_mem first member)
    refine ⟨here :: others, ?_⟩
    simp only [findAll, bind_eq_ok, pure_eq_ok]
    exact ⟨here, foundHere, others, foundOthers, rfl⟩

end Tierd.Data
