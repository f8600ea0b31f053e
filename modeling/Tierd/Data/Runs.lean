import Mathlib

namespace Tierd.Data

variable {σ ε : Type*} (step : σ → ε → σ)

/-- The state reached from `start` by the events of a run, in order. -/
def run (start : σ) (events : List ε) : σ := events.foldl step start

@[simp] theorem run_nil (start : σ) : run step start [] = start := rfl

@[simp] theorem run_cons (start : σ) (event : ε) (rest : List ε) :
    run step start (event :: rest) = run step (step start event) rest := rfl

theorem run_append (start : σ) (first second : List ε) :
    run step start (first ++ second) = run step (run step start first) second :=
  List.foldl_append

/-- Every step of the run is taken from a state that meets `guard`. -/
def Guarded (guard : σ → ε → Prop) : σ → List ε → Prop
  | _, [] => True
  | state, event :: rest => guard state event ∧ Guarded guard (step state event) rest

instance Guarded.decidable (guard : σ → ε → Prop) [∀ state event, Decidable (guard state event)] :
    ∀ (start : σ) (events : List ε), Decidable (Guarded step guard start events)
  | _, [] => isTrue trivial
  | state, event :: rest =>
    have := Guarded.decidable guard (step state event) rest
    inferInstanceAs (Decidable (guard state event ∧ Guarded step guard (step state event) rest))

variable {step}

variable {guard : σ → ε → Prop} {start : σ}

theorem Guarded.at_split {before after : List ε} {event : ε}
    (guarded : Guarded step guard start (before ++ event :: after)) :
    guard (run step start before) event := by
  induction before generalizing start with
  | nil => exact guarded.1
  | cons first rest ih => exact ih guarded.2

theorem Guarded.before {first second : List ε}
    (guarded : Guarded step guard start (first ++ second)) : Guarded step guard start first := by
  induction first generalizing start with
  | nil => trivial
  | cons event rest ih => exact ⟨guarded.1, ih guarded.2⟩

theorem Guarded.later {first second : List ε}
    (guarded : Guarded step guard start (first ++ second)) : Guarded step guard (run step start first) second := by
  induction first generalizing start with
  | nil => exact guarded
  | cons event rest ih => exact ih guarded.2

theorem guarded_run_invariant {invariant : σ → Prop}
    (preserved : ∀ state event, invariant state → guard state event → invariant (step state event))
    {events : List ε} (guarded : Guarded step guard start events)
    (initially : invariant start) : invariant (run step start events) := by
  induction events generalizing start with
  | nil => exact initially
  | cons event rest ih =>
    obtain ⟨allowed, remaining⟩ := guarded
    exact ih remaining (preserved start event initially allowed)

theorem run_invariant {invariant : σ → Prop}
    (preserved : ∀ state event, invariant state → invariant (step state event))
    (events : List ε) (initially : invariant start) :
    invariant (run step start events) := by
  induction events generalizing start with
  | nil => exact initially
  | cons event rest ih => exact ih (preserved start event initially)

theorem guarded_iff_holds_throughout {background property : σ → Prop}
    (kept : ∀ state event, background state → property state → guard state event → background (step state event))
    (exactly : ∀ state event, background state → property state →
      (property (step state event) ↔ guard state event))
    (events : List ε) (setting : background start) (initially : property start) :
    (∀ before, before <+: events → property (run step start before)) ↔
      Guarded step guard start events := by
  induction events generalizing start with
  | nil =>
    refine iff_of_true (fun before done => ?_) trivial
    rw [List.prefix_nil.mp done]
    exact initially
  | cons event rest ih =>
    have later := exactly start event setting initially
    constructor
    · intro throughout
      have after : property (step start event) :=
        throughout [event] (List.cons_prefix_cons.mpr ⟨rfl, List.nil_prefix⟩)
      have allowed := later.mp after
      refine ⟨allowed, (ih (kept start event setting initially allowed) after).mp fun before done => ?_⟩
      exact throughout (event :: before) (List.cons_prefix_cons.mpr ⟨rfl, done⟩)
    · rintro ⟨allowed, remaining⟩ before done
      cases before with
      | nil => exact initially
      | cons first more =>
        obtain ⟨rfl, within⟩ := List.cons_prefix_cons.mp done
        have next := kept start first setting initially allowed
        exact (ih next (later.mpr allowed)).mpr remaining more within

/-- A run that is long enough ends when each of its steps lowers a measure. -/
theorem guarded_run_terminates {invariant done : σ → Prop} (measure : σ → Nat)
    (stable : ∀ state event, done state → done (step state event))
    (lowers : ∀ state event, invariant state → guard state event → ¬ done state →
      invariant (step state event) ∧ measure (step state event) < measure state)
    {events : List ε} (guarded : Guarded step guard start events) (initially : invariant start)
    (enough : measure start < events.length) : done (run step start events) := by
  induction events generalizing start with
  | nil => simp at enough
  | cons event rest ih =>
    by_cases finished : done start
    · exact run_invariant stable rest (stable start event finished)
    · obtain ⟨kept, lower⟩ := lowers start event initially guarded.1 finished
      simp only [List.length_cons] at enough
      exact ih guarded.2 kept (by omega)

theorem guarded_of_forall (always : ∀ state event, guard state event) (start : σ)
    (events : List ε) : Guarded step guard start events := by
  induction events generalizing start with
  | nil => trivial
  | cons event rest ih => exact ⟨always start event, ih (step start event)⟩

theorem run_terminates {done : σ → Prop} (measure : σ → Nat)
    (stable : ∀ state event, done state → done (step state event))
    (lowers : ∀ state event, ¬ done state → measure (step state event) < measure state)
    {events : List ε} (enough : measure start < events.length) :
    done (run step start events) := by
  have unguarded : Guarded step (fun _ _ => True) start events := guarded_of_forall (fun _ _ => trivial) start events
  have down : ∀ state event, True → True → ¬ done state →
      True ∧ measure (step state event) < measure state :=
    fun state event _ _ going => ⟨trivial, lowers state event going⟩
  exact guarded_run_terminates measure stable down unguarded trivial enough

end Tierd.Data
