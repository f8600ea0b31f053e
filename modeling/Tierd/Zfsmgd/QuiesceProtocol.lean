import Tierd.Zfsmgd.Quiesce

namespace Tierd.Zfsmgd.Quiesce

open Tierd.Data

variable {W R : Type} [Fintype W]

def WorkerAt.weight (place : WorkerAt) : Int := if place = .copying then 1 else 0

/-- The number of workers that copy. -/
def copies (workers : W → WorkerAt) : Int := ∑ w, (workers w).weight

theorem weight_nonneg (place : WorkerAt) : 0 ≤ place.weight := by
  unfold WorkerAt.weight
  split <;> decide

theorem copies_pos {workers : W → WorkerAt} {w : W} (copying : workers w = .copying) : 0 < copies workers := by
  have single : (workers w).weight ≤ copies workers :=
    Finset.single_le_sum (fun v _ => weight_nonneg (workers v)) (Finset.mem_univ w)
  rw [copying] at single
  exact lt_of_lt_of_le (by decide) single

theorem copies_update [DecidableEq W] (workers : W → WorkerAt) (w : W) (place : WorkerAt) :
    copies (Function.update workers w place) = copies workers - (workers w).weight + place.weight := by
  have others : ∑ v ∈ Finset.univ.erase w, (Function.update workers w place v).weight =
      ∑ v ∈ Finset.univ.erase w, (workers v).weight := by
    refine Finset.sum_congr rfl fun v other => ?_
    rw [Function.update_of_ne (Finset.ne_of_mem_erase other)]
  unfold copies
  rw [← Finset.add_sum_erase _ _ (Finset.mem_univ w), ← Finset.add_sum_erase _ (fun v => (workers v).weight)
    (Finset.mem_univ w),
    others, Function.update_self]
  ring

/-- What holds between any two steps. -/
structure Sound (world : World W R) : Prop where
  counted : world.controller.copiesActive = copies world.workers
  alone : ∀ r s, world.requests r ≠ .idle → world.requests s ≠ .idle → r = s
  flagged : ∀ r, world.requests r ≠ .idle → world.snapActive = true
  quiesces : world.controller.quiescing = true ↔ ∃ r, (world.requests r).quiesces = true
  unparked : world.controller.quiescing = false → world.controller.parkedCh = none
  hasRelease : world.controller.quiescing = true → world.controller.releaseCh ≠ none
  blocked : ∀ w ch, world.workers w = .blocked ch → ∃ c, ch = some c ∧
    (c ∈ world.controller.closed ∨ (world.controller.quiescing = true ∧ world.controller.releaseCh = some c))
  parked : ∀ r ch, world.requests r = .parked ch → world.controller.parkedCh = some ch
  made : ∀ ch, world.controller.parkedCh = some ch → ch < world.controller.made
  signals : ∀ ch, (ch ∈ world.controller.signals ∨ ∃ w, world.workers w = .signalling ch) →
    ch < world.controller.made ∧ (world.controller.parkedCh = some ch → world.controller.copiesActive = 0)
  established : ∀ r, world.requests r = .established → world.controller.copiesActive = 0

theorem fresh_sound : Sound (fresh : World W R) where
  counted := by simp [fresh, copies, WorkerAt.weight]
  alone := fun _ _ moved => absurd rfl moved
  flagged := fun _ moved => absurd rfl moved
  quiesces := by simp [fresh, RequestAt.quiesces]
  unparked := fun _ => rfl
  hasRelease := nofun
  blocked := nofun
  parked := nofun
  made := nofun
  signals := by simp [fresh]
  established := nofun

variable {world : World W R}

theorem Sound.quiescing_of (sound : Sound world) {r : R} {place : RequestAt} (here : world.requests r = place)
    (active : place.quiesces = true) : world.controller.quiescing = true :=
  sound.quiesces.mpr ⟨r, here ▸ active⟩

theorem Sound.only (sound : Sound world) {r s : R} (here : world.requests r ≠ .idle) (apart : s ≠ r) :
    world.requests s = .idle := by
  by_contra moved
  exact apart (sound.alone s r moved here)

section Workers

variable [DecidableEq W]

theorem Sound.moveWorker (sound : Sound world) {w : W} {place : WorkerAt} (active : Int) (signals : List Channel)
    (count : active = world.controller.copiesActive - (world.workers w).weight + place.weight)
    (stays : world.controller.quiescing = true → world.controller.copiesActive = 0 → active = 0)
    (waits : ∀ ch, place = .blocked ch → ∃ c, ch = some c ∧
      (c ∈ world.controller.closed ∨ (world.controller.quiescing = true ∧ world.controller.releaseCh = some c)))
    (sent : ∀ ch, ch ∈ signals ∨ place = .signalling ch →
      (ch ∈ world.controller.signals ∨ world.workers w = .signalling ch) ∨
        (ch < world.controller.made ∧ (world.controller.parkedCh = some ch → active = 0))) :
    Sound (world.moveWorker w { world.controller with copiesActive := active, signals := signals } place) := by
  have quiet : ∀ ch, world.controller.parkedCh = some ch → world.controller.quiescing = true := by
    intro ch here
    by_contra idle
    have none := sound.unparked (Bool.eq_false_iff.mpr idle)
    rw [none] at here
    cases here
  constructor
  case counted =>
    change active = copies (Function.update world.workers w place)
    rw [copies_update, count, sound.counted]
  case alone => exact sound.alone
  case flagged => exact sound.flagged
  case quiesces => exact sound.quiesces
  case unparked => exact sound.unparked
  case hasRelease => exact sound.hasRelease
  case parked => exact sound.parked
  case made => exact sound.made
  case established =>
    intro r here
    have active : world.controller.quiescing = true := sound.quiescing_of here rfl
    exact stays active (sound.established r here)
  case blocked =>
    intro v ch here
    by_cases same : v = w
    · subst same
      exact waits ch (by simpa [World.moveWorker] using here)
    · exact sound.blocked v ch (by simpa [World.moveWorker, same] using here)
  case signals =>
    have old : ∀ ch, (ch ∈ world.controller.signals ∨ ∃ v, world.workers v = .signalling ch) →
        ch < world.controller.made ∧ (world.controller.parkedCh = some ch → active = 0) := by
      intro ch there
      obtain ⟨made, zero⟩ := sound.signals ch there
      exact ⟨made, fun parked => stays (quiet ch parked) (zero parked)⟩
    rintro ch (listed | ⟨v, here⟩)
    · rcases sent ch (.inl listed) with (there | there) | fresh
      · exact old ch (.inl there)
      · exact old ch (.inr ⟨w, there⟩)
      · exact fresh
    · by_cases same : v = w
      · subst same
        rcases sent ch (.inr (by simpa [World.moveWorker] using here)) with (there | there) | fresh
        · exact old ch (.inl there)
        · exact old ch (.inr ⟨v, there⟩)
        · exact fresh
      · exact old ch (.inr ⟨v, by simpa [World.moveWorker, same] using here⟩)

theorem Sound.moveWorkerOnly (sound : Sound world) {w : W} {place : WorkerAt}
    (same : (world.workers w).weight = place.weight)
    (waits : ∀ ch, place = .blocked ch → ∃ c, ch = some c ∧
      (c ∈ world.controller.closed ∨ (world.controller.quiescing = true ∧ world.controller.releaseCh = some c)))
    (silent : ∀ ch, place ≠ .signalling ch) : Sound (world.moveWorker w world.controller place) := by
  refine sound.moveWorker world.controller.copiesActive world.controller.signals ?_ ?_ waits ?_
  · rw [same]
    ring
  · exact fun _ zero => zero
  · rintro ch (listed | here)
    · exact .inl (.inl listed)
    · exact absurd here (silent ch)

theorem Sound.attempt (sound : Sound world) {w : W} (entering : world.workers w = .entering) :
    Sound (world.moveWorker w (enterCopy world.controller).1 (enterCopy world.controller).2) := by
  unfold enterCopy
  split
  case isTrue idle =>
    refine sound.moveWorker _ world.controller.signals ?_ ?_ nofun ?_
    · rw [entering]
      simp [WorkerAt.weight]
    · intro active
      rw [idle] at active
      cases active
    · rintro ch (listed | here)
      · exact .inl (.inl listed)
      · cases here
  case isFalse active =>
    have quiescing : world.controller.quiescing = true := Bool.eq_true_of_not_eq_false active
    refine sound.moveWorkerOnly (by rw [entering]; rfl) ?_ nofun
    rintro ch ⟨⟩
    obtain ⟨c, release⟩ := Option.ne_none_iff_exists'.mp (sound.hasRelease quiescing)
    exact ⟨c, release, .inr ⟨quiescing, release⟩⟩

theorem Sound.exit (sound : Sound world) {w : W} (copying : world.workers w = .copying) :
    Sound (world.moveWorker w (exitCopy world.controller).1 (exitCopy world.controller).2) := by
  have busy : 0 < world.controller.copiesActive := sound.counted ▸ copies_pos copying
  have light : ∀ place : WorkerAt, place = (exitCopy world.controller).2 → place ≠ .copying ∧
      ∀ ch, place ≠ .blocked ch := by
    rintro place rfl
    unfold exitCopy
    dsimp only
    split
    · cases world.controller.parkedCh <;> simp
    · simp
  refine sound.moveWorker _ world.controller.signals ?_ ?_ ?_ ?_
  · rw [copying]
    simp [WorkerAt.weight, (light _ rfl).1]
  · intro _ zero
    omega
  · intro ch here
    exact absurd here ((light _ rfl).2 ch)
  · rintro ch (listed | here)
    · exact .inl (.inl listed)
    · right
      unfold exitCopy at here
      dsimp only at here
      split at here
      case isFalse => cases here
      case isTrue last =>
        cases parked : world.controller.parkedCh with
        | none =>
          rw [parked] at here
          cases here
        | some own =>
          rw [parked] at here
          cases here
          exact ⟨sound.made ch parked, fun _ => last.2⟩

theorem Sound.send (sound : Sound world) {w : W} {ch : Channel} (signalling : world.workers w = .signalling ch) :
    Sound (world.moveWorker w (signal world.controller ch) .idle) := by
  unfold signal
  split
  case isTrue => exact sound.moveWorkerOnly (by rw [signalling]; rfl) nofun nofun
  case isFalse =>
    refine sound.moveWorker world.controller.copiesActive _ ?_ (fun _ zero => zero) nofun ?_
    · rw [signalling]
      simp [WorkerAt.weight]
    · rintro other (listed | here)
      · rcases List.mem_cons.mp listed with rfl | there
        · exact .inl (.inr signalling)
        · exact .inl (.inl there)
      · cases here

end Workers

section Requests

variable [DecidableEq R]

theorem Sound.moveRequest (sound : Sound world) {r : R} {place : RequestAt} {q : Controller} {flag : Bool}
    (others : ∀ s, s ≠ r → world.requests s = .idle)
    (flagged : place ≠ .idle → flag = true)
    (counted : q.copiesActive = world.controller.copiesActive)
    (quiesces : q.quiescing = place.quiesces)
    (unparked : q.quiescing = false → q.parkedCh = none)
    (hasRelease : q.quiescing = true → q.releaseCh ≠ none)
    (blocked : ∀ c, c ∈ world.controller.closed ∨
      (world.controller.quiescing = true ∧ world.controller.releaseCh = some c) →
      c ∈ q.closed ∨ (q.quiescing = true ∧ q.releaseCh = some c))
    (parked : ∀ ch, place = .parked ch → q.parkedCh = some ch)
    (made : ∀ ch, q.parkedCh = some ch → ch < q.made)
    (signals : ∀ ch, (ch ∈ q.signals ∨ ∃ w, world.workers w = .signalling ch) →
      ch < q.made ∧ (q.parkedCh = some ch → q.copiesActive = 0))
    (established : place = .established → q.copiesActive = 0) :
    Sound { world.moveRequest r q place with snapActive := flag } := by
  have moved : ∀ s spot, Function.update world.requests r place s = spot → spot ≠ .idle → s = r ∧ place = spot := by
    intro s spot here busy
    by_cases same : s = r
    · subst same
      exact ⟨rfl, by rw [← here, Function.update_self]⟩
    · rw [Function.update_of_ne same, others s same] at here
      exact absurd here.symm busy
  constructor
  case counted => exact counted.trans sound.counted
  case alone => exact fun s t one other => (moved s _ rfl one).1.trans (moved t _ rfl other).1.symm
  case flagged => exact fun s busy => flagged ((moved s _ rfl busy).2 ▸ busy)
  case quiesces =>
    change q.quiescing = true ↔ ∃ s, (Function.update world.requests r place s).quiesces = true
    constructor
    · exact fun active => ⟨r, by rw [Function.update_self, ← quiesces, active]⟩
    · rintro ⟨s, active⟩
      have busy : Function.update world.requests r place s ≠ .idle := by
        intro idle
        rw [idle] at active
        cases active
      rw [quiesces, (moved s _ rfl busy).2]
      exact active
  case unparked => exact unparked
  case hasRelease => exact hasRelease
  case blocked =>
    intro w ch waiting
    obtain ⟨c, same, there⟩ := sound.blocked w ch waiting
    exact ⟨c, same, blocked c there⟩
  case parked => exact fun s ch waiting => parked ch (moved s _ waiting nofun).2
  case made => exact made
  case signals => exact signals
  case established => exact fun s now => established (moved s _ now nofun).2

variable {r : R}

/-- The controller is left as it is. -/
theorem Sound.moveRequestOnly (sound : Sound world) {place : RequestAt} {flag : Bool}
    (others : ∀ s, s ≠ r → world.requests s = .idle) (flagged : place ≠ .idle → flag = true)
    (same : (world.requests r).quiesces = place.quiesces)
    (parked : ∀ ch, place = .parked ch → world.controller.parkedCh = some ch)
    (established : place = .established → world.controller.copiesActive = 0) :
    Sound { world.moveRequest r world.controller place with snapActive := flag } := by
  refine sound.moveRequest others flagged rfl ?_ sound.unparked sound.hasRelease
    (fun _ there => there) parked sound.made
    sound.signals established
  rw [← same, Bool.eq_iff_iff, sound.quiesces]
  refine ⟨?_, fun active => ⟨r, active⟩⟩
  rintro ⟨s, active⟩
  by_cases own : s = r
  · exact own ▸ active
  · rw [others s own] at active
    cases active

theorem Sound.claim (sound : Sound world) (idle : world.requests r = .idle) (free : world.snapActive = false) :
    Sound { world.moveRequest r world.controller .claimed with snapActive := true } := by
  have nobody : ∀ s, world.requests s = .idle := by
    intro s
    by_contra moved
    exact Bool.false_ne_true (free.symm.trans (sound.flagged s moved))
  exact sound.moveRequestOnly (fun s _ => nobody s) (fun _ => rfl) (by rw [idle]; rfl) nofun nofun

theorem Sound.proceed (sound : Sound world) {before after : RequestAt} (here : world.requests r = before)
    (busy : before ≠ .idle)
    (same : before.quiesces = after.quiesces) (parked : ∀ ch, after ≠ .parked ch)
    (unestablished : after ≠ .established) :
    Sound (world.moveRequest r world.controller after) :=
  sound.moveRequestOnly (fun _ => sound.only (here ▸ busy)) (fun _ => sound.flagged r (here ▸ busy)) (here ▸ same)
    (fun ch at_ => absurd at_ (parked ch)) (fun at_ => absurd at_ unestablished)

theorem Sound.leave (sound : Sound world) (here : world.requests r = .leaving) :
    Sound { world.moveRequest r world.controller .idle with snapActive := false } :=
  sound.moveRequestOnly (fun _ => sound.only (here ▸ nofun)) (fun busy => absurd rfl busy)
    (by rw [here]; rfl) nofun nofun

theorem Sound.begin (sound : Sound world) (here : world.requests r = .claimed) :
    Sound (world.moveRequest r (beginQuiesce world.controller).1 (beginQuiesce world.controller).2) := by
  have busy : world.requests r ≠ .idle := here ▸ nofun
  have others : ∀ s, s ≠ r → world.requests s = .idle := fun _ => sound.only busy
  have quiet : world.controller.quiescing = false := by
    refine Bool.eq_false_iff.mpr fun active => ?_
    obtain ⟨s, quiesces⟩ := sound.quiesces.mp active
    by_cases own : s = r
    · rw [own, here] at quiesces
      cases quiesces
    · rw [others s own] at quiesces
      cases quiesces
  have blocked : ∀ c, c ∈ world.controller.closed ∨
    (world.controller.quiescing = true ∧ world.controller.releaseCh = some c) →
      c ∈ world.controller.closed := by
    rintro c (there | ⟨active, _⟩)
    · exact there
    · exact absurd (quiet.symm.trans active) nofun
  unfold beginQuiesce
  rw [if_neg (by rw [quiet]; decide)]
  dsimp only
  split
  case isTrue none =>
    refine sound.moveRequest others (fun _ => sound.flagged r busy) rfl rfl nofun nofun
      (fun c there => .inl (blocked c there))
      nofun ?_ ?_ fun _ => none
    · intro ch parked
      rw [sound.unparked quiet] at parked
      cases parked
    · intro ch there
      refine ⟨Nat.lt_succ_of_lt (sound.signals ch there).1, fun parked => ?_⟩
      rw [sound.unparked quiet] at parked
      cases parked
  case isFalse copying =>
    refine sound.moveRequest others (fun _ => sound.flagged r busy) rfl rfl nofun nofun
      (fun c there => .inl (blocked c there))
      ?_ ?_ ?_ nofun
    · rintro ch ⟨⟩
      rfl
    · rintro ch ⟨⟩
      exact Nat.lt_succ_self _
    · intro ch there
      have old := (sound.signals ch there).1
      refine ⟨Nat.lt_succ_of_lt (Nat.lt_succ_of_lt old), ?_⟩
      rintro ⟨⟩
      exact absurd old (Nat.not_lt.mpr (Nat.le_succ _))

theorem Sound.receive (sound : Sound world) {ch : Channel} (here : world.requests r = .parked ch)
    (signalled : ch ∈ world.controller.signals) :
    Sound (world.moveRequest r { world.controller with signals := world.controller.signals.erase ch }
      .established) := by
  have busy : world.requests r ≠ .idle := here ▸ nofun
  have zero : world.controller.copiesActive = 0 := (sound.signals ch (.inl signalled)).2 (sound.parked r ch here)
  refine sound.moveRequest (fun _ => sound.only busy) (fun _ => sound.flagged r busy) rfl (sound.quiescing_of here rfl)
    sound.unparked sound.hasRelease (fun _ there => there) nofun sound.made ?_ fun _ => zero
  rintro other (listed | signalling)
  · exact sound.signals other (.inl (List.mem_of_mem_erase listed))
  · exact sound.signals other (.inr signalling)

theorem Sound.end_ (sound : Sound world) {before after : RequestAt} (here : world.requests r = before)
    (active : before.quiesces = true)
    (ends : after.quiesces = false) : Sound (world.moveRequest r (endQuiesce world.controller) after) := by
  have busy : world.requests r ≠ .idle := by
    rintro idle
    rw [idle] at here
    rw [← here] at active
    cases active
  have quiescing := sound.quiescing_of here active
  obtain ⟨own, release⟩ := Option.ne_none_iff_exists'.mp (sound.hasRelease quiescing)
  unfold endQuiesce
  rw [if_neg (by rw [quiescing]; decide), release, Option.elim_some]
  refine sound.moveRequest (fun _ => sound.only busy) (fun _ => sound.flagged r busy) rfl ends.symm
    (fun _ => rfl) nofun ?_ ?_
    nofun ?_ ?_
  · rintro c (there | ⟨_, waits⟩)
    · exact .inl (List.mem_cons_of_mem own there)
    · rw [release] at waits
      cases waits
      exact .inl List.mem_cons_self
  · rintro ch rfl
    cases ends
  · exact fun ch there => ⟨(sound.signals ch there).1, nofun⟩
  · rintro rfl
    cases ends

theorem Sound.finish (sound : Sound world) (here : world.requests r = .released) :
    Sound (world.moveRequest r (endQuiesce world.controller) .leaving) := by
  have busy : world.requests r ≠ .idle := here ▸ nofun
  have quiet : world.controller.quiescing = false := by
    refine Bool.eq_false_iff.mpr fun active => ?_
    obtain ⟨s, quiesces⟩ := sound.quiesces.mp active
    by_cases own : s = r
    · rw [own, here] at quiesces
      cases quiesces
    · rw [sound.only busy own] at quiesces
      cases quiesces
  unfold endQuiesce
  rw [if_pos quiet]
  exact sound.proceed here nofun rfl nofun nofun

end Requests

theorem Sound.excludes (sound : Sound world) : Excludes world := by
  intro r established w copying
  have zero := sound.established r established
  have busy := copies_pos copying
  rw [sound.counted] at zero
  omega

variable [DecidableEq W] [DecidableEq R]

theorem Sound.step (sound : Sound world) (event : Event W R) : Sound (step world event) := by
  unfold Quiesce.step
  cases event with
  | enter w =>
    dsimp only
    split
    case isTrue idle => exact sound.moveWorkerOnly (by rw [idle]; rfl) nofun nofun
    case isFalse => exact sound
  | attempt w =>
    dsimp only
    split
    case isTrue entering => exact sound.attempt entering
    case isFalse => exact sound
  | wake w =>
    dsimp only
    split
    case h_1 ch waiting =>
      split
      case isTrue => exact sound.moveWorkerOnly (by rw [waiting]; rfl) nofun nofun
      case isFalse => exact sound
    case h_2 => exact sound
  | exit w =>
    dsimp only
    split
    case isTrue copying => exact sound.exit copying
    case isFalse => exact sound
  | send w =>
    dsimp only
    split
    case h_1 ch signalling => exact sound.send signalling
    case h_2 => exact sound
  | claim r =>
    dsimp only
    split
    case isTrue free => exact sound.claim free.1 free.2
    case isFalse => exact sound
  | abandon r =>
    dsimp only
    split
    case isTrue claimed => exact sound.proceed claimed nofun rfl nofun nofun
    case isFalse => exact sound
  | begin r =>
    dsimp only
    split
    case isTrue claimed => exact sound.begin claimed
    case isFalse => exact sound
  | receive r =>
    dsimp only
    split
    case h_1 ch parked =>
      split
      case isTrue signalled => exact sound.receive parked signalled
      case isFalse => exact sound
    case h_2 => exact sound
  | timeout r =>
    dsimp only
    split
    case h_1 ch parked => exact sound.proceed parked nofun rfl nofun nofun
    case h_2 => exact sound
  | expire r =>
    dsimp only
    split
    case isTrue expired => exact sound.end_ expired rfl rfl
    case isFalse => exact sound
  | release r =>
    dsimp only
    split
    case isTrue established => exact sound.end_ established rfl rfl
    case isFalse => exact sound
  | fail r =>
    dsimp only
    split
    case isTrue established => exact sound.end_ established rfl rfl
    case isFalse => exact sound
  | finish r =>
    dsimp only
    split
    case isTrue released => exact sound.finish released
    case isFalse => exact sound
  | leave r =>
    dsimp only
    split
    case isTrue leaving => exact sound.leave leaving
    case isFalse => exact sound

theorem Sound.releases (sound : Sound world) : Releases world := by
  intro nobody w ch waiting
  have quiet : world.controller.quiescing = false := by
    refine Bool.eq_false_iff.mpr fun active => ?_
    obtain ⟨r, quiesces⟩ := sound.quiesces.mp active
    rw [nobody r] at quiesces
    cases quiesces
  obtain ⟨c, rfl, there⟩ := sound.blocked w ch waiting
  have closed : c ∈ world.controller.closed :=
    there.resolve_right fun active => absurd (quiet.symm.trans active.1) nofun
  simp [Quiesce.step, World.moveWorker, enterCopy, waiting, closed, quiet]

/-- For every order of the steps of any workers and snapshot requests: while a request has its
quiesce no copy runs, and while there is no quiesce nobody is kept from copying. -/
theorem quiesce_protocol (events : List (Event W R)) :
    Excludes (run Quiesce.step fresh events) ∧ Releases (run Quiesce.step fresh events) := by
  have sound : Sound (run Quiesce.step (fresh : World W R) events) :=
    run_invariant (fun _ event sound => sound.step event) events fresh_sound
  exact ⟨sound.excludes, sound.releases⟩

/-- A request that has to wait for a copy gets its quiesce, and the next copy has to wait for the
request. -/
example :
    let world := run Quiesce.step (fresh : World (Fin 2) Unit)
      [.enter 0, .attempt 0, .claim (), .begin (), .exit 0, .send 0, .receive (), .enter 1, .attempt 1]
    world.requests () = .established ∧ world.workers 1 = .blocked (some 0) := by
  decide

end Tierd.Zfsmgd.Quiesce
