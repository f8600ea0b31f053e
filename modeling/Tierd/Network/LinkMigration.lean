import Tierd.Data.Directory
import Tierd.Data.Runs
import Tierd.Data.Segments
import Tierd.Network.LinkFiles

namespace Tierd.Network.LinkFiles

open Tierd.Data List

inductive Entry
  | directory
  | file (content : Text) (mode : Nat)
  deriving DecidableEq

abbrev Folder := Directory Entry

def isLink (name : Text) : Bool := ".link".toList.isSuffixOf name

inductive Phase
  /-- The loop over the entries. -/
  | scan
  /-- Inside `writeFileAtomic`, before the call of that name. -/
  | create (name updated : Text)
  | write (name updated tmp : Text)
  | sync (name updated tmp : Text)
  | close (name updated tmp : Text)
  | chmod (name updated tmp : Text)
  | rename (name updated tmp : Text)
  /-- The deferred `os.Remove`; `moved` is the file if the rename succeeded. -/
  | remove (tmp : Text) (moved : Option Text)
  | failed
  | done
  deriving DecidableEq

/-- Every system call is a step and may fail; a crash can come after any of them. -/
structure Migration where
  folder : Folder
  queue : List Text
  phase : Phase
  migrated : List Text

structure Answer where
  granted : Bool
  /-- The number that `os.CreateTemp` draws. -/
  random : Nat
  /-- How much of the content a failed write left. -/
  written : Nat

def tmpName (name : Text) (random : Nat) : Text := '.' :: name ++ ".tmp-" ++ decimal random

def migrateLinkFilesToPermanentMAC (folder : Folder) : Migration where
  folder := folder
  queue := folder.keys
  phase := .scan
  migrated := []

def step (state : Migration) (answer : Answer) : Migration :=
  match state.phase with
  | .scan =>
    match state.queue with
    | [] => { state with phase := .done }
    | name :: rest =>
      match state.folder.lookup name with
      | some (.file content _) =>
        if isLink name = false then { state with queue := rest }
        else if answer.granted = false then { state with phase := .failed }
        else
          match permanentMACLinkFile content with
          | none => { state with queue := rest }
          | some updated => { state with queue := rest, phase := .create name updated }
      | some .directory => { state with queue := rest }
      | none => if isLink name then { state with phase := .failed } else { state with queue := rest }
  | .create name updated =>
    if answer.granted = false then { state with phase := .failed }
    else
      let tmp := tmpName name answer.random
      if state.folder.lookup tmp = none then
        { state with folder := state.folder.insert tmp (.file [] 0o600), phase := .write name updated tmp }
      else state
  | .write name updated tmp =>
    if answer.granted then
      { state with folder := state.folder.insert tmp (.file updated 0o600), phase := .sync name updated tmp }
    else
      { state with
        folder := state.folder.insert tmp (.file (updated.take answer.written) 0o600), phase := .remove tmp none }
  | .sync name updated tmp =>
    { state with phase := if answer.granted then .close name updated tmp else .remove tmp none }
  | .close name updated tmp =>
    { state with phase := if answer.granted then .chmod name updated tmp else .remove tmp none }
  | .chmod name updated tmp =>
    if answer.granted then
      { state with folder := state.folder.insert tmp (.file updated 0o644), phase := .rename name updated tmp }
    else { state with phase := .remove tmp none }
  | .rename name updated tmp =>
    if answer.granted then
      { state with
        folder := (state.folder.erase tmp).insert name (.file updated 0o644), phase := .remove tmp (some name) }
    else { state with phase := .remove tmp none }
  | .remove tmp moved =>
    let folder := if answer.granted then state.folder.erase tmp else state.folder
    match moved with
    | some name => { state with folder, phase := .scan, migrated := state.migrated ++ [name] }
    | none => { state with folder, phase := .failed }
  | .failed => state
  | .done => state

theorem isLink_tmpName (name : Text) (random : Nat) : isLink (tmpName name random) = false := by
  refine Bool.eq_false_iff.mpr fun link => ?_
  rw [isLink, isSuffixOf_iff_suffix] at link
  obtain ⟨front, whole⟩ := link
  have digit : ∀ c, (tmpName name random).getLast? = some c → c.isDigit = true := by
    intro c last
    have nonempty : decimal random ≠ [] := Nat.toDigits_ne_nil
    rw [tmpName, List.getLast?_append_of_ne_nil _ nonempty] at last
    exact isDigit_of_mem_decimal (mem_of_getLast? last)
  have k : (tmpName name random).getLast? = some 'k' := by
    rw [← whole, List.getLast?_append_of_ne_nil _ (by decide)]
    rfl
  exact absurd (digit 'k' k) (by decide)

def Rewritten (start folder : Folder) (name : Text) : Prop :=
  ∃ content mode new, start.lookup name = some (.file content mode) ∧ permanentMACLinkFile content = some new ∧
    folder.lookup name = some (.file new 0o644)

/-- The files whose rename succeeded. -/
def Migration.moved (state : Migration) : List Text :=
  match state.phase with
  | .remove _ (some name) => state.migrated ++ [name]
  | _ => state.migrated

def Phase.target : Phase → Option (Text × Text)
  | .create name updated => some (name, updated)
  | .write name updated _ => some (name, updated)
  | .sync name updated _ => some (name, updated)
  | .close name updated _ => some (name, updated)
  | .chmod name updated _ => some (name, updated)
  | .rename name updated _ => some (name, updated)
  | _ => none

def Phase.tmp : Phase → Option Text
  | .write _ _ tmp => some tmp
  | .sync _ _ tmp => some tmp
  | .close _ _ tmp => some tmp
  | .chmod _ _ tmp => some tmp
  | .rename _ _ tmp => some tmp
  | .remove tmp _ => some tmp
  | _ => none

/-- Nothing is left to rewrite in a file. -/
def Settled (folder : Folder) (name : Text) : Prop :=
  ∀ content mode, folder.lookup name = some (.file content mode) → permanentMACLinkFile content = none

/-- The run has failed or is about to. -/
def Phase.Doomed (phase : Phase) : Prop := phase = .failed ∨ ∃ tmp, phase = .remove tmp none

structure Targets (start : Folder) (moved : List Text) (name updated : Text) : Prop where
  link : isLink name = true
  unmoved : name ∉ moved
  source : ∃ content mode, start.lookup name = some (.file content mode) ∧ permanentMACLinkFile content = some updated

structure Sound (start : Folder) (state : Migration) : Prop where
  rewritten : ∀ name ∈ state.moved, isLink name = true ∧ Rewritten start state.folder name
  unchanged : ∀ name, name ∉ state.moved → isLink name = true ∨ start.lookup name ≠ none →
    state.folder.lookup name = start.lookup name
  target : ∀ name updated, state.phase.target = some (name, updated) → Targets start state.moved name updated
  tmp : ∀ tmp, state.phase.tmp = some tmp → isLink tmp = false ∧ start.lookup tmp = none
  progress : ¬ state.phase.Doomed → ∀ name, isLink name = true → name ∈ state.queue ∨
    (∃ updated, state.phase.target = some (name, updated)) ∨ Settled state.folder name

section Steps

variable {start : Folder} {state after : Migration}

theorem Sound.change (sound : Sound start state) (moved : after.moved = state.moved)
    (kept : ∀ name, isLink name = true ∨ start.lookup name ≠ none → after.folder.lookup name = state.folder.lookup name)
    (target : ∀ name updated, after.phase.target = some (name, updated) → Targets start state.moved name updated)
    (tmp : ∀ tmp, after.phase.tmp = some tmp → isLink tmp = false ∧ start.lookup tmp = none)
    (progress : ¬ after.phase.Doomed → ¬ state.phase.Doomed ∧ ∀ name,
      (name ∈ state.queue → name ∈ after.queue ∨ (∃ updated, after.phase.target = some (name, updated)) ∨
        (isLink name = true → Settled state.folder name)) ∧
      ((∃ updated, state.phase.target = some (name, updated)) → ∃ updated, after.phase.target = some (name, updated))) :
    Sound start after where
  rewritten := by
    intro name member
    rw [moved] at member
    obtain ⟨link, content, mode, new, old, becomes, now⟩ := sound.rewritten name member
    exact ⟨link, content, mode, new, old, becomes, (kept name (Or.inl link)).trans now⟩
  unchanged := by
    intro name unmoved about
    rw [moved] at unmoved
    exact (kept name about).trans (sound.unchanged name unmoved about)
  target := by
    rw [moved]
    exact target
  tmp := tmp
  progress := by
    intro alive name link
    obtain ⟨was, next⟩ := progress alive
    have settled : Settled state.folder name → Settled after.folder name := fun done content mode now =>
      done content mode ((kept name (Or.inl link)).symm.trans now)
    rcases sound.progress was name link with queued | current | done
    · rcases (next name).1 queued with still | current | done
      · exact Or.inl still
      · exact Or.inr (Or.inl current)
      · exact Or.inr (Or.inr (settled (done link)))
    · exact Or.inr (Or.inl ((next name).2 current))
    · exact Or.inr (Or.inr (settled done))

variable {folder : Folder}

theorem lookup_insert_tmp {tmp : Text} {entry : Entry}
    (fresh : isLink tmp = false ∧ start.lookup tmp = none) :
    ∀ name, isLink name = true ∨ start.lookup name ≠ none →
      (folder.insert tmp entry).lookup name = folder.lookup name := by
  intro name about
  refine AList.lookup_insert_ne ?_
  rintro rfl
  rcases about with link | present
  · exact absurd (link.symm.trans fresh.1) (by decide)
  · exact present fresh.2

theorem lookup_erase_tmp {tmp : Text} (fresh : isLink tmp = false ∧ start.lookup tmp = none) :
    ∀ name, isLink name = true ∨ start.lookup name ≠ none → (folder.erase tmp).lookup name = folder.lookup name := by
  intro name about
  refine AList.lookup_erase_ne ?_
  rintro rfl
  rcases about with link | present
  · exact absurd (link.symm.trans fresh.1) (by decide)
  · exact present fresh.2

/-- Passing over an entry of the directory. -/
theorem Sound.skip (sound : Sound start state) (phase : state.phase = .scan) {name : Text} {rest : List Text}
    (queue : state.queue = name :: rest) (settled : isLink name = true → Settled state.folder name) :
    Sound start { state with queue := rest } := by
  refine sound.change (by simp [Migration.moved, phase]) (fun _ _ => rfl) ?_ ?_ fun _ =>
    ⟨by simp [phase, Phase.Doomed], ?_⟩
  · simp [phase, Phase.target]
  · simp [phase, Phase.tmp]
  · intro other
    refine ⟨fun queued => ?_, by simp [phase, Phase.target]⟩
    rw [queue] at queued
    rcases mem_cons.mp queued with rfl | later
    · exact Or.inr (Or.inr settled)
    · exact Or.inl later

theorem Sound.fail (sound : Sound start state) {phase : Phase} (doomed : phase.Doomed)
    (moved : ({ state with phase } : Migration).moved = state.moved)
    (tmp : ∀ tmp, phase.tmp = some tmp → isLink tmp = false ∧ start.lookup tmp = none) :
    Sound start { state with phase } := by
  refine sound.change moved (fun _ _ => rfl) ?_ tmp fun alive => absurd doomed alive
  rcases doomed with rfl | ⟨tmp, rfl⟩ <;> exact nofun

variable {queue migrated : List Text}

theorem sound_scan (sound : Sound start ⟨folder, queue, .scan, migrated⟩)
    (answer : Answer) : Sound start (step ⟨folder, queue, .scan, migrated⟩ answer) := by
  have failing : Sound start ⟨folder, queue, .failed, migrated⟩ := sound.fail (Or.inl rfl) rfl nofun
  cases queue with
  | nil =>
    refine sound.change rfl (fun _ _ => rfl) nofun nofun fun _ => ⟨by simp [Phase.Doomed], fun name => ⟨nofun, nofun⟩⟩
  | cons name rest =>
    cases found : folder.lookup name with
    | none =>
      simp only [step, found]
      split
      case isTrue => exact failing
      case isFalse other => exact sound.skip rfl rfl fun link => absurd link other
    | some entry =>
      cases entry with
      | directory =>
        simp only [step, found]
        refine sound.skip rfl rfl fun _ content mode there => ?_
        rw [found] at there
        cases there
      | file content mode =>
        simp only [step, found]
        split_ifs with other refused
        · exact sound.skip rfl rfl fun link => absurd (link.symm.trans other) (by decide)
        · exact failing
        · cases becomes : permanentMACLinkFile content with
          | none =>
            refine sound.skip rfl rfl fun _ content' mode' there => ?_
            rw [found] at there
            cases there
            exact becomes
          | some updated =>
            have link : isLink name = true := by simpa using other
            have unmoved : name ∉ migrated := by
              intro member
              obtain ⟨-, old, _, new, _, rewritten, now⟩ := sound.rewritten name member
              rw [found] at now
              cases now
              rw [not_rewritten_again rewritten] at becomes
              cases becomes
            have source : start.lookup name = some (.file content mode) :=
              (sound.unchanged name unmoved (Or.inl link)).symm.trans found
            refine sound.change rfl (fun _ _ => rfl) ?_ nofun fun _ =>
              ⟨by simp [Phase.Doomed], fun other => ⟨fun queued => ?_, nofun⟩⟩
            · rintro _ _ same
              obtain ⟨rfl, rfl⟩ := Prod.mk.inj (Option.some.inj same)
              exact ⟨link, unmoved, content, mode, source, becomes⟩
            · rcases mem_cons.mp queued with rfl | later
              · exact Or.inr (Or.inl ⟨updated, rfl⟩)
              · exact Or.inl later

theorem Sound.advance (sound : Sound start state) {phase : Phase} (alive : ¬ state.phase.Doomed)
    (moved : ({ state with folder, phase } : Migration).moved = state.moved)
    (kept : ∀ name, isLink name = true ∨ start.lookup name ≠ none → folder.lookup name = state.folder.lookup name)
    (target : phase.target = state.phase.target)
    (tmp : ∀ tmp, phase.tmp = some tmp → isLink tmp = false ∧ start.lookup tmp = none) :
    Sound start { state with folder, phase } := by
  refine sound.change moved kept (fun name updated => ?_) tmp fun _ => ⟨alive, fun name => ⟨Or.inl, ?_⟩⟩
  · rw [target]
    exact sound.target name updated
  · rw [target]
    exact id

theorem sound_create {name updated : Text}
    (sound : Sound start ⟨folder, queue, .create name updated, migrated⟩) (answer : Answer) :
    Sound start (step ⟨folder, queue, .create name updated, migrated⟩ answer) := by
  simp only [step]
  split_ifs with refused free
  · exact sound.fail (Or.inl rfl) rfl nofun
  · have other := isLink_tmpName name answer.random
    have unmoved : tmpName name answer.random ∉ migrated := fun member =>
      absurd ((sound.rewritten _ member).1.symm.trans other) (by decide)
    have fresh : start.lookup (tmpName name answer.random) = none := by
      by_contra present
      exact present ((sound.unchanged _ unmoved (Or.inr present)).symm.trans free)
    refine sound.advance (by simp [Phase.Doomed]) rfl (lookup_insert_tmp ⟨other, fresh⟩) rfl ?_
    rintro _ same
    obtain rfl := Option.some.inj same
    exact ⟨other, fresh⟩
  · exact sound

theorem sound_write {name updated tmp : Text}
    (sound : Sound start ⟨folder, queue, .write name updated tmp, migrated⟩) (answer : Answer) :
    Sound start (step ⟨folder, queue, .write name updated tmp, migrated⟩ answer) := by
  have fresh := sound.tmp tmp rfl
  simp only [step]
  split
  · exact sound.advance (by simp [Phase.Doomed]) rfl (lookup_insert_tmp fresh) rfl sound.tmp
  · exact sound.change rfl (lookup_insert_tmp fresh) nofun sound.tmp fun alive => absurd (Or.inr ⟨tmp, rfl⟩) alive

theorem sound_rename {name updated tmp : Text}
    (sound : Sound start ⟨folder, queue, .rename name updated tmp, migrated⟩) (answer : Answer) :
    Sound start (step ⟨folder, queue, .rename name updated tmp, migrated⟩ answer) := by
  have fresh := sound.tmp tmp rfl
  have moving := sound.target name updated rfl
  obtain ⟨content, mode, source, becomes⟩ := moving.source
  simp only [step]
  split
  case isFalse => exact sound.fail (Or.inr ⟨tmp, rfl⟩) rfl sound.tmp
  case isTrue =>
    have now : ((folder.erase tmp).insert name (.file updated 0o644)).lookup name = some (.file updated 0o644) :=
      AList.lookup_insert _
    have kept : ∀ other, other ≠ name → isLink other = true ∨ start.lookup other ≠ none →
        ((folder.erase tmp).insert name (.file updated 0o644)).lookup other = folder.lookup other :=
      fun other different about => (AList.lookup_insert_ne different).trans (lookup_erase_tmp fresh other about)
    have settled : Settled ((folder.erase tmp).insert name (.file updated 0o644)) name := by
      intro content' mode' there
      rw [now] at there
      cases there
      exact not_rewritten_again becomes
    refine ⟨fun other member => ?_, fun other unmoved about => ?_, nofun, sound.tmp, fun _ other link => ?_⟩
    · rcases mem_append.mp member with earlier | last
      · obtain ⟨link, content', mode', new, old, rewritten, there⟩ := sound.rewritten other earlier
        have different : other ≠ name := fun same => moving.unmoved (same ▸ earlier)
        exact ⟨link, content', mode', new, old, rewritten, (kept other different (Or.inl link)).trans there⟩
      · obtain rfl := mem_singleton.mp last
        exact ⟨moving.link, content, mode, updated, source, becomes, now⟩
    · have different : other ≠ name := fun same =>
        unmoved (mem_append_right _ (mem_singleton.mpr same))
      exact (kept other different about).trans
        (sound.unchanged other (fun member => unmoved (mem_append_left _ member)) about)
    · by_cases same : other = name
      · exact Or.inr (Or.inr (same ▸ settled))
      · rcases sound.progress (by simp [Phase.Doomed]) other link with queued | ⟨_, current⟩ | done
        · exact Or.inl queued
        · exact absurd (Prod.mk.inj (Option.some.inj current)).1.symm same
        · exact Or.inr (Or.inr fun content' mode' there =>
            done content' mode' ((kept other same (Or.inl link)).symm.trans there))

theorem sound_remove {tmp : Text} {moved : Option Text}
    (sound : Sound start ⟨folder, queue, .remove tmp moved, migrated⟩) (answer : Answer) :
    Sound start (step ⟨folder, queue, .remove tmp moved, migrated⟩ answer) := by
  have kept : ∀ name, isLink name = true ∨ start.lookup name ≠ none →
      (if answer.granted then folder.erase tmp else folder).lookup name = folder.lookup name := by
    split
    · exact lookup_erase_tmp (sound.tmp tmp rfl)
    · exact fun _ _ => rfl
  cases moved with
  | none => exact sound.change rfl kept nofun nofun fun alive => absurd (Or.inl rfl) alive
  | some name => exact sound.change rfl kept nofun nofun fun _ => ⟨by simp [Phase.Doomed], fun _ => ⟨Or.inl, nofun⟩⟩

theorem sound_step (sound : Sound start state) (answer : Answer) : Sound start (step state answer) := by
  obtain ⟨folder, queue, phase, migrated⟩ := state
  cases phase with
  | scan => exact sound_scan sound answer
  | create name updated => exact sound_create sound answer
  | write name updated tmp => exact sound_write sound answer
  | sync name updated tmp =>
    simp only [step]
    split
    · exact sound.advance (by simp [Phase.Doomed]) rfl (fun _ _ => rfl) rfl sound.tmp
    · exact sound.fail (Or.inr ⟨tmp, rfl⟩) rfl sound.tmp
  | close name updated tmp =>
    simp only [step]
    split
    · exact sound.advance (by simp [Phase.Doomed]) rfl (fun _ _ => rfl) rfl sound.tmp
    · exact sound.fail (Or.inr ⟨tmp, rfl⟩) rfl sound.tmp
  | chmod name updated tmp =>
    simp only [step]
    split
    · exact sound.advance (by simp [Phase.Doomed]) rfl (lookup_insert_tmp (sound.tmp tmp rfl)) rfl sound.tmp
    · exact sound.fail (Or.inr ⟨tmp, rfl⟩) rfl sound.tmp
  | rename name updated tmp => exact sound_rename sound answer
  | remove tmp moved => exact sound_remove sound answer
  | failed => exact sound
  | done => exact sound

end Steps

theorem sound_start (folder : Folder) : Sound folder (migrateLinkFilesToPermanentMAC folder) where
  rewritten := nofun
  unchanged := fun _ _ _ => rfl
  target := nofun
  tmp := nofun
  progress := by
    intro _ name link
    by_cases present : name ∈ folder.keys
    · exact Or.inl present
    · have absent : folder.lookup name = none := AList.lookup_eq_none.mpr present
      exact Or.inr (Or.inr fun content mode there => nomatch absent.symm.trans there)

variable {start : Folder} {state : Migration}

theorem sound_run (sound : Sound start state) (answers : List Answer) :
    Sound start (run step state answers) := by
  induction answers generalizing state with
  | nil => exact sound
  | cons answer rest ih => exact ih (sound_step sound answer)

theorem queue_step (finished : state.phase = .done → state.queue = []) (answer : Answer) :
    (step state answer).phase = .done → (step state answer).queue = [] := by
  obtain ⟨folder, queue, phase, migrated⟩ := state
  cases phase with
  | scan =>
    cases queue with
    | nil => exact fun _ => rfl
    | cons name rest =>
      simp only [step]
      split
      · split_ifs
        · exact nofun
        · exact nofun
        · split <;> exact nofun
      · exact nofun
      · split <;> exact nofun
  | create name updated =>
    simp only [step]
    split_ifs <;> exact nofun
  | write name updated tmp =>
    simp only [step]
    split <;> exact nofun
  | sync name updated tmp =>
    simp only [step]
    split <;> exact nofun
  | close name updated tmp =>
    simp only [step]
    split <;> exact nofun
  | chmod name updated tmp =>
    simp only [step]
    split <;> exact nofun
  | rename name updated tmp =>
    simp only [step]
    split <;> exact nofun
  | remove tmp moved => cases moved <;> exact nofun
  | failed => exact finished
  | done => exact finished

theorem queue_run (folder : Folder) (answers : List Answer)
    (done : (run step (migrateLinkFilesToPermanentMAC folder) answers).phase = .done) :
    (run step (migrateLinkFilesToPermanentMAC folder) answers).queue = [] := by
  have always : ∀ state answer, (state.phase = .done → state.queue = []) →
      ((step state answer).phase = .done → (step state answer).queue = []) := fun state answer finished =>
    queue_step finished answer
  exact run_invariant always answers (fun begun => nomatch begun) done

theorem Sound.finished (sound : Sound start state) (done : state.phase = .done)
    (empty : state.queue = []) :
    (∀ name, isLink name = true → Settled state.folder name) ∧
    ∀ name content mode, isLink name = true → start.lookup name = some (.file content mode) →
      (name ∈ state.migrated ↔ (permanentMACLinkFile content).isSome = true) := by
  have moved : state.moved = state.migrated := by simp [Migration.moved, done]
  have settled : ∀ name, isLink name = true → Settled state.folder name := by
    intro name link
    rcases sound.progress (by simp [Phase.Doomed, done]) name link with queued | ⟨_, current⟩ | clear
    · rw [empty] at queued
      cases queued
    · rw [done] at current
      cases current
    · exact clear
  refine ⟨settled, fun name content mode link source => ⟨fun member => ?_, fun becomes => ?_⟩⟩
  · obtain ⟨-, content', mode', new, old, rewritten, -⟩ := sound.rewritten name (moved ▸ member)
    cases source.symm.trans old
    exact Option.isSome_iff_exists.mpr ⟨new, rewritten⟩
  · by_contra unmoved
    have same := sound.unchanged name (moved ▸ unmoved) (Or.inl link)
    have none := settled name link content mode (same.trans source)
    rw [none] at becomes
    cases becomes

/-- A run that finds nothing to do. -/
structure Idle (folder : Folder) (state : Migration) : Prop where
  folder : state.folder = folder
  migrated : state.migrated = []
  phase : state.phase = .scan ∨ state.phase = .failed ∨ state.phase = .done

theorem idle_step {folder : Folder} (settled : ∀ name, isLink name = true → Settled folder name)
    (idle : Idle folder state) (answer : Answer) : Idle folder (step state answer) := by
  obtain ⟨current, queue, phase, migrated⟩ := state
  obtain ⟨rfl, rfl, possible⟩ := idle
  rcases possible with rfl | rfl | rfl
  · have failing : Idle current ⟨current, queue, .failed, []⟩ := ⟨rfl, rfl, Or.inr (Or.inl rfl)⟩
    cases queue with
    | nil => exact ⟨rfl, rfl, Or.inr (Or.inr rfl)⟩
    | cons name rest =>
      have passing : Idle current ⟨current, rest, .scan, []⟩ := ⟨rfl, rfl, Or.inl rfl⟩
      simp only [step]
      split
      case h_1 content mode found =>
        split_ifs with other refused
        · exact passing
        · exact failing
        · rw [settled name (by simpa using other) content mode found]
          exact passing
      case h_2 => exact passing
      case h_3 => split <;> assumption
  · exact ⟨rfl, rfl, Or.inr (Or.inl rfl)⟩
  · exact ⟨rfl, rfl, Or.inr (Or.inr rfl)⟩

theorem idle_run {folder : Folder} (settled : ∀ name, isLink name = true → Settled folder name)
    (answers : List Answer) :
    Idle folder (run step (migrateLinkFilesToPermanentMAC folder) answers) := by
  have always : ∀ state answer, Idle folder state → Idle folder (step state answer) := fun _ answer idle =>
    idle_step settled idle answer
  exact run_invariant always answers ⟨rfl, rfl, Or.inl rfl⟩

theorem tmpName_injective (name : Text) : Function.Injective (tmpName name) := by
  intro first second same
  exact decimal_inj (append_cancel_left same)

/-- Some temporary name is free. -/
theorem exists_free (folder : Folder) (name : Text) : ∃ random, folder.lookup (tmpName name random) = none := by
  obtain ⟨random, free⟩ := Infinite.exists_notMem_finset
    ((folder.keys.toFinset).preimage (tmpName name) (tmpName_injective name).injOn)
  refine ⟨random, AList.lookup_eq_none.mpr fun taken => free ?_⟩
  rw [Finset.mem_preimage, mem_toFinset]
  exact taken

theorem Sound.present (sound : Sound start state) {name : Text}
    (member : name ∈ start.keys) : state.folder.lookup name ≠ none := by
  have there : start.lookup name ≠ none := fun absent => AList.lookup_eq_none.mp absent member
  by_cases moved : name ∈ state.moved
  · obtain ⟨-, _, _, _, _, _, now⟩ := sound.rewritten name moved
    rw [now]
    exact Option.some_ne_none _
  · rw [sound.unchanged name moved (Or.inr there)]
    exact there

/-- The call succeeds, and the number drawn for a temporary file is not in use. -/
def Obliging (state : Migration) (answer : Answer) : Prop :=
  answer.granted = true ∧ ∀ name updated, state.phase = .create name updated →
    state.folder.lookup (tmpName name answer.random) = none

theorem exists_obliging (state : Migration) : ∃ answer, Obliging state answer := by
  by_cases creating : ∃ name updated, state.phase = .create name updated
  · obtain ⟨name, updated, creating⟩ := creating
    obtain ⟨random, free⟩ := exists_free state.folder name
    refine ⟨⟨true, random, 0⟩, rfl, fun other content again => ?_⟩
    cases creating.symm.trans again
    exact free
  · exact ⟨⟨true, 0, 0⟩, rfl, fun name updated again => absurd ⟨name, updated, again⟩ creating⟩

theorem exists_obliging_run (state : Migration) (count : Nat) :
    ∃ answers : List Answer, answers.length = count ∧ Guarded step Obliging state answers := by
  induction count generalizing state with
  | zero => exact ⟨[], rfl, trivial⟩
  | succ count ih =>
    obtain ⟨answer, obliging⟩ := exists_obliging state
    obtain ⟨rest, length, guarded⟩ := ih (step state answer)
    exact ⟨answer :: rest, by rw [length_cons, length], obliging, guarded⟩

def remainingCalls (state : Migration) : Nat :=
  match state.phase with
  | .scan => 8 * state.queue.length + 1
  | .create .. => 8 * state.queue.length + 8
  | .write .. => 8 * state.queue.length + 7
  | .sync .. => 8 * state.queue.length + 6
  | .close .. => 8 * state.queue.length + 5
  | .chmod .. => 8 * state.queue.length + 4
  | .rename .. => 8 * state.queue.length + 3
  | .remove .. => 8 * state.queue.length + 2
  | .failed | .done => 0

structure OnCourse (start : Folder) (state : Migration) : Prop where
  sound : Sound start state
  alive : ¬ state.phase.Doomed
  listed : ∀ name ∈ state.queue, name ∈ start.keys

theorem OnCourse.of_step (course : OnCourse start state) {answer : Answer}
    (alive : ¬ (step state answer).phase.Doomed) (shorter : (step state answer).queue <:+ state.queue) :
    OnCourse start (step state answer) :=
  ⟨sound_step course.sound answer, alive, fun name member => course.listed name (shorter.subset member)⟩

theorem scan_onCourse {folder : Folder} {queue migrated : List Text}
    (course : OnCourse start ⟨folder, queue, .scan, migrated⟩) {answer : Answer} (granted : answer.granted = true) :
    OnCourse start (step ⟨folder, queue, .scan, migrated⟩ answer) ∧
      remainingCalls (step ⟨folder, queue, .scan, migrated⟩ answer) <
        remainingCalls ⟨folder, queue, .scan, migrated⟩ := by
  cases queue with
  | nil => exact ⟨course.of_step (by simp [step, Phase.Doomed]) suffix_rfl, by simp [step, remainingCalls]⟩
  | cons name rest =>
    have present := course.sound.present (course.listed name mem_cons_self)
    have skipped : step ⟨folder, name :: rest, .scan, migrated⟩ answer = ⟨folder, rest, .scan, migrated⟩ ∨
        ∃ updated, step ⟨folder, name :: rest, .scan, migrated⟩ answer =
          ⟨folder, rest, .create name updated, migrated⟩ := by
      simp only [step]
      split
      case h_1 content mode found =>
        simp only [granted, Bool.true_eq_false, ↓reduceIte]
        split
        · exact Or.inl rfl
        · split
          · exact Or.inl rfl
          · exact Or.inr ⟨_, rfl⟩
      case h_2 => exact Or.inl rfl
      case h_3 absent => exact absurd absent present
    have rest_suffix : rest <:+ name :: rest := suffix_cons name rest
    rcases skipped with same | ⟨updated, begun⟩
    · refine ⟨course.of_step ?_ ?_, ?_⟩
      all_goals rw [same]
      · simp [Phase.Doomed]
      · exact rest_suffix
      · simp only [remainingCalls, length_cons]
        omega
    · refine ⟨course.of_step ?_ ?_, ?_⟩
      all_goals rw [begun]
      · simp [Phase.Doomed]
      · exact rest_suffix
      · simp only [remainingCalls, length_cons]
        omega

theorem onCourse_step {answer : Answer} (course : OnCourse start state)
    (obliging : Obliging state answer) (unfinished : state.phase ≠ .done) :
    OnCourse start (step state answer) ∧ remainingCalls (step state answer) < remainingCalls state := by
  obtain ⟨granted, free⟩ := obliging
  obtain ⟨folder, queue, phase, migrated⟩ := state
  cases phase with
  | scan => exact scan_onCourse course granted
  | create name updated =>
    have unused := free name updated rfl
    refine ⟨course.of_step ?_ ?_, ?_⟩ <;> simp [step, granted, unused, Phase.Doomed, remainingCalls]
  | write | sync | close | chmod | rename =>
    refine ⟨course.of_step ?_ ?_, ?_⟩ <;> simp [step, granted, Phase.Doomed, remainingCalls]
  | remove tmp moved =>
    cases moved with
    | none => exact absurd (Or.inr ⟨tmp, rfl⟩) course.alive
    | some name => refine ⟨course.of_step ?_ ?_, ?_⟩ <;> simp [step, Phase.Doomed, remainingCalls]
  | failed => exact absurd (Or.inl rfl) course.alive
  | done => exact absurd rfl unfinished

/-- A run in which all calls succeed comes to its end. -/
theorem obliging_run_finishes (folder : Folder) {answers : List Answer}
    (obliging : Guarded step Obliging (migrateLinkFilesToPermanentMAC folder) answers)
    (enough : 8 * folder.keys.length + 1 < answers.length) :
    (run step (migrateLinkFilesToPermanentMAC folder) answers).phase = .done := by
  have finished : ∀ (state : Migration) (answer : Answer), state.phase = .done → (step state answer).phase = .done := by
    intro state answer done
    simp only [step, done]
  have course : OnCourse folder (migrateLinkFilesToPermanentMAC folder) :=
    ⟨sound_start folder, by simp [Phase.Doomed, migrateLinkFilesToPermanentMAC], fun _ member => member⟩
  exact guarded_run_terminates remainingCalls finished (fun _ _ course kind going => onCourse_step course kind going)
    obliging course enough

/-- The migration of a directory of link files. -/
theorem link_migration (folder : Folder) (answers : List Answer) :
    (∀ content, (permanentMACLinkFile content).isSome = true ↔
      ∃ value, value ≠ [] ∧ matchSettings content = [some (macAddress, value)]) ∧
    (∀ content new, permanentMACLinkFile content = some new → ∃ value, Rewrites content new value) ∧
    (∀ name, isLink name = true →
      (run step (migrateLinkFilesToPermanentMAC folder) answers).folder.lookup name = folder.lookup name ∨
      Rewritten folder (run step (migrateLinkFilesToPermanentMAC folder) answers).folder name) ∧
    (∀ count, ∃ whole : List Answer, whole.length = count ∧
      Guarded step Obliging (migrateLinkFilesToPermanentMAC folder) whole) ∧
    (Guarded step Obliging (migrateLinkFilesToPermanentMAC folder) answers →
      8 * folder.keys.length + 1 < answers.length →
      (run step (migrateLinkFilesToPermanentMAC folder) answers).phase = .done) ∧
    ((run step (migrateLinkFilesToPermanentMAC folder) answers).phase = .done →
      (∀ name content mode, isLink name = true → folder.lookup name = some (.file content mode) →
        (name ∈ (run step (migrateLinkFilesToPermanentMAC folder) answers).migrated ↔
          (permanentMACLinkFile content).isSome = true) ∧
        ((permanentMACLinkFile content).isSome = true →
          Rewritten folder (run step (migrateLinkFilesToPermanentMAC folder) answers).folder name) ∧
        (permanentMACLinkFile content = none →
          (run step (migrateLinkFilesToPermanentMAC folder) answers).folder.lookup name = folder.lookup name)) ∧
      ∀ again, Idle (run step (migrateLinkFilesToPermanentMAC folder) answers).folder
        (run step (migrateLinkFilesToPermanentMAC (run step (migrateLinkFilesToPermanentMAC folder) answers).folder)
          again)) := by
  have sound := sound_run (sound_start folder) answers
  refine ⟨fun content => permanentMACLinkFile_isSome, fun content new => rewrites_of_eq_some, fun name link => ?_,
    exists_obliging_run _, fun obliging enough => obliging_run_finishes folder obliging enough, fun done => ?_⟩
  · by_cases moved : name ∈ (run step (migrateLinkFilesToPermanentMAC folder) answers).moved
    · exact Or.inr (sound.rewritten name moved).2
    · exact Or.inl (sound.unchanged name moved (Or.inl link))
  · obtain ⟨settled, exact'⟩ := sound.finished done (queue_run folder answers done)
    have moved : (run step (migrateLinkFilesToPermanentMAC folder) answers).moved =
        (run step (migrateLinkFilesToPermanentMAC folder) answers).migrated := by simp [Migration.moved, done]
    refine ⟨fun name content mode link source =>
      ⟨exact' name content mode link source, fun becomes => ?_, fun stays => ?_⟩,
      idle_run settled⟩
    · exact (sound.rewritten name (moved ▸ (exact' name content mode link source).mpr becomes)).2
    · have unmoved : name ∉ (run step (migrateLinkFilesToPermanentMAC folder) answers).migrated := fun member => by
        rw [exact' name content mode link source, stays] at member
        cases member
      exact sound.unchanged name (moved ▸ unmoved) (Or.inl link)

/-- A line without an equals sign counts as a setting, so that the only assignment is not rewritten.
-/
theorem stray_word_counts :
    (matchSettings "[Match]\nMACAddress=c8:ff:bf:0e:37:d8\nfoo\n").reduceOption =
      [(macAddress, "c8:ff:bf:0e:37:d8".toList)] ∧
    permanentMACLinkFile "[Match]\nMACAddress=c8:ff:bf:0e:37:d8\nfoo\n".toList = none := by
  decide +kernel

end Tierd.Network.LinkFiles
