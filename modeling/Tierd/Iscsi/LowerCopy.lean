import Tierd.Data.Bytes
import Tierd.Data.Runs
import Tierd.Network.Files

namespace Tierd.Iscsi.LowerCopy

open Tierd.Data

abbrev OID := BitVec 128

structure SmoothfsPool where
  name : Text
  uuid : Text
  mountpoint : Text
  tiers : List Text
deriving DecidableEq

structure TierSlot where
  name : Text
  rank : Int
deriving DecidableEq

structure MoveIntent where
  backingFile : Text
  destinationTier : Text
deriving DecidableEq

structure Site where
  pools : Except Text (List SmoothfsPool)
  slots : Text → Except Text (List TierSlot)
  parseUUID : Text → Except Text (BitVec 128)
  readBackingFileOID : Text → Except Text OID

inductive PrepareError where
  | locatePool (file reason : Text)
  | poolUUID (uuid reason : Text)
  | readOID (reason : Text)
  | emptyDestination
  | outOfRange (destination pool : Text) (tiers : Nat)
  | slotOutOfRange (destination : Text) (rank : Int) (pool : Text) (tiers : Nat)
  | notRecognized (destination pool : Text)
  | notUnderMountpoint (file mountpoint : Text)
  | indexOutOfRange (tier : Nat) (pool : Text)
deriving DecidableEq

/-- The text journaled after "prepare: ". -/
def PrepareError.message : PrepareError → String
  | .locatePool file reason => "locate smoothfs pool for " ++ String.ofList file ++ ": " ++ String.ofList reason
  | .poolUUID uuid reason => "parse pool uuid " ++ (String.ofList uuid).quote ++ ": " ++ String.ofList reason
  | .readOID reason => "read backing file oid: " ++ String.ofList reason
  | .emptyDestination => "destination_tier is empty"
  | .outOfRange destination pool tiers =>
    "destination_tier " ++ (String.ofList destination).quote ++ " out of range for pool " ++
      (String.ofList pool).quote ++ " (ntiers=" ++ toString tiers ++ ")"
  | .slotOutOfRange destination rank pool tiers =>
    "destination_tier " ++ (String.ofList destination).quote ++ " resolves to slot rank " ++ toString rank ++
      ", out of range for pool " ++ (String.ofList pool).quote ++ " (ntiers=" ++ toString tiers ++ ")"
  | .notRecognized destination pool =>
    "destination_tier " ++ (String.ofList destination).quote ++
      " not recognized; expected a 0-based index, an absolute tier path, or a tier slot name on pool " ++
      (String.ofList pool).quote
  | .notUnderMountpoint file mountpoint =>
    "backing file " ++ String.ofList file ++ " is not under pool mountpoint " ++ String.ofList mountpoint
  | .indexOutOfRange tier pool =>
    "destination tier index " ++ toString tier ++ " out of range for pool " ++ String.ofList pool

/-- `strings.TrimRight(path, "/")`. -/
def trimSlashes (path : Text) : Text := (path.reverse.dropWhile (· = Paths.slash)).reverse

def byteLength (text : Text) : Nat := (text.map Char.utf8Size).sum

def findSmoothfsPoolForBackingFile (pools : List SmoothfsPool) (path : Text) : Option SmoothfsPool :=
  let longer (found : Option SmoothfsPool) (pool : SmoothfsPool) :=
    let mountpoint := trimSlashes pool.mountpoint
    if mountpoint = [] then found
    else if path = mountpoint ∨ path.startsWith (mountpoint ++ [Paths.slash]) then
      match found with
      | none => some pool
      | some best => if byteLength best.mountpoint < byteLength mountpoint then some pool else found
    else found
  pools.foldl longer none

/-- A number, the path of a tier or the name of a slot, in this order; the index is then cut to a
byte. -/
def resolveDestinationTier (site : Site) (pool : SmoothfsPool) (destination : Text) : Except PrepareError UInt8 :=
  let dest := destination.trimSpace
  if dest = [] then .error .emptyDestination
  else
    match Network.atoi dest with
    | some n =>
      if n < 0 ∨ pool.tiers.length ≤ n then .error (.outOfRange dest pool.name pool.tiers.length)
      else .ok (UInt8.ofNat n.toNat)
    | none =>
      match pool.tiers.idxOf? dest with
      | some i => .ok (UInt8.ofNat i)
      | none =>
        match (site.slots pool.name).toOption.bind (·.find? (·.name = dest)) with
        | none => .error (.notRecognized dest pool.name)
        | some slot =>
          if slot.rank - 1 < 0 ∨ pool.tiers.length ≤ slot.rank - 1 then
            .error (.slotOutOfRange dest slot.rank pool.name pool.tiers.length)
          else .ok (UInt8.ofNat (slot.rank - 1).toNat)

def relBelow (base target : Text) : Option Text :=
  if Paths.names base <+: Paths.names target then
    match (Paths.names target).drop (Paths.names base).length with
    | [] => some ['.']
    | parts => some ([Paths.slash].intercalate parts)
  else none

/-- `filepath.Join` with an absolute first element. -/
def join (directory path : Text) : Text := Paths.clean (directory ++ Paths.slash :: path)

structure MoveContext where
  tiers : List Text
  oid : OID
  destTier : UInt8
  destLowerPath : Text
deriving DecidableEq

def prepareActiveLUNMove (site : Site) (intent : MoveIntent) : Except PrepareError MoveContext := do
  let pools ← site.pools.mapError (.locatePool intent.backingFile)
  let pool ← require (findSmoothfsPoolForBackingFile pools intent.backingFile)
    (.locatePool intent.backingFile "not found")
  let _ ← (site.parseUUID pool.uuid).mapError (.poolUUID pool.uuid)
  let oid ← (site.readBackingFileOID intent.backingFile).mapError .readOID
  let destTier ← resolveDestinationTier site pool intent.destinationTier
  let relPath ← require (relBelow pool.mountpoint intent.backingFile)
    (.notUnderMountpoint intent.backingFile pool.mountpoint)
  ensure (relPath.startsWith ".." = false) (.notUnderMountpoint intent.backingFile pool.mountpoint)
  let tier ← require pool.tiers[destTier.toNat]? (.indexOutOfRange destTier.toNat pool.name)
  return ⟨pool.tiers, oid, destTier, join tier relPath⟩

structure LowerFile where
  content : Bytes
  oid : Option OID
deriving DecidableEq

/-- Where the kernel has the object of the LUN. -/
structure KernelObject where
  currentTier : UInt8
  relPath : Text
deriving DecidableEq

def KernelObject.lowerPath (tiers : List Text) (object : KernelObject) : Option Text :=
  tiers[object.currentTier.toNat]?.map (join · object.relPath)

/-- The calls of `driveActiveLUNMove` and `copyLowerFileForActiveLUNMove`, each named by what is
next. What follows the wait touches no lower file. -/
inductive Stage where
  | openClient | unpin | plan | inspect
  | openSource | statSource | makeParent | createDest | copyBytes | syncDest | closeDest | setOID
  | cutover | waitCleanup | finished
deriving DecidableEq, Repr

/-- How a call ends: a failing copy has written `written` bytes, and a cutover whose answer is an
error may have been carried out. -/
structure Answer where
  ok : Bool
  written : Nat
  carriedOut : Bool
deriving DecidableEq

/-- The destination is truncated before the copy. -/
structure Move where
  files : Text → Option LowerFile
  object : KernelObject
  srcLowerPath : Text
  stage : Stage

def Move.started (files : Text → Option LowerFile) (object : KernelObject) : Move := ⟨files, object, [], .openClient⟩

section Steps

variable (context : MoveContext) (move : Move) (answer : Answer)

/-- On an error the executor pins the file again and journals `failed`. -/
def Move.onward (next : Stage) : Move := { move with stage := if answer.ok then next else .finished }

def Move.inspect : Move :=
  match answer.ok, move.object.lowerPath context.tiers with
  | true, some path => { move with srcLowerPath := path, stage := .openSource }
  | _, _ => { move with stage := .finished }

def Move.openSource : Move :=
  if (move.files move.srcLowerPath).isSome then move.onward answer .statSource else { move with stage := .finished }

/-- `O_CREATE|O_TRUNC`. -/
def Move.createDest : Move :=
  if answer.ok then
    { move with
      files := Function.update move.files context.destLowerPath
        (some ⟨[], (move.files context.destLowerPath).bind LowerFile.oid⟩)
      stage := .copyBytes }
  else { move with stage := .finished }

def Move.copyBytes : Move :=
  match move.files move.srcLowerPath, move.files context.destLowerPath with
  | some source, some dest =>
    let content := if answer.ok then source.content else source.content.take answer.written
    { move with
      files := Function.update move.files context.destLowerPath (some { dest with content := content })
      stage := if answer.ok then .syncDest else .finished }
  | _, _ => { move with stage := .finished }

def Move.setOID : Move :=
  match answer.ok, move.files context.destLowerPath with
  | true, some dest =>
    { move with
      files := Function.update move.files context.destLowerPath (some { dest with oid := some context.oid })
      stage := .cutover }
  | _, _ => { move with stage := .finished }

def Move.cutover : Move :=
  { move with
    object :=
      if answer.ok ∨ answer.carriedOut then { move.object with currentTier := context.destTier } else move.object
    stage := if answer.ok then .waitCleanup else .finished }

def Move.step : Move :=
  match move.stage with
  | .openClient => move.onward answer .unpin
  | .unpin => move.onward answer .plan
  | .plan => move.onward answer .inspect
  | .inspect => move.inspect context answer
  | .openSource => move.openSource answer
  | .statSource => move.onward answer .makeParent
  | .makeParent => move.onward answer .createDest
  | .createDest => move.createDest context answer
  | .copyBytes => move.copyBytes context answer
  | .syncDest => move.onward answer .closeDest
  | .closeDest => move.onward answer .setOID
  | .setOID => move.setOID context answer
  | .cutover => move.cutover context answer
  | .waitCleanup => { move with stage := .finished }
  | .finished => move

end Steps

def contentAt (files : Text → Option LowerFile) (path : Text) : Option Bytes := (files path).map LowerFile.content

/-- The LUN is complete where the kernel has it, and a cutover is asked for only when the
destination is complete and carries the object's identity. -/
structure Move.Keeps (context : MoveContext) (content : Bytes) (move : Move) : Prop where
  complete : ∃ path, move.object.lowerPath context.tiers = some path ∧ contentAt move.files path = some content
  prepared : move.stage = .cutover → move.files context.destLowerPath = some ⟨content, some context.oid⟩

/-- The condition: the copy does not go onto its source, and the file the kernel has after the
cutover is the one that was copied to, or held the content before. -/
structure Apart (context : MoveContext) (files : Text → Option LowerFile) (object : KernelObject)
    (content : Bytes) : Prop where
  source : object.lowerPath context.tiers = some context.destLowerPath → content = []
  destination : ∃ path, { object with currentTier := context.destTier }.lowerPath context.tiers = some path ∧
    (path = context.destLowerPath ∨ contentAt files path = some content)

/-- The stages in which the destination holds the content of the source. -/
def Stage.copied : Stage → Bool
  | .syncDest | .closeDest | .setOID | .cutover => true
  | _ => false

def Stage.ended : Stage → Bool
  | .waitCleanup | .finished => true
  | _ => false

def Stage.hasSource : Stage → Bool
  | .openClient | .unpin | .plan | .inspect | .waitCleanup | .finished => false
  | _ => true

structure Move.Sound (context : MoveContext) (files : Text → Option LowerFile) (object : KernelObject) (source : Text)
    (content : Bytes) (move : Move) : Prop where
  others : ∀ path, path ≠ context.destLowerPath → move.files path = files path
  intact : contentAt move.files source = some content
  src : move.stage.hasSource = true → move.srcLowerPath = source
  copied : move.stage.copied = true → contentAt move.files context.destLowerPath = some content
  identified : move.stage = .cutover → move.files context.destLowerPath = some ⟨content, some context.oid⟩
  object : move.object = object ∨
    move.object = { object with currentTier := context.destTier } ∧
      contentAt move.files context.destLowerPath = some content ∧ move.stage.ended = true

section Preservation

variable {context : MoveContext} {files : Text → Option LowerFile} {object : KernelObject} {source : Text}
  {content : Bytes} {move : Move} {answer : Answer}

theorem Move.Sound.object_eq (sound : move.Sound context files object source content)
    (active : move.stage.ended = false) : move.object = object := by
  rcases sound.object with same | ⟨-, -, ended⟩
  · exact same
  · exact absurd (active.symm.trans ended) Bool.false_ne_true

theorem Move.Sound.goto {next : Stage} (sound : move.Sound context files object source content)
    (src : next.hasSource = true → move.srcLowerPath = source)
    (copied : next.copied = true → contentAt move.files context.destLowerPath = some content)
    (before : next ≠ .cutover) (unmoved : move.stage.ended = false ∨ next.ended = true) :
    { move with stage := next }.Sound context files object source content := by
  refine ⟨sound.others, sound.intact, src, copied, fun reached => absurd reached before, ?_⟩
  rcases unmoved with active | ended
  · exact .inl (sound.object_eq active)
  · rcases sound.object with same | ⟨moved, complete, -⟩
    · exact .inl same
    · exact .inr ⟨moved, complete, ended⟩

theorem Move.Sound.finish (sound : move.Sound context files object source content) :
    { move with stage := .finished }.Sound context files object source content :=
  sound.goto nofun nofun nofun (.inr rfl)

theorem Move.Sound.onward {next : Stage} (sound : move.Sound context files object source content)
    (src : next.hasSource = true → move.stage.hasSource = true)
    (copied : next.copied = true → move.stage.copied = true) (before : next ≠ .cutover)
    (active : move.stage.ended = false) : (move.onward answer next).Sound context files object source content := by
  simp only [Move.onward]
  split
  · exact sound.goto (fun needed => sound.src (src needed)) (fun needed => sound.copied (copied needed)) before
      (.inl active)
  · exact sound.finish

theorem contentAt_update_ne {path dest : Text} {file : Option LowerFile} (differs : path ≠ dest) :
    contentAt (Function.update files dest file) path = contentAt files path := by
  simp only [contentAt, Function.update_of_ne differs]

theorem Move.Sound.write {next : Stage} {file : LowerFile} (sound : move.Sound context files object source content)
    (active : move.stage.ended = false) (src : move.stage.hasSource = true)
    (same : source = context.destLowerPath → file.content = content)
    (copied : next.copied = true → file.content = content)
    (identified : next = .cutover → file = ⟨content, some context.oid⟩) :
    Move.Sound context files object source content
      { move with files := Function.update move.files context.destLowerPath (some file), stage := next } := by
  refine ⟨fun path differs => ?_, ?_, fun _ => sound.src src, fun done => ?_, fun reached => ?_,
    .inl (sound.object_eq active)⟩
  · rw [← sound.others path differs]
    exact Function.update_of_ne differs _ _
  · by_cases onto : source = context.destLowerPath
    · simp [onto, contentAt, same onto]
    · rw [contentAt_update_ne onto]
      exact sound.intact
  · simp [contentAt, copied done]
  · simp [identified reached]

theorem Move.Sound.step (sound : move.Sound context files object source content)
    (placed : object.lowerPath context.tiers = some source)
    (apart : source = context.destLowerPath → content = []) :
    (move.step context answer).Sound context files object source content := by
  cases stage : move.stage with
  | openClient | unpin | plan | statSource | makeParent =>
    simp only [Move.step, stage]
    exact sound.onward (by rw [stage]; decide) nofun nofun (by rw [stage]; rfl)
  | syncDest | closeDest =>
    simp only [Move.step, stage]
    exact sound.onward (by rw [stage]; decide) (by rw [stage]; decide) nofun (by rw [stage]; rfl)
  | inspect =>
    have unmoved := sound.object_eq (by rw [stage]; rfl)
    have current : move.object.lowerPath context.tiers = some source := unmoved ▸ placed
    simp only [Move.step, stage, Move.inspect, current]
    split
    · next path found =>
        cases found
        exact ⟨sound.others, sound.intact, fun _ => rfl, nofun, nofun, .inl unmoved⟩
    · exact sound.finish
  | openSource =>
    simp only [Move.step, stage, Move.openSource]
    split
    · exact sound.onward (by rw [stage]; decide) nofun nofun (by rw [stage]; rfl)
    · exact sound.finish
  | createDest =>
    simp only [Move.step, stage, Move.createDest]
    split
    · exact sound.write (by rw [stage]; rfl) (by rw [stage]; rfl) (fun onto => (apart onto).symm) nofun nofun
    · exact sound.finish
  | copyBytes =>
    have src := sound.src (by rw [stage]; rfl)
    simp only [Move.step, stage, Move.copyBytes]
    split
    · next original dest found _ =>
        rw [src] at found
        have whole : original.content = content := by simpa [contentAt, found] using sound.intact
        refine sound.write (by rw [stage]; rfl) (by rw [stage]; rfl) (fun onto => ?_) (fun done => ?_) ?_
        · simp [whole, apart onto]
        · split at done
          · simp [*]
          · cases done
        · split <;> exact nofun
    · exact sound.finish
  | setOID =>
    simp only [Move.step, stage, Move.setOID]
    split
    · next dest _ found =>
        have whole : dest.content = content := by
          simpa [contentAt, found] using sound.copied (by rw [stage]; rfl)
        exact sound.write (by rw [stage]; rfl) (by rw [stage]; rfl) (fun _ => whole) (fun _ => whole)
          (fun _ => by rw [whole])
    · exact sound.finish
  | cutover =>
    have unmoved := sound.object_eq (by rw [stage]; rfl)
    have complete := sound.copied (by rw [stage]; rfl)
    simp only [Move.step, stage, Move.cutover, unmoved]
    obtain ⟨ok, written, carriedOut⟩ := answer
    cases ok with
    | true => exact ⟨sound.others, sound.intact, nofun, nofun, nofun, .inr ⟨rfl, complete, rfl⟩⟩
    | false =>
      refine ⟨sound.others, sound.intact, nofun, nofun, nofun, ?_⟩
      cases carriedOut with
      | true => exact .inr ⟨rfl, complete, rfl⟩
      | false => exact .inl rfl
  | waitCleanup =>
    simp only [Move.step, stage]
    exact sound.finish
  | finished =>
    simp only [Move.step, stage]
    exact sound

theorem Move.Sound.keeps (sound : move.Sound context files object source content)
    (placed : object.lowerPath context.tiers = some source) (apart : Apart context files object content) :
    move.Keeps context content := by
  refine ⟨?_, sound.identified⟩
  rcases sound.object with same | ⟨moved, complete, -⟩
  · exact ⟨source, same ▸ placed, sound.intact⟩
  · obtain ⟨path, current, held⟩ := apart.destination
    refine ⟨path, moved ▸ current, ?_⟩
    by_cases copied : path = context.destLowerPath
    · rw [copied]
      exact complete
    · rw [contentAt, sound.others path copied]
      exact held.resolve_left copied

def succeeds : Answer := ⟨true, 0, true⟩

def truncated (files : Text → Option LowerFile) (dest : Text) : Text → Option LowerFile :=
  Function.update files dest (some ⟨[], (files dest).bind LowerFile.oid⟩)

/-- Up to the truncation of the destination. -/
theorem run_createDest (placed : object.lowerPath context.tiers = some source) (present : (files source).isSome) :
    run (Move.step context) (Move.started files object) (List.replicate 8 succeeds) =
      ⟨truncated files context.destLowerPath, object, source, .copyBytes⟩ := by
  simp [List.replicate, Move.started, Move.step, Move.onward, succeeds, Move.inspect, placed, Move.openSource, present,
    Move.createDest, truncated]

theorem run_cutover (placed : object.lowerPath context.tiers = some source) (present : (files source).isSome) :
    (run (Move.step context) (Move.started files object) (List.replicate 13 succeeds)).object =
      { object with currentTier := context.destTier } := by
  have parts : List.replicate 13 succeeds = List.replicate 8 succeeds ++ List.replicate 5 succeeds := rfl
  have readable : (truncated files context.destLowerPath source).isSome := by
    simp only [truncated, Function.update_apply]
    split
    · rfl
    · exact present
  obtain ⟨original, found⟩ := Option.isSome_iff_exists.mp readable
  have opened : truncated files context.destLowerPath context.destLowerPath =
      some ⟨[], (files context.destLowerPath).bind LowerFile.oid⟩ := Function.update_self ..
  rw [parts, run_append, run_createDest placed present]
  simp [List.replicate, Move.step, Move.onward, succeeds, Move.copyBytes, found, opened, Move.setOID, Move.cutover]

theorem run_sound (placed : object.lowerPath context.tiers = some source)
    (held : files source = some ⟨content, some context.oid⟩) (apart : source = context.destLowerPath → content = [])
    (answers : List Answer) :
    (run (Move.step context) (Move.started files object) answers).Sound context files object source content := by
  have started : (Move.started files object).Sound context files object source content :=
    ⟨fun _ _ => rfl, by simp [Move.started, contentAt, held], nofun, nofun, nofun, .inl rfl⟩
  exact run_invariant (fun _ _ sound => sound.step placed apart) answers started

theorem apart_of_keeps (placed : object.lowerPath context.tiers = some source)
    (held : files source = some ⟨content, some context.oid⟩)
    (keeps : ∀ answers, (run (Move.step context) (Move.started files object) answers).Keeps context content) :
    Apart context files object content := by
  have present : (files source).isSome := by rw [held]; rfl
  have apart : source = context.destLowerPath → content = [] := by
    intro onto
    obtain ⟨path, current, complete⟩ := (keeps (List.replicate 8 succeeds)).complete
    rw [run_createDest placed present] at current complete
    obtain rfl : source = path := Option.some.inj (placed.symm.trans current)
    simpa [onto, contentAt, truncated] using complete.symm
  refine ⟨fun onto => apart (Option.some.inj (placed.symm.trans onto)), ?_⟩
  obtain ⟨path, current, complete⟩ := (keeps (List.replicate 13 succeeds)).complete
  rw [run_cutover placed present] at current
  refine ⟨path, current, ?_⟩
  by_cases copied : path = context.destLowerPath
  · exact .inl copied
  · rw [contentAt, (run_sound placed held apart (List.replicate 13 succeeds)).others path copied] at complete
    exact .inr complete

end Preservation

/-- For every file and kernel object, every answer to every call and every number of steps. -/
theorem move_keeps_lun_iff_apart (context : MoveContext) (files : Text → Option LowerFile) (object : KernelObject)
    (content : Bytes) (source : Text) (placed : object.lowerPath context.tiers = some source)
    (held : files source = some ⟨content, some context.oid⟩) :
    (∀ answers, (run (Move.step context) (Move.started files object) answers).Keeps context content) ↔
      Apart context files object content := by
  constructor
  · exact apart_of_keeps placed held
  · intro apart answers
    have sound := run_sound placed held (fun onto => apart.source (onto ▸ placed)) answers
    exact sound.keeps placed apart

/-- A pool of two tiers, mounted at `/mnt/media`. -/
def twoTiers : Site where
  pools := .ok [⟨"media", "u", "/mnt/media", ["/mnt/fast", "/mnt/slow"]⟩]
  slots := fun _ => .ok []
  parseUUID := fun _ => .ok 1
  readBackingFileOID := fun _ => .ok 7

def toTier (tier : Text) : MoveIntent := ⟨"/mnt/media/lun0.img", tier⟩

/-- The LUN on the fast tier, and nothing else. -/
def fastOnly (path : Text) : Option LowerFile :=
  if path = "/mnt/fast/lun0.img" then some ⟨[1, 2, 3], some 7⟩ else none

def onFast : KernelObject := ⟨0, "lun0.img"⟩

def contextTo (tier : UInt8) (path : Text) : MoveContext := ⟨["/mnt/fast", "/mnt/slow"], 7, tier, path⟩

theorem move_to_slow_keeps_lun :
    (prepareActiveLUNMove twoTiers (toTier "1") = .ok (contextTo 1 "/mnt/slow/lun0.img") ∧
      onFast.lowerPath (contextTo 1 "/mnt/slow/lun0.img").tiers = some "/mnt/fast/lun0.img".toList ∧
      fastOnly "/mnt/fast/lun0.img" = some ⟨[1, 2, 3], some 7⟩) ∧
      ∀ answers, (run (Move.step (contextTo 1 "/mnt/slow/lun0.img")) (Move.started fastOnly onFast)
        answers).Keeps (contextTo 1 "/mnt/slow/lun0.img") [1, 2, 3] :=
  have placed : onFast.lowerPath (contextTo 1 "/mnt/slow/lun0.img").tiers =
      some "/mnt/fast/lun0.img".toList := by decide
  have held : fastOnly "/mnt/fast/lun0.img" = some ⟨[1, 2, 3], some 7⟩ := if_pos rfl
  ⟨⟨by decide, placed, held⟩, (move_keeps_lun_iff_apart _ fastOnly onFast [1, 2, 3] _ placed held).mpr
    ⟨fun onto => absurd onto (by decide), "/mnt/slow/lun0.img", by decide, .inl rfl⟩⟩

/-- A move to the tier the LUN is on truncates it, and the cutover is asked for. -/
theorem move_to_own_tier_destroys_lun :
    prepareActiveLUNMove twoTiers (toTier "0") = .ok (contextTo 0 "/mnt/fast/lun0.img") ∧
      contentAt (run (Move.step (contextTo 0 "/mnt/fast/lun0.img")) (Move.started fastOnly onFast)
        (List.replicate 12 succeeds)).files "/mnt/fast/lun0.img" = some [] ∧
      (run (Move.step (contextTo 0 "/mnt/fast/lun0.img")) (Move.started fastOnly onFast)
        (List.replicate 12 succeeds)).stage = .cutover := by
  decide

end Tierd.Iscsi.LowerCopy
