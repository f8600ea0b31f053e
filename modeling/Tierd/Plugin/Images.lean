import Tierd.Data.Firsts
import Tierd.Plugin.Tables

namespace Tierd.Plugin.Images

open Tierd.Data
open Tierd.Plugin.Store (PluginTables ContainerRefRow ServiceRow)

/-- The tag or the digest decides; a bare name means the tag `latest`. -/
def normalizeImageRef (ref : Text) : Text :=
  let ref := Text.trimSpace ref
  if ref = [] then []
  else if '@' ∈ ref then ref
  else if ':' ∈ ref ∧ '/' ∉ ref.reverse.takeWhile (· ≠ ':') then ref
  else ref ++ ":latest".toList

def untagged : Text := "<none>:<none>".toList

structure ImageSummary where
  id : Text
  repoTags : List Text
  repoDigests : List Text
  created : Int
  containers : Int
deriving DecidableEq

def ImageSummary.aliases (image : ImageSummary) : List Text := image.repoTags ++ image.repoDigests

def pluginImageRefs (tables : PluginTables) : List Text :=
  firsts id [] ((((tables.containerRefs.flatMap fun row => [row.resolvedRef, row.imageRef]) ++
    tables.services.map ServiceRow.imageRef).map Text.trimSpace).filter (· ≠ []))

/-- `TrackedImageRefs`: the same references, of all plugins. -/
def trackedImageRefs (plugins : List (Text × PluginTables)) : List Text :=
  firsts id [] (((plugins.flatMap fun (_, tables) => tables.services.map ServiceRow.imageRef ++
    tables.containerRefs.map ContainerRefRow.imageRef ++ tables.containerRefs.map ContainerRefRow.resolvedRef).map
      Text.trimSpace).filter (· ≠ []))

def imageTracked (image : ImageSummary) (keep : List Text) : Bool :=
  normalizeImageRef image.id ∈ keep || image.aliases.any fun name => normalizeImageRef name ∈ keep

def mergeRows (image existing : ImageSummary) : ImageSummary :=
  { existing with
    repoTags := existing.repoTags ++ image.repoTags
    repoDigests := existing.repoDigests ++ image.repoDigests
    containers := if existing.containers < image.containers then image.containers else existing.containers
    created := if existing.created < image.created then image.created else existing.created }

def coalesceRow (out : List ImageSummary) (image : ImageSummary) : List ImageSummary :=
  if image.id ∈ out.map ImageSummary.id ∧ image.id ≠ [] then
    changeRow ImageSummary.id image.id (mergeRows image) out
  else out ++ [image]

def coalesceImagesByID (images : List ImageSummary) : List ImageSummary := images.foldl coalesceRow []

inductive CleanupError where
  | queryContainers
  | store
  | runtime
  | stillCached (id : Text)
deriving DecidableEq

/-- How the runtime and the store answer; what happens to a removal may depend on the removals
before it. -/
structure Answers where
  listsContainers : Bool
  listsPlugins : Bool
  readsRecord : Text → Bool
  listsImages : Bool
  removes : List Text → Text → Bool
  remaining : List Text → Option (List ImageSummary)
  cancelled : List Text → Bool

variable (answers : Answers)

/-- Removes one reference after the other, up to the first that fails. -/
def removeEach : List Text → List Text → List Text × Bool
  | calls, [] => (calls, true)
  | calls, ref :: rest =>
    if answers.removes calls ref then removeEach (calls ++ [ref]) rest else (calls ++ [ref], false)

/-- The references under which an image is removed. -/
def templateRefs (image : ImageSummary) : List Text :=
  firsts id [] (((image.aliases ++ [image.id]).map Text.trimSpace).filter fun ref => ref ≠ [] ∧ ref ≠ untagged)

def removeImageTemplate (calls : List Text) (image : ImageSummary) : List Text × Option CleanupError :=
  let refs := templateRefs image
  let (calls, removed) := removeEach answers calls refs
  if removed = false then (calls, some .runtime)
  else
    match answers.remaining calls with
    | none => (calls, some .runtime)
    | some others =>
      if others.any fun other => (image.id ≠ [] && other.id = image.id) || imageTracked other refs then
        (calls, some (.stillCached image.id))
      else (calls, none)

structure Pruning where
  inUse : List Text
  removed : List Text
  errors : List CleanupError
  calls : List Text
deriving DecidableEq

def isShared (image : ImageSummary) (inUse : List Text) : Bool :=
  0 < image.containers || imageTracked image inUse || normalizeImageRef image.id ∈ inUse

def pruneImage (wanted : List Text) (state : Pruning) (image : ImageSummary) : Pruning :=
  if imageTracked image wanted = false then state
  else if isShared image state.inUse then
    { state with inUse := state.inUse ++ image.aliases.map normalizeImageRef }
  else
    match removeImageTemplate answers state.calls image with
    | (calls, some error) => { state with errors := state.errors ++ [error], calls := calls }
    | (calls, none) =>
      { state with removed := state.removed ++ image.aliases.map normalizeImageRef, calls := calls }

/-- References that no listed image has. -/
def pruneRef (state : Pruning) (ref : Text) : Pruning :=
  let name := normalizeImageRef ref
  if ref = [] ∨ name ∈ state.inUse ∨ name ∈ state.removed then state
  else
    { state with
      removed := state.removed ++ [name]
      errors := state.errors ++ if answers.removes state.calls ref then [] else [.runtime]
      calls := state.calls ++ [ref] }

structure ContainerSummary where
  image : Text
  managed : Bool
deriving DecidableEq

def otherPlugins (plugins : List (Text × PluginTables)) (name : Text) : List (Text × PluginTables) :=
  plugins.filter fun plugin => plugin.1 ≠ name

def refsInUse (containers : List ContainerSummary) (plugins : List (Text × PluginTables)) (name : Text) : List Text :=
  ((containers.filter ContainerSummary.managed).map fun container => normalizeImageRef container.image).filter
    (· ≠ []) ++
    ((otherPlugins plugins name).flatMap fun plugin => pluginImageRefs plugin.2).map normalizeImageRef

def pruneUnusedImages (containers : List ContainerSummary) (plugins : List (Text × PluginTables))
    (images : List ImageSummary) (name : Text) (refs : List Text) : List CleanupError × List Text :=
  if refs = [] then ([], [])
  else if answers.listsContainers = false then ([.queryContainers], [])
  else if answers.listsPlugins = false then ([.store], [])
  else if plugins.any fun plugin => plugin.1 ≠ name && !answers.readsRecord plugin.1 then ([.store], [])
  else if answers.listsImages = false then ([.runtime], [])
  else
    let start : Pruning := ⟨refsInUse containers plugins name, [], [], []⟩
    let swept := (coalesceImagesByID images).foldl (pruneImage answers (refs.map normalizeImageRef)) start
    let final := refs.foldl (pruneRef answers) swept
    (final.errors, final.calls)

/-- Times are in nanoseconds, the creation of an image in seconds. -/
def sweepImage (keep : List Text) (minAge now : Int) (calls : List Text) (image : ImageSummary) : List Text × Bool :=
  if 0 < image.containers then (calls, false)
  else if imageTracked image keep then (calls, false)
  else if 0 < minAge ∧ 0 < image.created ∧ now - minAge < image.created * 1000000000 then (calls, false)
  else
    let (after, error) := removeImageTemplate answers calls image
    (after, error.isNone)

def sweepImages (keep : List Text) (minAge now : Int) : List Text → Nat → List ImageSummary → List Text × Nat × Bool
  | calls, removed, [] => (calls, removed, true)
  | calls, removed, image :: rest =>
    if answers.cancelled calls then (calls, removed, false)
    else
      let (after, gone) := sweepImage answers keep minAge now calls image
      sweepImages keep minAge now after (if gone then removed + 1 else removed) rest

def cleanupOrphanedImages (plugins : List (Text × PluginTables)) (images : List ImageSummary) (minAge now : Int) :
    Except CleanupError (Nat × Bool) × List Text :=
  if answers.listsImages = false then (.error .runtime, [])
  else if answers.listsPlugins = false then (.error .store, [])
  else
    let keep := ((trackedImageRefs plugins).map normalizeImageRef).filter (· ≠ [])
    let (calls, removed, ended) := sweepImages answers keep minAge now [] 0 (coalesceImagesByID images)
    (.ok (removed, ended), calls)

/-- A reference that names an image. -/
def isName (name : Text) : Bool := name ≠ [] && name ≠ untagged

def ImageSummary.names (image : ImageSummary) : List Text :=
  ((image.id :: image.aliases).map normalizeImageRef).filter isName

/-- The images of the runtime: each has an ID, a name belongs to one image, and an image of a
container is counted. -/
structure Inventory (containers : List ContainerSummary) where
  images : List ImageSummary
  identified : ∀ image ∈ images, image.id ≠ [] ∧ isName (normalizeImageRef image.id) = true
  unambiguous : ∀ image ∈ images, ∀ other ∈ images, ∀ name ∈ image.names, name ∈ other.names → image.id = other.id
  counted : ∀ container ∈ containers, ∀ image ∈ images, normalizeImageRef container.image ∈ image.names →
    ∃ row ∈ images, row.id = image.id ∧ 0 < row.containers

variable {containers : List ContainerSummary}

/-- A reference stands for the image with the ID. -/
def Inventory.Resolves (inventory : Inventory containers) (ref id : Text) : Prop :=
  ∃ image ∈ inventory.images, image.id = id ∧ normalizeImageRef ref ∈ image.names

def Inventory.InUse (inventory : Inventory containers) (plugins : List (Text × PluginTables)) (id : Text) : Prop :=
  (∃ plugin ∈ plugins, ∃ ref ∈ pluginImageRefs plugin.2, inventory.Resolves ref id) ∨
    ∃ container ∈ containers, inventory.Resolves container.image id

/-- The queries before the removals all succeed. -/
structure Answers.Complete (plugins : List (Text × PluginTables)) (name : Text) : Prop where
  seesContainers : answers.listsContainers = true
  seesPlugins : answers.listsPlugins = true
  seesRecords : ∀ plugin ∈ plugins, plugin.1 ≠ name → answers.readsRecord plugin.1 = true
  seesImages : answers.listsImages = true

/-- A reference that is the bare ID of an image in use is also a reference in use, or one of the
image's tags. -/
def Inventory.CoversIds (inventory : Inventory containers) (plugins : List (Text × PluginTables)) (name : Text)
    (refs : List Text) : Prop :=
  ∀ ref ∈ refs, ∀ image ∈ inventory.images, inventory.InUse (otherPlugins plugins name) image.id →
    normalizeImageRef ref = normalizeImageRef image.id →
      normalizeImageRef image.id ∈ refsInUse containers plugins name ∨
        ∃ row ∈ inventory.images, row.id = image.id ∧ normalizeImageRef image.id ∈ row.aliases.map normalizeImageRef

/-- None of the removals is of an image in use. -/
def Inventory.Spares (inventory : Inventory containers) (plugins : List (Text × PluginTables))
    (calls : List Text) : Prop :=
  ∀ ref ∈ calls, ∀ id, inventory.Resolves ref id → ¬ inventory.InUse plugins id

end Tierd.Plugin.Images
