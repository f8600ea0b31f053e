import Tierd.Data.Guards
import Tierd.Data.Runs
import Tierd.Data.Segments

namespace Tierd.Plugin.Catalog

open Tierd.Data List

abbrev Version := ℕ ×ₗ ℕ ×ₗ ℕ

def parseComponent (text : Text) : Option Nat :=
  if text = [] ∨ 9 < text.length ∨ text.all Char.isDigit = false then none else some (Nat.ofDigitChars 10 text 0)

def parseSemver (tag : Text) : Option Version :=
  match (Text.trimPrefix (Text.trimSpace tag) ['v']).splitOn '.' with
  | [major, minor, patch] => do
      let a ← parseComponent major
      let b ← parseComponent minor
      let c ← parseComponent patch
      return toLex (a, toLex (b, c))
  | _ => none

/-- The components are compared one after the other. -/
def tagIsNewer (tag other : Text) : Bool :=
  match parseSemver tag, parseSemver other with
  | some version, some base =>
    let (a, rest) := ofLex version
    let (b, c) := ofLex rest
    let (a', rest') := ofLex base
    let (b', c') := ofLex rest'
    if a ≠ a' then a > a' else if b ≠ b' then b > b' else if c ≠ c' then c > c' else false
  | _, _ => false

def Newer (tag other : Text) : Prop :=
  ∃ version base, parseSemver tag = some version ∧ parseSemver other = some base ∧ base < version

theorem tagIsNewer_iff (tag other : Text) : tagIsNewer tag other = true ↔ Newer tag other := by
  unfold tagIsNewer Newer
  cases parseSemver tag with
  | none => simp
  | some version =>
    cases parseSemver other with
    | none => simp
    | some base =>
      simp only [Option.some.injEq, exists_and_left, exists_eq_left', Prod.Lex.lt_iff]
      split_ifs <;> simp <;> omega

/-- What is used of manifests: how they are read from their text and checked, and how they appear in
a response. -/
structure Format (Manifest View : Type) where
  parseManifest : Text → Option Manifest
  validateManifest : Manifest → Bool
  isCompose : Manifest → Bool
  version : Manifest → Text
  withVersion : Manifest → Text → Manifest
  toJSON : Manifest → View

variable {Manifest View : Type}

def stampComposeVersion (format : Format Manifest View) (tag : Text) (manifest : Manifest) : Manifest :=
  if format.isCompose manifest ∧ format.version manifest = [] then
    format.withVersion manifest (Text.trimPrefix (Text.trimPrefix tag ['v']) ['V'])
  else manifest

structure CatalogManifest (View : Type) where
  assetName : Text
  downloadURL : Text
  manifestYAML : Text
  manifest : View

inductive Source
  | builtin
  | github
  | other (text : Text)
  deriving DecidableEq

structure Response (View : Type) where
  repo : Text
  tagName : Text
  releaseURL : Text
  manifests : List (CatalogManifest View)
  source : Source

def CatalogManifest.Sound (format : Format Manifest View) (tag : Text) (entry : CatalogManifest View) : Prop :=
  ∃ manifest, format.parseManifest entry.manifestYAML = some manifest ∧ format.validateManifest manifest = true ∧
    entry.manifest = format.toJSON (stampComposeVersion format tag manifest)

structure Asset where
  name : Text
  url : Text
  body : Option Text

def readAsset (format : Format Manifest View) (tag : Text) (asset : Asset) : Option (CatalogManifest View) := do
  let body ← asset.body
  let manifest ← format.parseManifest body
  if format.validateManifest manifest then
    return ⟨asset.name, asset.url, body, format.toJSON (stampComposeVersion format tag manifest)⟩
  else none

structure Release where
  repo : Text
  tagName : Text
  url : Text
  assets : List Asset

def readRelease (format : Format Manifest View) (source : Source) (release : Release) : Option (Response View) :=
  if release.assets = [] then none
  else (release.assets.mapM (readAsset format release.tagName)).map fun manifests =>
    ⟨release.repo, release.tagName, release.url, manifests, source⟩

structure CacheRow where
  tagName : Text
  response : Text
  fetchedAt : Int

/-- How responses are written into a row and read back. A response is read back as it was written if
its parsed manifests are ones that the program writes. -/
structure Coding (format : Format Manifest View) where
  encode : Response View → Text
  decode : Text → Option (Response View)
  roundTrip : ∀ response, (∀ entry ∈ response.manifests, ∃ manifest, entry.manifest = format.toJSON manifest) →
    decode (encode response) = some response

variable {format : Format Manifest View}

/-- Only the texts are looked at. -/
def catalogResponseManifestsValid (format : Format Manifest View) (response : Response View) : Bool :=
  response.manifests.all fun entry =>
    match format.parseManifest entry.manifestYAML with
    | none => false
    | some manifest => format.validateManifest manifest

/-- The response in a row, if it passes the checks. -/
def freshResponse (coding : Coding format) (floor : Response View) (row : CacheRow) : Option (Response View) :=
  if tagIsNewer row.tagName floor.tagName = false then none
  else
    match coding.decode row.response with
    | none => none
    | some fresh =>
      if fresh.source = .github ∧ fresh.manifests ≠ [] ∧ catalogResponseManifestsValid format fresh = true then
        some fresh
      else none

/-- The row is absent where it could not be read. -/
def chooseResponse (coding : Coding format) (floor : Response View) (row : Option CacheRow) : Response View :=
  ((row.bind (freshResponse coding floor)).getD floor)

/-- `strings.ToLower` on names of repositories. -/
def lower (repo : Text) : Text := repo.map Char.toLower

/-- A snapshot that cannot be read makes the whole catalog unavailable. -/
def parseBuiltinCatalog (format : Format Manifest View) (index : List Release) :
    Option (List (Text × Response View)) := do
  let entries ← index.mapM fun release => (readRelease format .builtin release).map fun floor =>
    (lower release.repo, floor)
  if (entries.map Prod.fst).Nodup then return entries else none

def builtinCatalogFor (format : Format Manifest View) (index : List Release) (repo : Text) :
    Option (Response View) := do
  let entries ← parseBuiltinCatalog format index
  entries.lookup (lower (Text.trimSpace repo))

structure Refresh where
  repo : Text
  stored : Bool

structure World where
  cache : Text → Option CacheRow
  inflight : Text → Bool
  running : List Refresh

inductive Event
  /-- A request got to `triggerBundledRefresh` with the row it saw. -/
  | trigger (repo : Text) (seen : Option CacheRow) (now : Int)
  /-- The release that a refresh fetched, if any, is written. -/
  | store (position : Nat) (release : Option Release) (now : Int) (granted : Bool)
  /-- A refresh returns. -/
  | finish (position : Nat)
  /-- A row is written or removed by something else. -/
  | write (key : Text) (row : Option CacheRow)

def bundledCatalogRefreshTTL : Int := 6 * 3600 * 10 ^ 9

def second : Int := 10 ^ 9

def freshEnough (seen : Option CacheRow) (now : Int) : Bool :=
  match seen with
  | none => false
  | some row => now - row.fetchedAt * second < bundledCatalogRefreshTTL

/-- The row that a refresh writes. -/
def refreshedRow (coding : Coding format) (release : Release) (now : Int) : Option CacheRow :=
  (readRelease format .github release).map fun response => ⟨response.tagName, coding.encode response, now / second⟩

def step (coding : Coding format) (enabled : Bool) (world : World) : Event → World
  | .trigger repo seen now =>
    if enabled = false ∨ freshEnough seen now ∨ world.inflight (lower repo) then world
    else { world with
      inflight := Function.update world.inflight (lower repo) true
      running := world.running ++ [⟨repo, false⟩] }
  | .store position release now granted =>
    match world.running[position]? with
    | some ⟨repo, false⟩ =>
      let row := if granted then release.bind (refreshedRow coding · now) else none
      { world with
        cache := if row.isSome then Function.update world.cache (lower repo) row else world.cache
        running := world.running.set position ⟨repo, true⟩ }
    | _ => world
  | .finish position =>
    match world.running[position]? with
    | some ⟨repo, true⟩ =>
      { world with
        inflight := Function.update world.inflight (lower repo) false
        running := world.running.eraseIdx position }
    | _ => world
  | .write key row => { world with cache := Function.update world.cache key row }

def boot (cache : Text → Option CacheRow) : World := ⟨cache, fun _ => false, []⟩

def catalogLatestForBundled (coding : Coding format) (index : List Release) (world : World) (repo : Text)
    (readable : Bool) :
    Option (Response View) :=
  (builtinCatalogFor format index repo).map fun floor =>
    chooseResponse coding floor (if readable then world.cache (lower repo) else none)

/-- The repositories that are being refreshed. -/
def World.keys (world : World) : List Text := world.running.map fun refresh => lower refresh.repo

/-- The guard counts the refreshes. -/
def Counted (world : World) : Prop := ∀ key, world.keys.count key = if world.inflight key then 1 else 0

variable {coding : Coding format}

theorem counted_step {enabled : Bool} {world : World} (counted : Counted world) (event : Event) :
    Counted (step coding enabled world event) := by
  cases event with
  | write key row => exact counted
  | trigger repo seen now =>
    simp only [step]
    split
    case isTrue => exact counted
    case isFalse free =>
      have idle : world.inflight (lower repo) = false := by
        have parts := not_or.mp (not_or.mp free).2
        simpa using parts.2
      intro key
      have before := counted key
      simp only [World.keys, map_append, map_singleton, count_append, count_singleton] at before ⊢
      rw [before]
      by_cases same : key = lower repo
      · subst same
        simp [idle]
      · simp [Function.update_of_ne same, Ne.symm same]
  | store position release now granted =>
    simp only [step]
    split
    case h_1 repo found =>
      have keys : (world.running.set position ⟨repo, true⟩).map (fun refresh => lower refresh.repo) = world.keys := by
        rw [map_set]
        refine ext_getElem? fun i => ?_
        rw [List.getElem?_set]
        split
        case isTrue same =>
          subst same
          obtain ⟨bound, -⟩ := List.getElem?_eq_some_iff.mp found
          rw [if_pos (by simpa using bound)]
          simp [World.keys, found]
        case isFalse => rfl
      intro key
      exact (congrArg (List.count key) keys).trans (counted key)
    case h_2 => exact counted
  | finish position =>
    simp only [step]
    split
    case h_1 repo found =>
      obtain ⟨bound, here⟩ := List.getElem?_eq_some_iff.mp found
      have perm := (getElem_cons_eraseIdx_perm bound).map fun refresh => lower refresh.repo
      rw [here, map_cons] at perm
      intro key
      have before := counted key
      rw [World.keys, ← perm.count_eq, count_cons] at before
      simp only [World.keys]
      by_cases same : key = lower repo
      · subst same
        simp only [beq_self_eq_true, if_true] at before
        simp only [Function.update_self, Bool.false_eq_true, if_false]
        split at before <;> omega
      · simp only [Function.update_of_ne same]
        simpa [Ne.symm same] using before
    case h_2 => exact counted

theorem counted_run (coding : Coding format) (enabled : Bool) (cache : Text → Option CacheRow) (events : List Event) :
    Counted (run (step coding enabled) (boot cache) events) := by
  have always : ∀ world event, Counted world → Counted (step coding enabled world event) := fun _ event counted =>
    counted_step counted event
  exact run_invariant always events fun _ => rfl

structure Response.Sound (format : Format Manifest View) (response floor : Response View) : Prop where
  newer : response = floor ∨ Newer response.tagName floor.tagName
  manifests : ∀ entry ∈ response.manifests, entry.Sound format response.tagName

theorem readAsset_sound {tag : Text} {asset : Asset} {entry : CatalogManifest View}
    (read : readAsset format tag asset = some entry) : entry.Sound format tag := by
  simp only [readAsset, bind, Option.bind_eq_some_iff] at read
  obtain ⟨body, -, manifest, parsed, checked⟩ := read
  split at checked
  case isTrue valid =>
    obtain rfl := Option.some.inj checked
    exact ⟨manifest, parsed, valid, rfl⟩
  case isFalse => cases checked

theorem exists_of_mem_mapM {α β : Type} {f : α → Option β} {items : List α} {results : List β}
    (all : items.mapM f = some results) {result : β} (member : result ∈ results) :
    ∃ item ∈ items, f item = some result := by
  induction items generalizing results with
  | nil =>
    obtain rfl : results = [] := by simpa using all.symm
    cases member
  | cons first rest ih =>
    simp only [mapM_cons, bind, Option.bind_eq_some_iff] at all
    obtain ⟨head, here, tail, there, same⟩ := all
    obtain rfl : head :: tail = results := Option.some.inj same
    rcases mem_cons.mp member with rfl | later
    · exact ⟨first, mem_cons_self, here⟩
    · obtain ⟨item, inside, one⟩ := ih there later
      exact ⟨item, mem_cons_of_mem first inside, one⟩

theorem readRelease_eq_some {source : Source} {release : Release} {response : Response View}
    (read : readRelease format source release = some response) :
    response.source = source ∧ ∀ entry ∈ response.manifests, entry.Sound format response.tagName := by
  unfold readRelease at read
  split at read
  case isTrue => cases read
  case isFalse =>
    obtain ⟨manifests, all, rfl⟩ := Option.map_eq_some_iff.mp read
    refine ⟨rfl, fun entry member => ?_⟩
    obtain ⟨asset, -, one⟩ := exists_of_mem_mapM all member
    exact readAsset_sound one

theorem builtinCatalogFor_eq_some {index : List Release} {repo : Text} {floor : Response View}
    (bundled : builtinCatalogFor format index repo = some floor) :
    floor.source = .builtin ∧ ∀ entry ∈ floor.manifests, entry.Sound format floor.tagName := by
  simp only [builtinCatalogFor, parseBuiltinCatalog, bind, Option.bind_eq_some_iff] at bundled
  obtain ⟨entries, ⟨parsed, all, distinct⟩, found⟩ := bundled
  split at distinct
  case isFalse => cases distinct
  case isTrue =>
    obtain rfl := Option.some.inj distinct
    obtain ⟨before, after, rfl, -⟩ := lookup_eq_some_iff.mp found
    obtain ⟨release, -, one⟩ := exists_of_mem_mapM all (mem_append_right before mem_cons_self)
    obtain ⟨response, read, same⟩ := Option.map_eq_some_iff.mp one
    obtain ⟨-, rfl⟩ := Prod.mk.inj same
    exact readRelease_eq_some read

/-- A row whose response, if it passes the checks of the handler, is newer than the floor by its own
tag and has the parsed forms of its texts. -/
def CacheRow.Honest (coding : Coding format) (floor : Response View) (row : CacheRow) : Prop :=
  ∀ fresh, coding.decode row.response = some fresh → Newer row.tagName floor.tagName → fresh.source = .github →
    fresh.manifests ≠ [] → catalogResponseManifestsValid format fresh = true →
    Newer fresh.tagName floor.tagName ∧ ∀ entry ∈ fresh.manifests, entry.Sound format fresh.tagName

theorem freshResponse_eq_some {floor fresh : Response View} {row : CacheRow} :
    freshResponse coding floor row = some fresh ↔
      coding.decode row.response = some fresh ∧ Newer row.tagName floor.tagName ∧ fresh.source = .github ∧
        fresh.manifests ≠ [] ∧ catalogResponseManifestsValid format fresh = true := by
  unfold freshResponse
  rw [← tagIsNewer_iff]
  cases newer : tagIsNewer row.tagName floor.tagName with
  | false => simp
  | true =>
    cases coding.decode row.response with
    | none => simp
    | some decoded =>
      simp only [Bool.true_eq_false, if_false, Option.some.injEq, true_and]
      split
      case isTrue passes =>
        rw [Option.some.injEq]
        exact ⟨fun same => ⟨same, same ▸ passes⟩, And.left⟩
      case isFalse fails =>
        refine iff_of_false nofun ?_
        rintro ⟨rfl, passes⟩
        exact fails passes

theorem chooseResponse_sound_iff {floor : Response View} (builtin : floor.source = .builtin)
    (checked : ∀ entry ∈ floor.manifests, entry.Sound format floor.tagName) (row : Option CacheRow) :
    (chooseResponse coding floor row).Sound format floor ↔ ∀ stored, row = some stored →
      stored.Honest coding floor := by
  have safe : floor.Sound format floor := ⟨Or.inl rfl, checked⟩
  cases row with
  | none => exact iff_of_true safe nofun
  | some stored =>
    have only : (∀ other, some stored = some other → other.Honest coding floor) ↔ stored.Honest coding floor :=
      ⟨fun all => all stored rfl, fun honest other same => Option.some.inj same ▸ honest⟩
    rw [only]
    cases chosen : freshResponse coding floor stored with
    | none =>
      have floorServed : chooseResponse coding floor (some stored) = floor := by simp [chooseResponse, chosen]
      rw [floorServed]
      refine iff_of_true safe fun fresh decoded newer source nonempty valid => ?_
      rw [freshResponse_eq_some.mpr ⟨decoded, newer, source, nonempty, valid⟩] at chosen
      cases chosen
    | some fresh =>
      have freshServed : chooseResponse coding floor (some stored) = fresh := by simp [chooseResponse, chosen]
      obtain ⟨decoded, newer, source, nonempty, valid⟩ := freshResponse_eq_some.mp chosen
      rw [freshServed]
      constructor
      · intro sound other again _ _ _ _
        obtain rfl := Option.some.inj (decoded.symm.trans again)
        refine ⟨sound.newer.resolve_left fun same => ?_, sound.manifests⟩
        rw [same, builtin] at source
        cases source
      · intro honest
        obtain ⟨own, parsed⟩ := honest fresh decoded newer source nonempty valid
        exact ⟨Or.inr own, parsed⟩

theorem refreshedRow_honest {release : Release} {now : Int} {row : CacheRow}
    (refreshed : refreshedRow coding release now = some row) (floor : Response View) : row.Honest coding floor := by
  obtain ⟨response, read, rfl⟩ := Option.map_eq_some_iff.mp refreshed
  obtain ⟨-, parsed⟩ := readRelease_eq_some read
  have back : coding.decode (coding.encode response) = some response := coding.roundTrip response fun entry member => by
    obtain ⟨manifest, -, -, view⟩ := parsed entry member
    exact ⟨_, view⟩
  intro fresh decoded newer _ _ _
  obtain rfl : response = fresh := Option.some.inj (back.symm.trans decoded)
  exact ⟨newer, parsed⟩

def AllHonest (coding : Coding format) (index : List Release) (cache : Text → Option CacheRow) : Prop :=
  ∀ repo floor row, builtinCatalogFor format index repo = some floor → cache (lower repo) = some row →
    row.Honest coding floor

def HonestWrite (coding : Coding format) (index : List Release) (_ : World) : Event → Prop
  | .write key row => ∀ repo floor stored, lower repo = key → builtinCatalogFor format index repo = some floor →
      row = some stored → stored.Honest coding floor
  | _ => True

theorem honest_update {index : List Release} {cache : Text → Option CacheRow} {key : Text}
    {row : Option CacheRow} (honest : AllHonest coding index cache)
    (written : ∀ repo floor stored, lower repo = key → builtinCatalogFor format index repo = some floor →
      row = some stored → stored.Honest coding floor) :
    AllHonest coding index (Function.update cache key row) := by
  intro repo floor stored bundled found
  by_cases same : lower repo = key
  · subst same
    rw [Function.update_self] at found
    exact written repo floor stored rfl bundled found
  · rw [Function.update_of_ne same] at found
    exact honest repo floor stored bundled found

theorem honest_step {index : List Release} {enabled : Bool} {world : World} {event : Event}
    (honest : AllHonest coding index world.cache) (guard : HonestWrite coding index world event) :
    AllHonest coding index (step coding enabled world event).cache := by
  cases event with
  | write key row => exact honest_update honest guard
  | trigger repo seen now =>
    simp only [step]
    split <;> exact honest
  | finish position =>
    simp only [step]
    split <;> exact honest
  | store position release now granted =>
    simp only [step]
    split
    case h_2 => exact honest
    case h_1 repo found =>
      generalize fetched : (if granted = true then release.bind (refreshedRow coding · now) else none) = row
      cases row with
      | none => exact honest
      | some stored =>
        refine honest_update honest fun other floor same _ _ written => ?_
        obtain rfl := Option.some.inj written
        split at fetched
        case isFalse => cases fetched
        case isTrue =>
          obtain ⟨release, -, refreshed⟩ := Option.bind_eq_some_iff.mp fetched
          exact refreshedRow_honest refreshed floor

/-- In every run at most one refresh per repository is in flight; what is served is sound exactly if
the row is honest; and it is sound in every run in which nothing writes a row that is not. -/
theorem catalog_floor_iff (coding : Coding format) (index : List Release) (enabled : Bool)
    (cache : Text → Option CacheRow)
    (events : List Event) :
    (∀ key, (run (step coding enabled) (boot cache) events).keys.count key ≤ 1) ∧
    (∀ repo readable floor response, builtinCatalogFor format index repo = some floor →
      catalogLatestForBundled coding index (run (step coding enabled) (boot cache) events) repo readable =
        some response →
      (response.Sound format floor ↔ ∀ row, readable = true →
        (run (step coding enabled) (boot cache) events).cache (lower repo) = some row → row.Honest coding floor)) ∧
    (AllHonest coding index cache → Guarded (step coding enabled) (HonestWrite coding index) (boot cache) events →
      ∀ repo readable floor response, builtinCatalogFor format index repo = some floor →
        catalogLatestForBundled coding index (run (step coding enabled) (boot cache) events) repo readable =
          some response →
        response.Sound format floor) := by
  have exactly : ∀ repo readable floor response, builtinCatalogFor format index repo = some floor →
      catalogLatestForBundled coding index (run (step coding enabled) (boot cache) events) repo readable =
        some response →
      (response.Sound format floor ↔ ∀ row, readable = true →
        (run (step coding enabled) (boot cache) events).cache (lower repo) = some row → row.Honest coding floor) := by
    intro repo readable floor response bundled served
    obtain ⟨builtin, checked⟩ := builtinCatalogFor_eq_some bundled
    obtain ⟨same, found, rfl⟩ := Option.map_eq_some_iff.mp served
    obtain rfl := Option.some.inj (bundled.symm.trans found)
    rw [chooseResponse_sound_iff builtin checked]
    cases readable with
    | false => simp
    | true => simp
  refine ⟨fun key => ?_, exactly, fun honest guarded repo readable floor response bundled served => ?_⟩
  · rw [counted_run coding enabled cache events key]
    split <;> decide
  · have kept : ∀ (world : World) event, AllHonest coding index world.cache → HonestWrite coding index world event →
        AllHonest coding index (step coding enabled world event).cache := fun _ _ => honest_step
    have still := guarded_run_invariant kept guarded honest
    exact (exactly repo readable floor response bundled served).mpr fun row _ found =>
      still repo floor row bundled found

def anyText : Format Unit Bool where
  parseManifest := fun _ => some ()
  validateManifest := fun _ => true
  isCompose := fun _ => false
  version := fun _ => []
  withVersion := fun _ _ => ()
  toJSON := fun _ => true

def CatalogManifest.parts (entry : CatalogManifest View) : Text × Text × Text × View :=
  (entry.assetName, entry.downloadURL, entry.manifestYAML, entry.manifest)

def Source.parts : Source → Option (Option Text)
  | .builtin => none
  | .github => some none
  | .other text => some (some text)

def Response.parts (response : Response View) :
    Text × Text × Text × List (Text × Text × Text × View) × Option (Option Text) :=
  (response.repo, response.tagName, response.releaseURL, response.manifests.map CatalogManifest.parts,
    response.source.parts)

theorem parts_injective : Function.Injective (Response.parts : Response View → _) := by
  have entries : Function.Injective (CatalogManifest.parts : CatalogManifest View → _) := by
    rintro ⟨_, _, _, _⟩ ⟨_, _, _, _⟩ same
    cases same
    rfl
  have sources : Function.Injective Source.parts := by
    intro first second same
    cases first <;> cases second <;> cases same <;> rfl
  rintro ⟨_, _, _, _, _⟩ ⟨_, _, _, _, _⟩ same
  simp only [Response.parts, Prod.mk.injEq] at same
  obtain ⟨rfl, rfl, rfl, manifests, source⟩ := same
  rw [entries.list_map manifests, sources source]

/-- Responses can be written as texts. -/
theorem exists_encoding : ∃ encode : Response Bool → Text, Function.Injective encode := by
  have chars : Countable Char := Function.Injective.countable (f := Char.toNat) fun _ _ => Char.toNat_inj.mp
  have countable : Countable (Response Bool) := parts_injective.countable
  obtain ⟨number, distinct⟩ := exists_injective_nat (Response Bool)
  exact ⟨fun response => decimal (number response), fun _ _ same => distinct (decimal_inj same)⟩

noncomputable def someCoding : Coding anyText where
  encode := exists_encoding.choose
  decode := Function.partialInv exists_encoding.choose
  roundTrip := fun response _ => Function.partialInv_left exists_encoding.choose_spec response

def sampleRepo : Text := "owner/app"

def bundledIndex : List Release :=
  [⟨sampleRepo, "v1.0.0", [], [⟨"app.yaml", [], some "name: app"⟩]⟩]

def olderResponse : Response Bool where
  repo := sampleRepo
  tagName := "v0.9.0"
  releaseURL := []
  manifests := [⟨"app.yaml", [], "name: app", false⟩]
  source := .github

noncomputable def foreignRow : CacheRow := ⟨"v1.1.0", someCoding.encode olderResponse, 0⟩

/-- The tag of the row is newer, but the response is an older one with a parsed form that is not the
one of its text. -/
theorem older_response_served : ∃ floor, builtinCatalogFor anyText bundledIndex sampleRepo = some floor ∧
    catalogLatestForBundled someCoding bundledIndex (boot fun _ => some foreignRow) sampleRepo true =
      some olderResponse ∧
    olderResponse.tagName ≠ floor.tagName ∧ ¬ Newer olderResponse.tagName floor.tagName ∧
    ∃ entry ∈ olderResponse.manifests, ¬ entry.Sound anyText olderResponse.tagName := by
  obtain ⟨floor, bundled, tag⟩ : ∃ floor, builtinCatalogFor anyText bundledIndex sampleRepo = some floor ∧
      floor.tagName = "v1.0.0" := ⟨_, rfl, rfl⟩
  have decoded : someCoding.decode foreignRow.response = some olderResponse :=
    Function.partialInv_left exists_encoding.choose_spec olderResponse
  have newer : Newer foreignRow.tagName floor.tagName := by
    rw [tag, ← tagIsNewer_iff]
    decide +kernel
  have valid : catalogResponseManifestsValid anyText olderResponse = true := by decide +kernel
  have chosen : freshResponse someCoding floor foreignRow = some olderResponse := by
    rw [freshResponse_eq_some]
    exact ⟨decoded, newer, rfl, cons_ne_nil _ _, valid⟩
  refine ⟨floor, bundled, ?_, ?_, ?_, _, mem_singleton_self _, ?_⟩
  · rw [catalogLatestForBundled, bundled]
    simp only [chooseResponse, boot, Option.map_some, if_true, Option.bind_some, chosen, Option.getD_some]
  · rw [tag]
    decide
  · rw [tag, ← tagIsNewer_iff]
    decide +kernel
  · rintro ⟨manifest, -, -, view⟩
    cases view

end Tierd.Plugin.Catalog
