import Tierd.Data.Ini
import Tierd.Data.Dictionary

namespace Tierd.Data.EnvFile

open List

/-- Lines `KEY=VALUE`, sorted by key. -/
def render (env : Dictionary Text) : Text :=
  Ini.spell ((env.keys.insertionSort (· ≤ ·)).map fun key => key ++ '=' :: (env.lookup key).getD [])

/-- A line without an equals sign assigns nothing. -/
def read (file : Text) : List (Text × Text) := (Text.lines file).filterMap fun line => Ini.cut line '='

/-- What is read is the map; a later line for the same key wins. -/
def Spells (file : Text) (env : Dictionary Text) : Prop :=
  ∀ key, (Dictionary.insertAll (read file) ∅).lookup key = env.lookup key

section Keys

variable {file text before after key value : Text} {separator : Char}

theorem cut_eq_none (absent : separator ∉ text) : Ini.cut text separator = none := by
  have nothing : text.dropWhile (· ≠ separator) = [] := by
    rw [dropWhile_eq_nil_iff]
    exact fun c member => by simpa using fun same : c = separator => absent (same ▸ member)
  rw [Ini.cut, span_eq_takeWhile_dropWhile, nothing]

theorem cut_eq_some (found : Ini.cut text separator = some (before, after)) :
    separator ∉ before ∧ text = before ++ separator :: after := by
  by_cases inside : separator ∈ text
  · obtain ⟨front, back, rfl, absent⟩ := eq_append_cons_of_mem inside
    obtain ⟨rfl, rfl⟩ := Prod.mk.inj (Option.some.inj ((Ini.cut_append absent).symm.trans found))
    exact ⟨absent, rfl⟩
  · cases (cut_eq_none inside).symm.trans found

/-- A key that is read is legible. -/
theorem legible_of_mem_read (listed : (key, value) ∈ read file) : '=' ∉ key ∧ '\n' ∉ key := by
  obtain ⟨line, member, found⟩ := mem_filterMap.mp listed
  obtain ⟨equalsFree, rfl⟩ := cut_eq_some found
  refine ⟨equalsFree, fun newline => ?_⟩
  exact Paths.not_mem_of_mem_splitOn member (mem_append_left _ newline)

theorem mem_of_mem_insertAll {entries : List (Text × Text)} {dict : Dictionary Text}
    (member : key ∈ Dictionary.insertAll entries dict) : key ∈ entries.map Prod.fst ∨ key ∈ dict := by
  induction entries generalizing dict with
  | nil => exact .inr member
  | cons entry rest ih =>
    rcases ih member with later | before
    · exact .inl (mem_cons_of_mem _ later)
    · rcases AList.mem_insert dict |>.mp before with rfl | old
      · exact .inl mem_cons_self
      · exact .inr old

theorem mem_insertAll {entries : List (Text × Text)} {dict : Dictionary Text} (listed : key ∈ entries.map Prod.fst) :
    key ∈ Dictionary.insertAll entries dict := by
  have kept (rest : List (Text × Text)) (start : Dictionary Text) (member : key ∈ start) :
      key ∈ Dictionary.insertAll rest start := by
    induction rest generalizing start with
    | nil => exact member
    | cons entry rest ih => exact ih _ ((AList.mem_insert start).mpr (.inr member))
  induction entries generalizing dict with
  | nil => cases listed
  | cons entry rest ih =>
    rcases mem_cons.mp listed with rfl | later
    · exact kept rest _ ((AList.mem_insert dict).mpr (.inl rfl))
    · exact ih later

end Keys

section RoundTrip

variable {env : Dictionary Text} {file : Text}

theorem read_render (legible : ∀ key ∈ env, '=' ∉ key ∧ '\n' ∉ key)
    (single : ∀ key value, env.lookup key = some value → '\n' ∉ value) :
    read (render env) = (env.keys.insertionSort (· ≤ ·)).map fun key => (key, (env.lookup key).getD []) := by
  have keyed : ∀ key ∈ env.keys.insertionSort (· ≤ ·), key ∈ env := fun key member =>
    AList.mem_keys.mpr ((mem_insertionSort _).mp member)
  have lines : Text.lines (render env) = _ := Ini.lines_spell fun line member => by
    obtain ⟨key, listed, rfl⟩ := mem_map.mp member
    obtain ⟨value, found⟩ := Option.isSome_iff_exists.mp (AList.lookup_isSome.mpr (keyed key listed))
    have here := legible key (keyed key listed)
    simp [found, here.2, single key value found]
  rw [read, lines, filterMap_append, filterMap_map]
  have last : [([] : Text)].filterMap (fun line => Ini.cut line '=') = [] := by decide
  rw [last, append_nil, ← filterMap_eq_map]
  refine filterMap_congr fun key member => ?_
  exact Ini.cut_append (legible key (keyed key member)).1

theorem spells_render_iff (single : ∀ key value, env.lookup key = some value → '\n' ∉ value) :
    Spells (render env) env ↔ ∀ key ∈ env, '=' ∉ key ∧ '\n' ∉ key := by
  constructor
  · intro spells key member
    have found : key ∈ Dictionary.insertAll (read (render env)) ∅ := by
      rw [← AList.lookup_isSome, spells key]
      exact AList.lookup_isSome.mpr member
    rcases mem_of_mem_insertAll found with listed | nowhere
    · obtain ⟨⟨_, value⟩, here, rfl⟩ := mem_map.mp listed
      exact legible_of_mem_read here
    · exact absurd nowhere (AList.notMem_empty key)
  · intro legible key
    have keys : (read (render env)).map Prod.fst = env.keys.insertionSort (· ≤ ·) := by
      rw [read_render legible single, map_map]
      exact map_id _
    have once : ((read (render env)).map Prod.fst).Nodup := by
      rw [keys, (perm_insertionSort _ _).nodup_iff]
      exact env.keys_nodup
    refine Option.ext fun value => ?_
    rw [Dictionary.lookup_insertAll once]
    simp only [AList.lookup_empty, reduceCtorEq, and_false, or_false]
    rw [read_render legible single]
    constructor
    · intro listed
      obtain ⟨_, member, same⟩ := mem_map.mp listed
      obtain ⟨rfl, rfl⟩ := Prod.mk.inj same
      have here : _ ∈ env := AList.mem_keys.mpr ((mem_insertionSort _).mp member)
      obtain ⟨value, found⟩ := Option.isSome_iff_exists.mp (AList.lookup_isSome.mpr here)
      rw [found, Option.getD_some]
    · intro found
      refine mem_map.mpr
        ⟨key, (mem_insertionSort _).mpr (AList.mem_keys.mp ?_), by rw [found, Option.getD_some]⟩
      exact AList.lookup_isSome.mp (by rw [found]; rfl)

theorem spells_empty_iff : Spells file ∅ ↔ '=' ∉ file := by
  have inLines : '=' ∈ file ↔ ∃ line ∈ Text.lines file, '=' ∈ line := Text.mem_iff_splitOn (by decide) file
  constructor
  · intro spells inside
    obtain ⟨line, member, equals⟩ := inLines.mp inside
    obtain ⟨before, after, rfl, absent⟩ := eq_append_cons_of_mem equals
    have listed : (before, after) ∈ read file := mem_filterMap.mpr ⟨_, member, Ini.cut_append absent⟩
    have found : before ∈ Dictionary.insertAll (read file) ∅ := mem_insertAll (mem_map.mpr ⟨_, listed, rfl⟩)
    rw [← AList.lookup_isSome, spells before] at found
    cases found
  · intro absent key
    have nothing : read file = [] := filterMap_eq_nil_iff.mpr fun line member =>
      cut_eq_none fun equals => absent (inLines.mpr ⟨line, member, equals⟩)
    rw [nothing]
    rfl

end RoundTrip

end Tierd.Data.EnvFile
