import Tierd.Data.Fields
import Tierd.Mdadm.Detail

namespace Tierd.Mdadm

open Tierd.Data List

section Keys

variable {α : Type} (project : DetailArray → α)

/-- A setter that a projection does not see. -/
def Blind (change : Text → DetailArray → DetailArray) : Prop :=
  ∀ value array, project (change value array) = project array

variable {project}

theorem onKey_blind {change : Text → DetailArray → DetailArray} (blind : Blind project change)
    (line : Text) (key : String)
    (array : DetailArray) : project (onKey line key change array) = project array := by
  unfold onKey
  dsimp only
  split
  · exact blind _ _
  · rfl

end Keys

/-- The parts of an array that no key sets. -/
def fixedParts (array : DetailArray) : List Text × Text := (array.memberDisks, array.path)

theorem fixedParts_parseKeys (line : Text) (array : DetailArray) :
    fixedParts (parseKeys line array) = fixedParts array := by
  have size : Blind fixedParts setSize := fun value array => by
    unfold setSize
    split <;> rfl
  have level : Blind fixedParts setLevel := fun _ _ => rfl
  have state : Blind fixedParts setState := fun _ _ => rfl
  have active : Blind fixedParts setActive := fun _ _ => rfl
  have total : Blind fixedParts setTotal := fun _ _ => rfl
  have rebuild : Blind fixedParts setRebuild := fun _ _ => rfl
  unfold parseKeys
  rw [onKey_blind rebuild, onKey_blind total, onKey_blind active, onKey_blind state, onKey_blind size,
    onKey_blind level]

/-- The state comes from one key. -/
theorem parseKeys_state (line : Text) (array : DetailArray) :
    (parseKeys line array).state =
      if parseKV line "State" ≠ [] then
        Network.toLower (Text.trimSpace (((parseKV line "State").splitOn ',').headD []))
      else array.state := by
  have size : Blind DetailArray.state setSize := fun value array => by
    unfold setSize
    split <;> rfl
  have level : Blind DetailArray.state setLevel := fun _ _ => rfl
  have active : Blind DetailArray.state setActive := fun _ _ => rfl
  have total : Blind DetailArray.state setTotal := fun _ _ => rfl
  have rebuild : Blind DetailArray.state setRebuild := fun _ _ => rfl
  unfold parseKeys
  rw [onKey_blind rebuild, onKey_blind total, onKey_blind active]
  generalize earlier : onKey line "Array Size" setSize (onKey line "Raid Level" setLevel array) = before
  have unchanged : before.state = array.state := by rw [← earlier, onKey_blind size, onKey_blind level]
  unfold onKey
  dsimp only
  split
  · rfl
  · exact unchanged

theorem parseKeys_state_of_stateless {line : Text} (stateless : Text.contains line "State :" = false)
    (array : DetailArray) : (parseKeys line array).state = array.state := by
  have absent : parseKV line "State" = [] := by
    unfold parseKV
    exact if_neg (by simpa using stateless)
  rw [parseKeys_state, absent]
  rfl

structure View where
  state : Text
  members : List Text
  inTable : Bool
  path : Text

def view (reading : DetailArray × Bool) : View where
  state := reading.1.state
  members := reading.1.memberDisks
  inTable := reading.2
  path := reading.1.path

theorem view_parseLine {raw : Text} (stateless : Text.contains (Text.trimSpace raw) "State :" = false)
    (reading : DetailArray × Bool) :
    view (parseLine reading raw) =
      if isTableHeading (Text.trimSpace raw) then { view reading with inTable := true }
      else if reading.2 ∧ Text.trimSpace raw ≠ [] then
        { view reading with members := (view reading).members ++ ((Text.fields raw)[6]?).toList }
      else view reading := by
  have state := parseKeys_state_of_stateless stateless reading.1
  obtain ⟨members, path⟩ := Prod.mk.inj (fixedParts_parseKeys (Text.trimSpace raw) reading.1)
  unfold parseLine
  dsimp only
  split_ifs with heading row
  · simp only [view, state, members, path]
  · simp only [view, addMember, state, members, path, row.1, Text.fields_trimSpace]
  · simp only [view, state, members, path]

theorem contains_trimSpace {text part : Text} (absent : Text.contains text part = false) :
    Text.contains (Text.trimSpace text) part = false := by
  have inside : Text.trimSpace text <:+: text :=
    ((List.rdropWhile_prefix Text.isSpace _).isInfix).trans (dropWhile_suffix _).isInfix
  simp only [Text.contains, decide_eq_false_iff_not] at absent ⊢
  exact fun found => absent (found.trans inside)

theorem view_otherLine (line : OtherLine) {reading : DetailArray × Bool} (before : reading.2 = false) :
    view (parseLine reading line.text) = view reading := by
  rw [view_parseLine (contains_trimSpace line.stateless), line.noHeading, if_neg Bool.false_ne_true, before,
    if_neg (by simp)]

theorem view_tableHeading (reading : DetailArray × Bool) :
    view (parseLine reading tableHeading) = { view reading with inTable := true } := by
  rw [view_parseLine (by decide +kernel), if_pos (by decide +kernel)]

theorem view_blank (reading : DetailArray × Bool) : view (parseLine reading []) = view reading := by
  rw [view_parseLine (by decide +kernel), if_neg (by decide +kernel), if_neg (by simp [Text.trimSpace, Text.trimLeft])]

theorem fields_cells (cells : List Cell) : Text.fields (cells.flatMap Cell.text) = cells.map Cell.word := by
  induction cells with
  | nil => rfl
  | cons cell rest ih =>
    have blank : ∀ c ∈ List.replicate (cell.blanks + 1) ' ', Text.isSpace c = true := by
      intro c member
      rw [eq_of_mem_replicate member]
      decide
    have apart : ∀ c, (rest.flatMap Cell.text).head? = some c → Text.isSpace c = true := by
      intro c first
      cases rest with
      | nil => cases first
      | cons other more =>
        obtain rfl : ' ' = c := Option.some.inj first
        decide
    rw [flatMap_cons, Cell.text, append_assoc, Text.fields_append_blank blank,
      Text.fields_word_append cell.nonempty cell.solid apart, ih, map_cons]

theorem exists_colon_of_contains (key : Text) {text : Text} (found : Text.contains text (key ++ " :") = true) :
    ∃ word ∈ Text.fields text, word.head? = some ':' := by
  rw [Text.contains, decide_eq_true_iff] at found
  obtain ⟨before, after, whole⟩ := found
  have split : text = (before ++ key) ++ ' ' :: ':' :: after := by
    rw [← whole]
    simp
  obtain ⟨word, more, fields⟩ := Text.fields_cons_solid (show Text.isSpace ':' = false by decide) after
  refine ⟨':' :: word, ?_, rfl⟩
  rw [split, Text.fields_append_cons _ _ (by decide), fields]
  exact mem_append_right _ mem_cons_self

theorem Row.head_word (row : Row) {cell : Cell} (member : cell ∈ row.cells) : cell.word.head? ≠ some ':' := by
  rcases mem_append.mp member with inFront | device
  · rcases mem_append.mp inFront with number | state
    · intro colon
      have inside : ':' ∈ cell.word := mem_of_mem_head? colon
      rcases row.numeric cell number ':' inside with digit | dash
      · exact absurd digit (by decide)
      · exact absurd dash (by decide)
    · exact (row.words cell state).2
  · rw [row.absolute cell (by simpa using device)]
    decide

theorem Row.stateless (row : Row) : Text.contains (Text.trimSpace row.line) "State :" = false := by
  refine contains_trimSpace (Bool.eq_false_iff.mpr fun found => ?_)
  obtain ⟨word, member, colon⟩ := exists_colon_of_contains "State" found
  rw [Row.line, fields_cells] at member
  obtain ⟨cell, inside, rfl⟩ := mem_map.mp member
  exact row.head_word inside colon

/-- The first field of a row is a number. -/
theorem Row.fields_eq (row : Row) : ∃ first rest, Text.fields row.line = first :: rest ∧
    first ≠ [] ∧ ∀ c ∈ first, c.isDigit = true ∨ c = '-' := by
  rw [Row.line, fields_cells, Row.cells]
  cases numbers : row.numbers with
  | nil =>
    have four := row.fourNumbers
    simp [numbers] at four
  | cons cell more =>
    exact ⟨cell.word, _, rfl, cell.nonempty, row.numeric cell (numbers ▸ mem_cons_self)⟩

theorem Row.not_heading (row : Row) : isTableHeading (Text.trimSpace row.line) = false := by
  obtain ⟨first, rest, fields, nonempty, numeric⟩ := row.fields_eq
  rw [← Text.fields_trimSpace] at fields
  refine Bool.eq_false_iff.mpr fun heading => ?_
  rw [isTableHeading, Bool.and_eq_true, Text.startsWith, isPrefixOf_iff_prefix] at heading
  obtain ⟨tail, whole⟩ := heading.1
  obtain ⟨word, more, again⟩ := Text.fields_cons_solid (show Text.isSpace 'N' = false by decide) ("umber" ++ tail)
  have spelled : Text.trimSpace row.line = 'N' :: ("umber" ++ tail) := whole.symm
  rw [spelled, again] at fields
  obtain ⟨rfl, -⟩ := List.cons.inj fields
  rcases numeric 'N' mem_cons_self with digit | dash
  · exact absurd digit (by decide)
  · exact absurd dash (by decide)

theorem Row.trim_ne_nil (row : Row) : Text.trimSpace row.line ≠ [] := by
  obtain ⟨first, rest, fields, -⟩ := row.fields_eq
  intro nothing
  rw [← Text.fields_trimSpace, nothing] at fields
  cases fields

def Row.taken (row : Row) : Option Text := ((row.state ++ row.device.toList).map Cell.word)[2]?

theorem Row.seventh (row : Row) : (Text.fields row.line)[6]? = row.taken := by
  rw [Row.line, fields_cells, Row.cells, append_assoc, map_append,
    List.getElem?_append_right (by simp [row.fourNumbers])]
  simp [Row.taken, row.fourNumbers]

theorem view_row (row : Row) {reading : DetailArray × Bool} (inside : reading.2 = true) :
    view (parseLine reading row.line) =
      { view reading with members := (view reading).members ++ row.taken.toList } := by
  rw [view_parseLine row.stateless, row.not_heading, if_neg Bool.false_ne_true,
    if_pos ⟨inside, row.trim_ne_nil⟩, row.seventh]

def Detail.kept (detail : Detail) (state : Text) : Text := (detail.states.head?.map Network.toLower).getD state

theorem blank_replicate (count : Nat) : ∀ c ∈ List.replicate count ' ', Text.isSpace c = true := by
  intro c member
  rw [eq_of_mem_replicate member]
  decide

theorem Detail.trim_stateLine (detail : Detail) : ∃ rest, Text.trimSpace detail.stateLine = "State :".toList ++ rest ∧
    Text.trimSpace rest = Text.trimSpace ((", ".toList).intercalate detail.states) := by
  generalize joined : (", ".toList).intercalate detail.states = text
  have shape : detail.stateLine = List.replicate detail.indent ' ' ++
      ('S' :: "tate ".toList ++ ':' :: (' ' :: text ++ List.replicate detail.trailing ' ')) := by
    unfold Detail.stateLine
    rw [joined]
    simp
  refine ⟨(' ' :: text ++ List.replicate detail.trailing ' ').rdropWhile Text.isSpace, ?_, ?_⟩
  · rw [shape, Text.trimSpace_blank_append (blank_replicate _), Text.trimSpace_append (by decide) (by decide)]
    rfl
  · have whole : (' ' :: text ++ List.replicate detail.trailing ' ').rdropWhile Text.isSpace ++
        (' ' :: text ++ List.replicate detail.trailing ' ').rtakeWhile Text.isSpace =
        ' ' :: text ++ List.replicate detail.trailing ' ' := rdropWhile_append_rtakeWhile
    calc _ = Text.trimSpace (' ' :: text ++ List.replicate detail.trailing ' ') := by
          rw [← Text.trimSpace_append_blank (fun c => mem_rtakeWhile_imp), whole]
      _ = Text.trimSpace (' ' :: text) := Text.trimSpace_append_blank (blank_replicate _) _
      _ = Text.trimSpace text := Text.trimSpace_blank_append (blank_replicate 1) text

theorem Detail.parseKV_stateLine (detail : Detail) :
    parseKV (Text.trimSpace detail.stateLine) "State".toList = Text.trimSpace
      ((", ".toList).intercalate detail.states) := by
  obtain ⟨rest, line, value⟩ := detail.trim_stateLine
  have found : Text.contains ("State :".toList ++ rest) ("State".toList ++ " :".toList) = true := by
    rw [Text.contains, decide_eq_true_iff]
    exact ⟨[], rest, rfl⟩
  rw [line, parseKV, if_pos found, ← value]
  rfl

theorem first_of_joined (rest : List Text) {first : Text} (nonempty : first ≠ [])
    (trimmed : Text.trimSpace first = first)
    (noComma : ',' ∉ first) :
    Text.trimSpace ((", ".toList).intercalate (first :: rest)) ≠ [] ∧
    ((Text.trimSpace ((", ".toList).intercalate (first :: rest))).splitOn ',').headD [] = first := by
  cases rest with
  | nil =>
    have alone : (", ".toList).intercalate [first] = first := by simp [List.intercalate]
    rw [alone, trimmed, splitOn_eq_singleton noComma]
    exact ⟨nonempty, rfl⟩
  | cons second more =>
    obtain ⟨c, middle, rfl⟩ := exists_cons_of_ne_nil nonempty
    have starts : Text.isSpace c = false := by
      have left := Text.trimLeft_trimSpace (c :: middle)
      rw [trimmed] at left
      by_contra space
      have shorter : (Text.trimLeft (c :: middle)).length ≤ middle.length := by
        rw [Text.trimLeft, dropWhile_cons_of_pos (by simpa using space)]
        exact (dropWhile_suffix _).length_le
      rw [left, length_cons] at shorter
      omega
    have shape : (", ".toList).intercalate ((c :: middle) :: second :: more) =
        c :: middle ++ ',' :: (' ' :: (", ".toList).intercalate (second :: more)) := by
      simp [List.intercalate]
    rw [shape, Text.trimSpace_append starts (by decide), Paths.splitOn_append_cons, splitOn_eq_singleton noComma]
    exact ⟨by simp, rfl⟩

theorem view_stateLine (detail : Detail) (reading : DetailArray × Bool) (before : reading.2 = false) :
    view (parseLine reading detail.stateLine) = { view reading with state := detail.kept (view reading).state } := by
  obtain ⟨rest, line, -⟩ := detail.trim_stateLine
  have noHeading : isTableHeading (Text.trimSpace detail.stateLine) = false := by
    rw [line]
    rfl
  obtain ⟨members, path⟩ := Prod.mk.inj (fixedParts_parseKeys (Text.trimSpace detail.stateLine) reading.1)
  have state : (parseKeys (Text.trimSpace detail.stateLine) reading.1).state = detail.kept reading.1.state := by
    rw [parseKeys_state, detail.parseKV_stateLine]
    cases states : detail.states with
    | nil => simp [Detail.kept, states, List.intercalate, Text.trimSpace, Text.trimLeft]
    | cons first others =>
      obtain ⟨nonempty, trimmed, noComma, -⟩ := detail.stated first (states ▸ mem_cons_self)
      obtain ⟨value, head⟩ := first_of_joined others nonempty trimmed noComma
      rw [if_pos value, head, trimmed, Detail.kept, states]
      rfl
  unfold parseLine
  simp only [noHeading, before, Bool.false_eq_true, false_and, if_false, view, state, members, path]

theorem mem_of_mem_joined {c : Char} {states : List Text} (member : c ∈ (", ".toList).intercalate states) :
    c ∈ ", ".toList ∨ ∃ state ∈ states, c ∈ state := by
  induction states with
  | nil => cases member
  | cons first rest ih =>
    cases rest with
    | nil => exact Or.inr ⟨first, mem_cons_self, by simpa [List.intercalate] using member⟩
    | cons second more =>
      have shape : (", ".toList).intercalate (first :: second :: more) =
          first ++ ", ".toList ++ (", ".toList).intercalate (second :: more) := by simp [List.intercalate]
      rw [shape, mem_append, mem_append] at member
      rcases member with (here | separator) | there
      · exact Or.inr ⟨first, mem_cons_self, here⟩
      · exact Or.inl separator
      · refine (ih there).imp_right fun ⟨state, among, inside⟩ => ⟨state, mem_cons_of_mem first among, inside⟩

theorem single_tableLine (row : Option Row) : '\n' ∉ tableLine row := by
  cases row with
  | none => simp [tableLine]
  | some row =>
    intro member
    obtain ⟨cell, -, inside⟩ := mem_flatMap.mp member
    rcases mem_append.mp inside with blank | word
    · exact absurd (eq_of_mem_replicate blank) (by decide)
    · exact absurd (cell.solid '\n' word) (by decide)

theorem Detail.single (detail : Detail) : ∀ line ∈ detail.lines, '\n' ∉ line := by
  simp only [Detail.lines, forall_mem_append, forall_mem_map, forall_mem_singleton]
  refine ⟨⟨⟨⟨⟨fun line _ => line.single, ?_⟩, fun line _ => line.single⟩, by decide⟩,
    fun row _ => single_tableLine row⟩, by simp⟩
  · intro member
    simp only [Detail.stateLine, mem_append] at member
    rcases member with ((indent | key) | states) | trailing
    · exact absurd (eq_of_mem_replicate indent) (by decide)
    · exact absurd key (by decide)
    · rcases mem_of_mem_joined states with separator | ⟨state, listed, inside⟩
      · exact absurd separator (by decide)
      · exact (detail.stated state listed).2.2.2 inside
    · exact absurd (eq_of_mem_replicate trailing) (by decide)

theorem view_otherLines (others : List OtherLine) (reading : DetailArray × Bool) (before : reading.2 = false) :
    view ((others.map OtherLine.text).foldl parseLine reading) = view reading := by
  induction others generalizing reading with
  | nil => rfl
  | cons first rest ih =>
    have same := view_otherLine first before
    have still : (parseLine reading first.text).2 = false := (congrArg View.inTable same).trans before
    rw [map_cons, foldl_cons, ih _ still, same]

theorem view_table (table : List (Option Row)) (reading : DetailArray × Bool) (inside : reading.2 = true) :
    view ((table.map tableLine).foldl parseLine reading) = { view reading with
      members := (view reading).members ++ table.reduceOption.flatMap fun row => row.taken.toList } := by
  induction table generalizing reading with
  | nil => simp
  | cons first rest ih =>
    rw [map_cons, foldl_cons]
    cases first with
    | none =>
      have next : view (parseLine reading (tableLine none)) = view reading := view_blank reading
      have still : (parseLine reading (tableLine none)).2 = true := (congrArg View.inTable next).trans inside
      rw [ih _ still, next, reduceOption_cons_of_none]
    | some row =>
      have next := view_row row inside
      have still : (parseLine reading (tableLine (some row))).2 = true := (congrArg View.inTable next).trans inside
      rw [ih _ still, reduceOption_cons_of_some]
      simp [tableLine, next]

/-- What the parser returns. -/
theorem parseDetail_render (detail : Detail) (path : Text) :
    (parseDetail path detail.render).memberDisks = detail.rows.flatMap (fun row => row.taken.toList) ∧
    (parseDetail path detail.render).state = detail.kept [] ∧ (parseDetail path detail.render).path = path := by
  have lines : Text.lines detail.render = detail.lines := Lines.lines_join detail.single (by simp [Detail.lines])
  unfold parseDetail
  rw [lines]
  generalize fresh : (({ name := (path.splitOn '/').getLastD [], path }, false) : DetailArray × Bool) = start
  have begins : view start = ⟨[], [], false, path⟩ := by rw [← fresh]; rfl
  simp only [Detail.lines, foldl_append, foldl_cons, foldl_nil]
  have first := view_otherLines detail.before start (congrArg View.inTable begins)
  rw [begins] at first
  generalize (detail.before.map OtherLine.text).foldl parseLine start = one at first
  have second := view_stateLine detail one (congrArg View.inTable first)
  rw [first] at second
  generalize parseLine one detail.stateLine = two at second
  have third := view_otherLines detail.after two (congrArg View.inTable second)
  rw [second] at third
  generalize (detail.after.map OtherLine.text).foldl parseLine two = three at third
  have fourth := view_tableHeading three
  rw [third] at fourth
  generalize parseLine three tableHeading = four at fourth
  have fifth := view_table detail.table four (congrArg View.inTable fourth)
  rw [fourth] at fifth
  generalize (detail.table.map tableLine).foldl parseLine four = five at fifth
  have last := view_blank five
  rw [fifth] at last
  exact ⟨congrArg View.members last, congrArg View.state last, congrArg View.path last⟩

section Taken

variable {row : Row}

theorem taken_of_one (one : row.state.length = 1) : row.taken = none := by
  refine List.getElem?_eq_none ?_
  cases row.device <;> simp [one]

theorem taken_of_two (two : row.state.length = 2) : row.taken = row.path := by
  unfold Row.taken Row.path
  rw [map_append, List.getElem?_append_right (by simp [two])]
  cases row.device <;> simp [two]

theorem taken_of_more (more : 2 < row.state.length) : ∃ cell ∈ row.state, row.taken = some cell.word := by
  refine ⟨row.state[2], getElem_mem more, ?_⟩
  unfold Row.taken
  rw [map_append, List.getElem?_append_left (by simpa using more)]
  simp [more]

end Taken

def Row.Readable (row : Row) : Prop := row.state.length ≤ 2 ∧ (row.device ≠ none → row.state.length = 2)

theorem Row.one_or_two {row : Row} (few : row.state.length ≤ 2) : row.state.length = 1 ∨ row.state.length = 2 := by
  have some := length_pos_of_ne_nil row.hasState
  omega

theorem taken_eq_path_iff {row : Row} (few : row.state.length ≤ 2) : row.taken = row.path ↔ row.Readable := by
  rcases Row.one_or_two few with one | two
  · rw [taken_of_one one, Row.Readable, one, Row.path]
    cases row.device <;> simp
  · exact iff_of_true (taken_of_two two) ⟨few, fun _ => two⟩

theorem flatMap_eq_iff {α β : Type} {f g : α → List β} {items : List α} (parts : ∀ x ∈ items, (f x).Sublist (g x)) :
    items.flatMap f = items.flatMap g ↔ ∀ x ∈ items, f x = g x := by
  induction items with
  | nil => simp
  | cons first rest ih =>
    have later : ∀ x ∈ rest, (f x).Sublist (g x) := fun x member => parts x (mem_cons_of_mem first member)
    rw [forall_mem_cons, ← ih later, flatMap_cons, flatMap_cons]
    constructor
    · intro same
      have lengths := congrArg List.length same
      simp only [length_append] at lengths
      have here := (parts first mem_cons_self).length_le
      have there := (List.Sublist.flatMap_right rest later).length_le
      exact append_inj same (by omega)
    · rintro ⟨here, there⟩
      rw [here, there]

theorem members_exact_iff (rows : List Row) :
    rows.flatMap (fun row => row.taken.toList) = rows.filterMap Row.path ↔ ∀ row ∈ rows, row.Readable := by
  have expected : rows.filterMap Row.path = rows.flatMap fun row => row.path.toList := by
    rw [filterMap_eq_flatMap_toList]
  by_cases few : ∀ row ∈ rows, row.state.length ≤ 2
  · have parts : ∀ row ∈ rows, row.taken.toList.Sublist row.path.toList := by
      intro row member
      rcases Row.one_or_two (few row member) with one | two
      · rw [taken_of_one one]
        exact nil_sublist _
      · rw [taken_of_two two]
    rw [expected, flatMap_eq_iff parts]
    refine forall₂_congr fun row member => ?_
    rw [← taken_eq_path_iff (few row member)]
    cases row.taken <;> cases row.path <;> simp
  · push Not at few
    obtain ⟨row, member, more⟩ := few
    refine iff_of_false (fun same => ?_) fun readable => absurd (readable row member).1 (by omega)
    obtain ⟨cell, inside, taken⟩ := taken_of_more more
    have listed : cell.word ∈ rows.filterMap Row.path := by
      rw [← same]
      exact mem_flatMap.mpr ⟨row, member, by simp [taken]⟩
    obtain ⟨other, -, path⟩ := mem_filterMap.mp listed
    obtain ⟨device, has, word⟩ := Option.map_eq_some_iff.mp path
    have slash := other.absolute device has
    rw [word] at slash
    exact (row.words cell inside).1 slash

def degradedAlert (now : Nat) (array : DetailArray) : Health.Action :=
  .raise ⟨.mdadm, array.path, "Array " ++ array.name ++ " is degraded (" ++
    decimal array.reading.activeDisks ++ "/" ++ decimal array.reading.totalDisks ++
    " disks active)"⟩ .warning now

def isDegraded (state : Text) : Prop := Network.toLower state = "degraded"

theorem degradedAlert_iff (now : Nat) (array : DetailArray) :
    degradedAlert now array ∈ Health.checkMdadm { arrays := [array.reading], mdadmTime := now } ↔
      array.state = "degraded" := by
  have single : Health.checkMdadm { arrays := [array.reading], mdadmTime := now } =
    Health.checkArray now array.reading :=
    append_nil _
  rw [single]
  by_cases degraded : array.state = "degraded"
  · have found : array.reading.state = .degraded := if_pos degraded
    refine iff_of_true ?_ degraded
    simp only [Health.checkArray, found]
    exact mem_cons_of_mem _ (mem_singleton_self _)
  · have other : array.reading.state ≠ .degraded := by
      simp only [DetailArray.reading, health, if_neg degraded]
      split_ifs <;> exact nofun
    refine iff_of_false (fun raised => ?_) degraded
    unfold Health.checkArray at raised
    cases reading : array.reading.state with
    | degraded => exact other reading
    | fine => simp [reading, degradedAlert] at raised
    | inactive => simp [reading, degradedAlert] at raised
    | failed => simp [reading, degradedAlert] at raised

/-- The members are exact if and only if every row has two words before its path; the alert is
raised for the arrays that are degraded if and only if that is the first of their states, when it is
one of them. -/
theorem parseDetail_exact_iff (detail : Detail) (path : Text) (now : Nat) :
    ((parseDetail path detail.render).memberDisks = detail.rows.filterMap Row.path ↔
      ∀ row ∈ detail.rows, row.Readable) ∧
    ((degradedAlert now (parseDetail path detail.render) ∈
        Health.checkMdadm { arrays := [(parseDetail path detail.render).reading], mdadmTime := now } ↔
          ∃ state ∈ detail.states, isDegraded state) ↔
      ((∃ state ∈ detail.states, isDegraded state) → ∃ first ∈ detail.states.head?, isDegraded first)) := by
  obtain ⟨members, state, -⟩ := parseDetail_render detail path
  refine ⟨by rw [members, members_exact_iff], ?_⟩
  have raised : degradedAlert now (parseDetail path detail.render) ∈
      Health.checkMdadm { arrays := [(parseDetail path detail.render).reading], mdadmTime := now } ↔
        ∃ first ∈ detail.states.head?, isDegraded first := by
    rw [degradedAlert_iff, state, Detail.kept]
    cases detail.states with
    | nil => simp
    | cons first rest => simp [isDegraded]
  have among : (∃ first ∈ detail.states.head?, isDegraded first) → ∃ state ∈ detail.states, isDegraded state :=
    fun ⟨first, head, degraded⟩ => ⟨first, mem_of_mem_head? head, degraded⟩
  rw [raised]
  exact ⟨Iff.mpr, fun first => ⟨among, first⟩⟩

def cell (word : String) (sound : word.toList ≠ [] ∧ word.toList.all (fun c => !Text.isSpace c) = true) : Cell where
  blanks := 2
  word := word.toList
  nonempty := sound.1
  solid := fun c member => by simpa using all_eq_true.mp sound.2 c member

def zeros : List Cell := List.replicate 4 (cell "0" (by decide))

theorem numeric_zeros : ∀ cell ∈ zeros, ∀ c ∈ cell.word, c.isDigit = true ∨ c = '-' := by
  intro zero member c inside
  rw [eq_of_mem_replicate member] at inside
  obtain rfl : c = '0' := mem_singleton.mp inside
  exact Or.inl (by decide)

def memberRow (state : List Cell) (device : Cell) (hasState : state ≠ [])
    (words : ∀ cell ∈ state, cell.word.head? ≠ some '/' ∧ cell.word.head? ≠ some ':')
    (absolute : device.word.head? = some '/') : Row where
  numbers := zeros
  state
  device := some device
  fourNumbers := rfl
  numeric := numeric_zeros
  hasState
  words
  absolute := fun found same => by rw [← Option.some.inj same]; exact absolute

def rebuilt : Detail where
  before := []
  after := []
  indent := 13
  states := ["clean", "degraded"]
  trailing := 1
  table := [
    some (memberRow [cell "active" (by decide), cell "sync" (by decide)] (cell "/dev/sda" (by decide)) (by simp)
      (by decide) (by decide)),
    some (memberRow [cell "active" (by decide), cell "sync" (by decide), cell "set-A" (by decide)]
      (cell "/dev/sdc" (by decide)) (by simp) (by decide) (by decide)),
    none,
    some (memberRow [cell "spare" (by decide)] (cell "/dev/sdb" (by decide)) (by simp) (by decide) (by decide))]
  stated := by decide

/-- The spare is lost, a word of a state is taken for a device, and no alert is raised. -/
theorem rebuilt_array_misread :
    (parseDetail "/dev/md0" rebuilt.render).memberDisks = ["/dev/sda".toList, "set-A".toList] ∧
    rebuilt.rows.filterMap Row.path = ["/dev/sda".toList, "/dev/sdc".toList, "/dev/sdb".toList] ∧
    "degraded".toList ∈ rebuilt.states ∧
    Health.checkMdadm { arrays := [(parseDetail "/dev/md0".toList rebuilt.render).reading], mdadmTime := 0 } =
      [.mark ⟨.mdadm, "/dev/md0".toList⟩] := by
  obtain ⟨members, state, path⟩ := parseDetail_render rebuilt "/dev/md0".toList
  refine ⟨members.trans rfl, rfl, by decide, ?_⟩
  generalize parseDetail "/dev/md0".toList rebuilt.render = array at state path
  have fine : array.reading.state = .fine := by
    simp only [DetailArray.reading, state]
    decide
  have place : array.reading.path = "/dev/md0".toList := path
  simp only [Health.checkMdadm, flatMap_cons, flatMap_nil, Health.checkArray, fine, place, append_nil]

end Tierd.Mdadm
