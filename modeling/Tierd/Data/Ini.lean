import Tierd.Data.Paths

namespace Tierd.Data.Ini

open List

inductive Item where
  | heading (name : Text)
  | directive (key value : Text)
deriving DecidableEq, Repr

/-- `strings.Cut` at a character. -/
def cut (text : Text) (separator : Char) : Option (Text × Text) :=
  match text.span (· ≠ separator) with
  | (_, []) => none
  | (before, _ :: after) => some (before, after)

/-- `strings.Trim` with the two brackets as the cutset. -/
def trimBrackets (text : Text) : Text :=
  ((text.dropWhile fun c => c == '[' || c == ']').reverse.dropWhile fun c => c == '[' || c == ']').reverse

def readLine (raw : Text) : Option Item :=
  let line := Text.trimSpace raw
  if line = [] ∨ line.head? = some '#' then none
  else if line.head? = some '[' ∧ line.getLast? = some ']' then some (.heading (trimBrackets line))
  else (cut line '=').map fun parts => .directive (Text.trimSpace parts.1) (Text.trimSpace parts.2)

/-- What a reader finds that cuts each line at its first equals sign. -/
def items (file : Text) : List Item := (Text.lines file).filterMap readLine

/-- A text with the given lines. -/
def spell (lines : List Text) : Text := lines.flatMap (· ++ ['\n'])

@[simp] theorem spell_nil : spell [] = [] := rfl

theorem spell_cons (line : Text) (rest : List Text) : spell (line :: rest) = line ++ '\n' :: spell rest := by
  simp [spell]

theorem lines_spell {lines : List Text} (single : ∀ line ∈ lines, '\n' ∉ line) :
    Text.lines (spell lines) = lines ++ [[]] := by
  induction lines with
  | nil => rfl
  | cons line rest ih =>
    have first : line.splitOn '\n' = [line] := splitOn_eq_singleton (single line mem_cons_self)
    have later := ih fun other listed => single other (mem_cons_of_mem line listed)
    unfold Text.lines at later ⊢
    rw [spell_cons, Paths.splitOn_append_cons, first, later]
    rfl

theorem items_spell {lines : List Text} (single : ∀ line ∈ lines, '\n' ∉ line) :
    items (spell lines) = lines.filterMap readLine := by
  have blank : readLine [] = none := by decide
  rw [items, lines_spell single, filterMap_append, filterMap_cons_none blank, filterMap_nil,
    append_nil]

/-- A value that fits on a line and has no space around it. -/
def Plain (value : Text) : Prop := '\n' ∉ value ∧ Text.trimSpace value = value
deriving Decidable

theorem trimSpace_eq_self_iff {text : Text} :
    Text.trimSpace text = text ↔
      (∀ c ∈ text.head?, Text.isSpace c = false) ∧ ∀ c ∈ text.getLast?, Text.isSpace c = false := by
  cases text with
  | nil => simp [Text.trimSpace, Text.trimLeft]
  | cons c rest =>
    have spelled : Text.trimSpace (c :: rest) = (Text.trimLeft (c :: rest)).rdropWhile Text.isSpace := rfl
    constructor
    · intro whole
      have short : (Text.trimSpace (c :: rest)).length ≤ (Text.trimLeft (c :: rest)).length :=
        (List.rdropWhile_prefix Text.isSpace _).length_le
      have first : Text.isSpace c = false := by
        by_contra space
        have dropped : (Text.trimLeft (c :: rest)).length ≤ rest.length := by
          have space : Text.isSpace c = true := by simpa using space
          rw [Text.trimLeft, dropWhile_cons_of_pos space]
          exact length_dropWhile_le ..
        rw [whole] at short
        simp only [length_cons] at short
        omega
      refine ⟨by simpa using first, ?_⟩
      have kept : Text.trimLeft (c :: rest) = c :: rest := by
        rw [Text.trimLeft, dropWhile_cons_of_neg (by simp [first])]
      rw [spelled, kept, rdropWhile_eq_self_iff] at whole
      intro last listed
      rw [List.getLast?_eq_some_getLast (cons_ne_nil c rest)] at listed
      have same := Option.some.inj listed
      simpa [same] using whole (cons_ne_nil c rest)
    · rintro ⟨first, last⟩
      have first : Text.isSpace c = false := by simpa using first
      have kept : Text.trimLeft (c :: rest) = c :: rest := by
        rw [Text.trimLeft, dropWhile_cons_of_neg (by simp [first])]
      rw [spelled, kept, rdropWhile_eq_self_iff]
      intro nonempty
      have final := last _ (List.getLast?_eq_some_getLast nonempty)
      simp [final]

theorem plain_of_solid {value : Text} (solid : ∀ c ∈ value, Text.isSpace c = false) : Plain value := by
  refine ⟨fun newline => ?_, trimSpace_eq_self_iff.mpr ⟨fun c first => ?_, fun c last => ?_⟩⟩
  · exact absurd (solid '\n' newline) (by decide)
  · exact solid c (mem_of_mem_head? first)
  · exact solid c (mem_of_getLast? last)

theorem mem_of_mem_trimSpace {text : Text} {c : Char} (listed : c ∈ Text.trimSpace text) : c ∈ text := by
  simp only [Text.trimSpace, Text.trimLeft, mem_reverse] at listed
  have inner := (dropWhile_suffix _).subset listed
  exact (dropWhile_suffix _).subset (mem_reverse.mp inner)

theorem cut_append {before after : Text} {separator : Char} (absent : separator ∉ before) :
    cut (before ++ separator :: after) separator = some (before, after) := by
  have whole : (before ++ separator :: after).span (· ≠ separator) = (before, separator :: after) := by
    rw [span_eq_takeWhile_dropWhile]
    have all : ∀ c ∈ before, decide (c ≠ separator) = true := fun c listed => by
      simpa using fun same : c = separator => absent (same ▸ listed)
    rw [takeWhile_append_of_pos all, dropWhile_append_of_pos all]
    simp
  simp only [cut, whole]

theorem mem_of_cut {text before after : Text} {separator c : Char} (found : cut text separator = some (before, after))
    (listed : c ∈ after) : c ∈ text := by
  unfold cut at found
  rw [span_eq_takeWhile_dropWhile] at found
  cases rest : text.dropWhile (· ≠ separator) with
  | nil => simp only [rest, reduceCtorEq] at found
  | cons first more =>
    simp only [rest, Option.some.injEq, Prod.mk.injEq] at found
    have inside : c ∈ text.dropWhile (· ≠ separator) := by
      rw [rest, found.2]
      exact mem_cons_of_mem first listed
    exact (dropWhile_suffix _).subset inside

/-- A word that can stand before the equals sign of a directive. -/
def IsKey (key : Text) : Prop :=
  key ≠ [] ∧ '=' ∉ key ∧ (key.all fun c => !Text.isSpace c) = true ∧ key.head? ≠ some '#' ∧ key.head? ≠ some '['
deriving Decidable

theorem IsKey.solid {key : Text} (named : IsKey key) : ∀ c ∈ key, Text.isSpace c = false := by
  simpa using named.2.2.1

theorem readLine_directive {key value : Text} (named : IsKey key) (plain : Text.trimSpace value = value) :
    readLine (key ++ '=' :: value) = some (.directive key value) := by
  have solid := named.solid
  obtain ⟨nonempty, noEquals, _, noComment, noHeading⟩ := named
  obtain ⟨c, rest, rfl⟩ := exists_cons_of_ne_nil nonempty
  have whole : Text.trimSpace (c :: rest ++ '=' :: value) = c :: rest ++ '=' :: value := by
    refine trimSpace_eq_self_iff.mpr ⟨?_, fun last listed => ?_⟩
    · simpa using solid c mem_cons_self
    · rw [List.getLast?_append_of_ne_nil _ (cons_ne_nil _ _), List.getLast?_cons] at listed
      cases final : value.getLast? with
      | none =>
        obtain rfl : '=' = last := by simpa [final] using listed
        decide
      | some d =>
        obtain rfl : d = last := by simpa [final] using listed
        exact (trimSpace_eq_self_iff.mp plain).2 d final
  have key : Text.trimSpace (c :: rest) = c :: rest := (plain_of_solid solid).2
  have comment : (c :: rest ++ '=' :: value).head? ≠ some '#' := by simpa using noComment
  have heading : (c :: rest ++ '=' :: value).head? ≠ some '[' := by simpa using noHeading
  simp only [readLine, whole]
  rw [if_neg (by simpa using comment), if_neg (fun both => heading both.1), cut_append noEquals]
  simp only [Option.map_some, key, plain]

theorem plain_of_mem_items {file key value : Text} (listed : .directive key value ∈ items file) : Plain value := by
  obtain ⟨raw, line, read⟩ := mem_filterMap.mp listed
  have single : '\n' ∉ raw := Paths.not_mem_of_mem_splitOn line
  simp only [readLine] at read
  split_ifs at read
  · cases read
  · obtain ⟨⟨before, after⟩, found, same⟩ := Option.map_eq_some_iff.mp read
    obtain ⟨_, rfl⟩ := Item.directive.inj same
    refine ⟨fun newline => single ?_, Text.trimSpace_idem after⟩
    exact mem_of_mem_trimSpace (mem_of_cut found (mem_of_mem_trimSpace newline))

/-- The lines can stand in a file, and a reader finds these items in them. -/
def Reads (lines : List Text) (found : List Item) : Prop :=
  (∀ line ∈ lines, '\n' ∉ line) ∧ lines.filterMap readLine = found

instance (lines : List Text) (found : List Item) : Decidable (Reads lines found) := inferInstanceAs (Decidable (_ ∧ _))

theorem Reads.items {lines : List Text} {found : List Item} (reads : Reads lines found) : items (spell lines) = found :=
  (items_spell reads.1).trans reads.2

theorem Reads.append {first second : List Text} {found more : List Item} (left : Reads first found)
    (right : Reads second more) : Reads (first ++ second) (found ++ more) := by
  refine ⟨fun line listed => ?_, by rw [filterMap_append, left.2, right.2]⟩
  rcases mem_append.mp listed with inFirst | inSecond
  · exact left.1 line inFirst
  · exact right.1 line inSecond

theorem reads_directives {key : Text} (named : IsKey key) {values : List Text} (plain : ∀ value ∈ values, Plain value) :
    Reads (values.map fun value => key ++ '=' :: value) (values.map (.directive key)) := by
  induction values with
  | nil => exact ⟨by simp, rfl⟩
  | cons value rest ih =>
    obtain ⟨single, trimmed⟩ := plain value mem_cons_self
    have later := ih fun other listed => plain other (mem_cons_of_mem value listed)
    refine ⟨forall_mem_cons.mpr ⟨fun newline => ?_, later.1⟩, ?_⟩
    · rcases mem_append.mp newline with inKey | inValue
      · exact absurd (named.solid '\n' inKey) (by decide)
      · rcases mem_cons.mp inValue with same | inValue
        · exact absurd same (by decide)
        · exact single inValue
    · rw [map_cons, filterMap_cons_some (readLine_directive named trimmed), later.2, map_cons]

theorem reads_directive {key value : Text} (named : IsKey key) (plain : Plain value) :
    Reads [key ++ '=' :: value] [.directive key value] :=
  reads_directives named (by simpa using plain : ∀ one ∈ [value], Plain one)

end Tierd.Data.Ini
