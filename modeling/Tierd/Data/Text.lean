import Mathlib

namespace Tierd.Data

open List

/-- Strings, with the functions of Go's `strings` package. -/
abbrev Text := List Char

instance Text.ofString : Coe String Text := ⟨String.toList⟩

instance Text.lawfulBEq : LawfulBEq Text := inferInstance

instance Text.lawfulBEqPair : LawfulBEq (Text × Text) := inferInstance

namespace Text

/-- `unicode.IsSpace`. -/
def isSpace (c : Char) : Bool :=
  [0x09, 0x0a, 0x0b, 0x0c, 0x0d, 0x20, 0x85, 0xa0, 0x1680, 0x2028, 0x2029, 0x202f, 0x205f, 0x3000].contains
    c.toNat || (0x2000 ≤ c.toNat && c.toNat ≤ 0x200a)

theorem isSpace_of_isDigit {c : Char} (digit : c.isDigit = true) : isSpace c = false := by
  simp only [Char.isDigit, Bool.and_eq_true, decide_eq_true_eq, ge_iff_le, UInt32.le_iff_toNat_le] at digit
  have range : 48 ≤ c.toNat ∧ c.toNat ≤ 57 := digit
  unfold isSpace
  generalize c.toNat = code at range
  simp
  omega

def trimLeft (text : Text) : Text := text.dropWhile isSpace

/-- `strings.TrimSpace`. -/
def trimSpace (text : Text) : Text := (trimLeft (trimLeft text).reverse).reverse

/-- `strings.HasPrefix`. -/
def startsWith (text start : Text) : Bool := start.isPrefixOf text

/-- `strings.TrimPrefix`. -/
def trimPrefix (text start : Text) : Text := if startsWith text start then text.drop start.length else text

/-- `strings.Contains`. -/
def contains (text part : Text) : Bool := part <:+: text

/-- `strings.Fields`. -/
def fields (text : Text) : List Text := (text.splitOnP isSpace).filter (· ≠ [])

/-- `strings.Split` at line ends. -/
def lines (text : Text) : List Text := text.splitOn '\n'

/-- Letters that differ in case only fold to one; the long s and the Kelvin sign fold to letters. -/
def foldCase (c : Char) : Char := if c = '\u017f' then 's' else if c = '\u212a' then 'k' else c.toLower

theorem trimLeft_trimSpace (text : Text) : trimLeft (trimSpace text) = trimSpace text := by
  refine dropWhile_eq_self_iff.mpr fun nonempty => ?_
  have start : trimSpace text <+: trimLeft text := rdropWhile_prefix isSpace (trimLeft text)
  rw [start.getElem nonempty]
  exact dropWhile_get_zero_not isSpace text (Nat.lt_of_lt_of_le nonempty start.length_le)

theorem trimSpace_idem (text : Text) : trimSpace (trimSpace text) = trimSpace text := by
  calc trimSpace (trimSpace text)
      = (trimLeft (trimSpace text)).rdropWhile isSpace := rfl
    _ = (trimSpace text).rdropWhile isSpace := by rw [trimLeft_trimSpace]
    _ = trimSpace text := rdropWhile_idempotent isSpace (trimLeft text)

theorem infix_append_cons {part left right : Text} {separator : Char} (absent : separator ∉ part) :
    part <:+: left ++ separator :: right ↔ part <:+: left ∨ part <:+: right := by
  constructor
  · rintro ⟨before, after, whole⟩
    rcases append_eq_append_iff.mp whole with ⟨gap, inLeft, _⟩ | ⟨gap, split, tail⟩
    · exact .inl ⟨before, gap, inLeft.symm⟩
    cases gap with
    | nil => exact .inl ⟨before, [], by simpa using split⟩
    | cons c rest =>
      obtain ⟨rfl, rfl⟩ := List.cons.inj tail
      rcases append_eq_append_iff.mp split with ⟨lead, _, crossing⟩ | ⟨lead, _, crossing⟩
      · exact absurd (crossing ▸ mem_append_right lead mem_cons_self) absent
      · cases lead with
        | nil => exact absurd (by rw [← nil_append part, ← crossing]; exact mem_cons_self) absent
        | cons d more =>
          obtain ⟨rfl, rfl⟩ := List.cons.inj crossing
          exact .inr ⟨more, after, rfl⟩
  · rintro (inLeft | inRight)
    · exact inLeft.trans (infix_append' [] left (separator :: right))
    · exact inRight.trans ⟨left ++ [separator], [], by simp⟩

theorem infix_iff_splitOnP {isSeparator : Char → Bool} {part : Text}
    (solid : ∀ c ∈ part, isSeparator c = false) (text : Text) :
    part <:+: text ↔ ∃ piece ∈ text.splitOnP isSeparator, part <:+: piece := by
  by_cases none : ∀ c ∈ text, isSeparator c = false
  · simp [splitOnP_eq_singleton none]
  · obtain ⟨separator, member, separates⟩ : ∃ c ∈ text, isSeparator c = true := by simpa using none
    obtain ⟨left, right, rfl⟩ := append_of_mem member
    have absent : separator ∉ part := fun inside => by simp [solid separator inside] at separates
    rw [infix_append_cons absent, splitOnP_append_cons left right separates,
      infix_iff_splitOnP solid left, infix_iff_splitOnP solid right]
    simp only [mem_append, or_and_right, exists_or]
termination_by text.length

theorem mem_iff_splitOn {separator c : Char} (other : c ≠ separator) (text : Text) :
    c ∈ text ↔ ∃ piece ∈ text.splitOn separator, c ∈ piece := by
  have solid : ∀ d ∈ [c], (d == separator) = false := by simpa using other
  have whole := infix_iff_splitOnP solid text
  simp only [singleton_infix_iff] at whole
  exact whole

theorem contains_iff_fields {text word : Text} (nonempty : word ≠ []) (solid : ∀ c ∈ word, isSpace c = false) :
    contains text word = true ↔ ∃ field ∈ fields text, word <:+: field := by
  rw [contains, decide_eq_true_iff, infix_iff_splitOnP solid]
  constructor
  · rintro ⟨piece, member, inside⟩
    have something : piece ≠ [] := by
      rintro rfl
      exact nonempty (infix_nil.mp inside)
    exact ⟨piece, mem_filter.mpr ⟨member, by simpa using something⟩, inside⟩
  · rintro ⟨field, member, inside⟩
    exact ⟨field, mem_of_mem_filter member, inside⟩

end Text

/-- `strings.TrimSpace` on strings. -/
def trimSpace (text : String) : String := String.ofList (Text.trimSpace text.toList)

theorem trimSpace_idem (text : String) : trimSpace (trimSpace text) = trimSpace text := by
  simp only [trimSpace, String.toList_ofList, Text.trimSpace_idem]

end Tierd.Data
