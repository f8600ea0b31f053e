import Tierd.Data.Paths

namespace Tierd.Data.Lines

open List

/-- `strings.Join` at line ends. -/
def join (lines : List Text) : Text := ['\n'].intercalate lines

/-- A line end is added to a text that does not end in one. -/
def closed (text : Text) : Text := if ['\n'] <:+ text then text else text ++ ['\n']

/-- Replaces the first line that meets a condition. -/
def replaceFirst (condition : Text → Bool) (line : Text) : List Text → List Text
  | [] => []
  | first :: rest => if condition first then line :: rest else first :: replaceFirst condition line rest

theorem replaceFirst_append {condition : Text → Bool} {before : List Text} {old : Text}
    (earlier : ∀ line ∈ before, condition line = false) (here : condition old = true) (line : Text)
    (after : List Text) :
    replaceFirst condition line (before ++ old :: after) = before ++ line :: after := by
  induction before with
  | nil => simp [replaceFirst, here]
  | cons first rest ih =>
    have skipped := earlier first mem_cons_self
    rw [cons_append, replaceFirst, if_neg (by simp [skipped]), ih fun other member =>
      earlier other (mem_cons_of_mem first member)]
    rfl

theorem not_mem_lines {text line : Text} (member : line ∈ Text.lines text) : '\n' ∉ line :=
  Paths.not_mem_of_mem_splitOn member

theorem lines_join {lines : List Text} (single : ∀ line ∈ lines, '\n' ∉ line) (some : lines ≠ []) :
    Text.lines (join lines) = lines :=
  splitOn_intercalate '\n' single some

theorem lines_append_line (text line : Text) (single : '\n' ∉ line) :
    Text.lines (text ++ '\n' :: line) = Text.lines text ++ [line] := by
  unfold Text.lines
  rw [Paths.splitOn_append_cons, splitOn_eq_singleton single]

/-- Closing a text adds empty lines only. -/
theorem lines_closed_join {lines : List Text} (single : ∀ line ∈ lines, '\n' ∉ line) :
    ∃ blanks, Text.lines (closed (join lines)) = lines ++ blanks ∧ ∀ line ∈ blanks, line = [] := by
  by_cases some : lines = []
  · subst some
    exact ⟨[[], []], by decide, by simp⟩
  · unfold closed
    split
    case isTrue => exact ⟨[], by rw [lines_join single some, append_nil], by simp⟩
    case isFalse => exact ⟨[[]], by rw [lines_append_line _ _ (by simp), lines_join single some], by simp⟩

theorem lines_of_closed {text : Text} (ends : text = [] ∨ ['\n'] <:+ text) :
    ∃ lines, Text.lines text = lines ++ [[]] ∧ ∀ line, '\n' ∉ line →
      Text.lines (text ++ line ++ ['\n']) = lines ++ [line, []] := by
  rcases ends with rfl | ⟨before, rfl⟩
  · refine ⟨[], rfl, fun line single => ?_⟩
    rw [nil_append, lines_append_line _ _ (by simp)]
    simp [Text.lines, splitOn_eq_singleton single]
  · refine ⟨Text.lines before, lines_append_line before [] (by simp), fun line single => ?_⟩
    rw [lines_append_line _ _ (by simp), append_assoc, singleton_append, lines_append_line _ _ single]
    simp

theorem lines_of_open {text : Text} (opens : ¬ (text = [] ∨ ['\n'] <:+ text)) :
    ∃ lines last, last ≠ [] ∧ Text.lines text = lines ++ [last] ∧
      ∀ line, '\n' ∉ line → Text.lines (text ++ line ++ ['\n']) = lines ++ [last ++ line, []] := by
  push Not at opens
  by_cases several : '\n' ∈ text
  · obtain ⟨after, before, split, single⟩ := eq_append_cons_of_mem (mem_reverse.mpr several)
    have whole : text = before.reverse ++ '\n' :: after.reverse := by
      rw [← reverse_reverse text, split]
      simp
    have last : '\n' ∉ after.reverse := fun member => single (mem_reverse.mp member)
    refine ⟨Text.lines before.reverse, after.reverse, ?_, ?_, fun line free => ?_⟩
    · intro empty
      exact opens.2 ⟨before.reverse, by rw [whole, empty]⟩
    · rw [whole, lines_append_line _ _ last]
    · have longer : '\n' ∉ after.reverse ++ line := by simp_all
      rw [whole, lines_append_line _ _ (by simp), append_assoc, cons_append, lines_append_line _ _ longer]
      simp
  · refine ⟨[], text, opens.1, splitOn_eq_singleton several, fun line free => ?_⟩
    have longer : '\n' ∉ text ++ line := by simp_all
    rw [lines_append_line _ _ (by simp), Text.lines, splitOn_eq_singleton longer]
    rfl

end Tierd.Data.Lines
