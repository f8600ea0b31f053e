import Tierd.Data.Text

namespace Tierd.Data.Text

open List

theorem fields_append_cons (left right : Text) {c : Char} (space : isSpace c = true) :
    fields (left ++ c :: right) = fields left ++ fields right := by
  unfold fields
  rw [splitOnP_append_cons left right space, filter_append]

theorem fields_solid {word : Text} (nonempty : word ≠ []) (solid : ∀ c ∈ word, isSpace c = false) :
    fields word = [word] := by
  unfold fields
  rw [splitOnP_eq_singleton solid]
  simp [nonempty]

theorem fields_blank {text : Text} (blank : ∀ c ∈ text, isSpace c = true) : fields text = [] := by
  induction text with
  | nil => rfl
  | cons c rest ih =>
    have split := fields_append_cons [] rest (blank c mem_cons_self)
    rw [nil_append] at split
    rw [split, ih fun d later => blank d (mem_cons_of_mem c later)]
    rfl

/-- Blanks at the end make no field. -/
theorem fields_rdropWhile (text : Text) : fields (text.rdropWhile isSpace) = fields text := by
  have whole : text.rdropWhile isSpace ++ text.rtakeWhile isSpace = text := rdropWhile_append_rtakeWhile
  have blank : ∀ c ∈ text.rtakeWhile isSpace, isSpace c = true := fun c => mem_rtakeWhile_imp
  cases tail : text.rtakeWhile isSpace with
  | nil =>
    rw [tail, append_nil] at whole
    rw [whole]
  | cons c rest =>
    rw [tail] at whole blank
    have split := fields_append_cons (text.rdropWhile isSpace) rest (blank c mem_cons_self)
    rw [whole] at split
    rw [split, fields_blank fun d later => blank d (mem_cons_of_mem c later), append_nil]

theorem trimSpace_append {first last : Char} {middle : Text} (starts : isSpace first = false)
    (ends : isSpace last = false)
    (rest : Text) :
    trimSpace (first :: middle ++ last :: rest) = first :: middle ++ last :: rest.rdropWhile isSpace := by
  have left : trimLeft (first :: middle ++ last :: rest) = first :: middle ++ last :: rest := by
    simp [trimLeft, starts]
  have right : (first :: middle ++ last :: rest).rdropWhile isSpace =
      first :: middle ++ last :: rest.rdropWhile isSpace := by
    unfold List.rdropWhile
    simp only [reverse_append, reverse_cons, append_assoc, singleton_append, dropWhile_append]
    split
    case isTrue empty => simp [isEmpty_iff.mp empty, ends]
    case isFalse => simp
  calc trimSpace (first :: middle ++ last :: rest)
      = (trimLeft (first :: middle ++ last :: rest)).rdropWhile isSpace := rfl
    _ = first :: middle ++ last :: rest.rdropWhile isSpace := by rw [left, right]

theorem fields_cons_space {c : Char} (space : isSpace c = true) (rest : Text) : fields (c :: rest) = fields rest :=
  fields_append_cons [] rest space

theorem fields_append_blank {blank : Text} (spaces : ∀ c ∈ blank, isSpace c = true) (text : Text) :
    fields (blank ++ text) = fields text := by
  induction blank with
  | nil => rfl
  | cons c rest ih =>
    rw [cons_append, fields_cons_space (spaces c mem_cons_self)]
    exact ih fun d later => spaces d (mem_cons_of_mem c later)

theorem fields_trimSpace (text : Text) : fields (trimSpace text) = fields text := by
  have whole : text.takeWhile isSpace ++ trimLeft text = text := takeWhile_append_dropWhile
  calc fields (trimSpace text)
      = fields ((trimLeft text).rdropWhile isSpace) := rfl
    _ = fields (trimLeft text) := fields_rdropWhile _
    _ = fields (text.takeWhile isSpace ++ trimLeft text) :=
        (fields_append_blank (fun c => mem_takeWhile_imp) _).symm
    _ = fields text := by rw [whole]

theorem trimSpace_blank_append {blank : Text} (spaces : ∀ c ∈ blank, isSpace c = true) (text : Text) :
    trimSpace (blank ++ text) = trimSpace text := by
  have left : trimLeft (blank ++ text) = trimLeft text := dropWhile_append_of_pos spaces
  unfold trimSpace
  rw [left]

theorem trimSpace_append_blank {blank : Text} (spaces : ∀ c ∈ blank, isSpace c = true) (text : Text) :
    trimSpace (text ++ blank) = trimSpace text := by
  have backwards : ∀ c ∈ blank.reverse, isSpace c = true := fun c member => spaces c (mem_reverse.mp member)
  unfold trimSpace
  by_cases all : ∀ c ∈ text, isSpace c = true
  · have nothing : ∀ {other : Text}, (∀ c ∈ other, isSpace c = true) → trimLeft other = [] :=
      fun blankOther => dropWhile_eq_nil_iff.mpr blankOther
    rw [nothing all, nothing (forall_mem_append.mpr ⟨all, spaces⟩)]
  · have left : trimLeft (text ++ blank) = trimLeft text ++ blank := by
      unfold trimLeft
      rw [dropWhile_append, if_neg]
      rwa [List.isEmpty_iff, List.dropWhile_eq_nil_iff]
    rw [left, reverse_append]
    congr 1
    exact dropWhile_append_of_pos backwards

theorem fields_word_append {word rest : Text} (nonempty : word ≠ []) (solid : ∀ c ∈ word, isSpace c = false)
    (apart : ∀ c, rest.head? = some c → isSpace c = true) : fields (word ++ rest) = word :: fields rest := by
  cases rest with
  | nil => rw [append_nil, fields_solid nonempty solid, fields_blank (by simp)]
  | cons c more =>
    have space : isSpace c = true := apart c rfl
    rw [fields_append_cons word more space, fields_solid nonempty solid, fields_cons_space space, singleton_append]

theorem fields_cons_solid {c : Char} (solid : isSpace c = false) (rest : Text) :
    ∃ word more, fields (c :: rest) = (c :: word) :: more := by
  have whole : rest.takeWhile (fun d => !isSpace d) ++ rest.dropWhile (fun d => !isSpace d) = rest :=
    takeWhile_append_dropWhile
  have unspaced : ∀ d ∈ c :: rest.takeWhile (fun d => !isSpace d), isSpace d = false := by
    intro d member
    rcases mem_cons.mp member with rfl | later
    · exact solid
    · simpa using mem_takeWhile_imp later
  have apart : ∀ d, (rest.dropWhile fun d => !isSpace d).head? = some d → isSpace d = true := by
    intro d first
    have stop := List.head?_dropWhile_not (fun d => !isSpace d) rest
    rw [first] at stop
    simpa using stop
  refine ⟨rest.takeWhile (fun d => !isSpace d), fields (rest.dropWhile fun d => !isSpace d), ?_⟩
  rw [← fields_word_append (cons_ne_nil _ _) unspaced apart, cons_append, whole]

end Tierd.Data.Text
