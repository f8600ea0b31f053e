import Tierd.Data.Paths

namespace Tierd.Data.Addresses

open List

def isHexDigit (c : Char) : Bool := c.isDigit || ('a' ≤ c && c ≤ 'f') || ('A' ≤ c && c ≤ 'F')

/-- A number up to 255 without leading zeros. -/
def isOctet (part : Text) : Bool :=
  part.all Char.isDigit && part ≠ [] && (part.head? ≠ some '0' || part = ['0']) && Nat.ofDigitChars 10 part 0 ≤ 255

def isIPv4 (text : Text) : Bool :=
  let parts := text.splitOn '.'
  parts.length = 4 && parts.all isOctet

/-- The groups of an IPv6 address from the current one on.  `left` groups of sixteen bits are
still missing, `ellipsis` tells whether the double colon was there. -/
def isIPv6Groups : (left : Nat) → (ellipsis : Bool) → Text → Bool
  | 0, _, _ => false
  | left + 1, ellipsis, text =>
    let digits := text.takeWhile isHexDigit
    if digits.length = 0 ∨ 4 < digits.length then false
    else
      match text.dropWhile isHexDigit with
      | [] => if left = 0 then !ellipsis else ellipsis
      | '.' :: _ =>
        (if ellipsis then decide (2 ≤ left) else decide (left = 1)) && isIPv4 text
      | ':' :: ':' :: rest =>
        if ellipsis ∨ left = 0 then false else if rest = [] then true else isIPv6Groups left true rest
      | ':' :: rest => isIPv6Groups left ellipsis rest
      | _ => false

def isIPv6 : Text → Bool
  | ':' :: ':' :: rest => if rest = [] then true else isIPv6Groups 8 true rest
  | text => isIPv6Groups 8 false text

/-- Whether `net.ParseIP` returns an address: the first dot or colon decides its kind. -/
def parseIP (text : Text) : Bool :=
  match text.find? fun c => c == '.' || c == ':' || c == '%' with
  | some '.' => isIPv4 text
  | some ':' => isIPv6 text
  | _ => false

theorem forall_of_splitOn (separator : Char) (allowed : Char → Prop) {text : Text} (between : allowed separator)
    (within : ∀ part ∈ text.splitOn separator, ∀ c ∈ part, allowed c) : ∀ c ∈ text, allowed c := by
  induction text with
  | nil => simp
  | cons c rest ih =>
    unfold List.splitOn at ih within
    rw [splitOnP_cons_eq_if_modifyHead] at within
    split at within
    case isTrue same =>
      have same : c = separator := by simpa using same
      intro d listed
      rcases mem_cons.mp listed with rfl | later
      · exact same ▸ between
      · exact ih (fun part member => within part (mem_cons_of_mem _ member)) d later
    case isFalse =>
      cases parts : rest.splitOnP (· == separator) with
      | nil => exact absurd parts (splitOnP_ne_nil _ _)
      | cons head tail =>
        simp only [parts, modifyHead_cons, mem_cons, forall_eq_or_imp] at within ih
        obtain ⟨⟨first, inHead⟩, inTail⟩ := within
        intro d listed
        rcases mem_cons.mp listed with rfl | later
        · exact first
        · exact ih ⟨inHead, inTail⟩ d later

def isAddressChar (c : Char) : Bool := isHexDigit c || c == '.' || c == ':'

theorem isSpace_of_isAddressChar {c : Char} (inside : isAddressChar c = true) : Text.isSpace c = false := by
  simp only [isAddressChar, isHexDigit, Bool.or_eq_true, Bool.and_eq_true, decide_eq_true_eq, beq_iff_eq] at inside
  rcases inside with (((digit | lower) | upper) | rfl) | rfl
  · exact Text.isSpace_of_isDigit digit
  · have range : 97 ≤ c.toNat ∧ c.toNat ≤ 102 := lower
    unfold Text.isSpace
    generalize c.toNat = code at range
    simp
    omega
  · have range : 65 ≤ c.toNat ∧ c.toNat ≤ 70 := upper
    unfold Text.isSpace
    generalize c.toNat = code at range
    simp
    omega
  · decide
  · decide

theorem isIPv4_chars {text : Text} (valid : isIPv4 text = true) : ∀ c ∈ text, isAddressChar c = true := by
  simp only [isIPv4, Bool.and_eq_true, all_eq_true] at valid
  have dot : isAddressChar '.' = true := by decide
  refine forall_of_splitOn '.' (isAddressChar · = true) dot fun part listed c inside => ?_
  have octet := valid.2 part listed
  simp only [isOctet, Bool.and_eq_true, all_eq_true] at octet
  simp [isAddressChar, isHexDigit, octet.1.1.1 c inside]

theorem colon_chars {rest : Text} (valid : ∀ c ∈ rest, isAddressChar c = true) :
    ∀ c ∈ ':' :: rest, isAddressChar c = true :=
  forall_mem_cons.mpr ⟨by decide, valid⟩

theorem isIPv6Groups_chars {left : Nat} {ellipsis : Bool} {text : Text}
    (valid : isIPv6Groups left ellipsis text = true) :
    ∀ c ∈ text, isAddressChar c = true := by
  induction left generalizing ellipsis text with
  | zero => simp [isIPv6Groups] at valid
  | succ left ih =>
    have group : ∀ c ∈ text.takeWhile isHexDigit, isAddressChar c = true := fun c inside => by
      simp [isAddressChar, mem_takeWhile_imp inside]
    have rest : ∀ c ∈ text.dropWhile isHexDigit, isAddressChar c = true := by
      have part : ∀ c ∈ text.dropWhile isHexDigit, c ∈ text := (dropWhile_suffix _).subset
      simp only [isIPv6Groups] at valid
      split at valid
      · cases valid
      generalize text.dropWhile isHexDigit = after at valid part ⊢
      split at valid
      · simp
      · simp only [Bool.and_eq_true] at valid
        exact fun c listed => isIPv4_chars valid.2 c (part c listed)
      · split_ifs at valid with again ended
        · exact colon_chars (colon_chars (by simp [ended]))
        · exact colon_chars (colon_chars (ih valid))
      · exact colon_chars (ih valid)
      · cases valid
    intro c listed
    rw [← takeWhile_append_dropWhile (p := isHexDigit) (l := text)] at listed
    rcases mem_append.mp listed with inside | after
    · exact group c inside
    · exact rest c after

theorem isIPv6_chars {text : Text} (valid : isIPv6 text = true) : ∀ c ∈ text, isAddressChar c = true := by
  unfold isIPv6 at valid
  split at valid
  · split_ifs at valid with ended
    · exact colon_chars (colon_chars (by simp [ended]))
    · exact colon_chars (colon_chars (isIPv6Groups_chars valid))
  · exact isIPv6Groups_chars valid

theorem parseIP_chars {text : Text} (valid : parseIP text = true) : ∀ c ∈ text, isAddressChar c = true := by
  unfold parseIP at valid
  split at valid
  · exact isIPv4_chars valid
  · exact isIPv6_chars valid
  · cases valid

theorem parseIP_solid {text : Text} (valid : parseIP text = true) : ∀ c ∈ text, Text.isSpace c = false :=
  fun c listed => isSpace_of_isAddressChar (parseIP_chars valid c listed)

end Tierd.Data.Addresses
