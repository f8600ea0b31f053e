import Tierd.Mounts.Fstab

namespace Tierd.Mounts

open Tierd.Data List

structure IsWord (text : Text) : Prop where
  nonempty : text ≠ []
  solid : ∀ c ∈ text, Text.isSpace c = false

theorem IsWord.of_all {text : Text} (nonempty : text ≠ []) (solid : text.all (!Text.isSpace ·) = true) : IsWord text :=
  ⟨nonempty, fun c member => by simpa using all_eq_true.mp solid c member⟩

theorem fields_word {word : Text} (isWord : IsWord word) (rest : Text) :
    Text.fields (word ++ ' ' :: rest) = word :: Text.fields rest := by
  unfold Text.fields
  rw [splitOnP_append_cons word rest (by decide), splitOnP_eq_singleton isWord.solid,
    singleton_append, filter_cons_of_pos (by simpa using isWord.nonempty)]

theorem fields_entryLine {source mountPoint fs : Text} (sourceWord : IsWord source) (mountWord : IsWord mountPoint)
    (fsWord : IsWord fs) : Text.fields (entryLine source mountPoint fs) =
      [source, mountPoint, fs, "defaults,nofail".toList, ['0'], ['0']] := by
  have options : Text.fields "defaults,nofail 0 0".toList = ["defaults,nofail".toList, ['0'], ['0']] := by decide
  rw [entryLine, fields_word sourceWord, fields_word mountWord, fields_word fsWord, options]

theorem IsWord.single {word : Text} (isWord : IsWord word) : '\n' ∉ word := fun member =>
  absurd (isWord.solid _ member) (by decide)

theorem single_entryLine {source mountPoint fs : Text} (sourceWord : IsWord source) (mountWord : IsWord mountPoint)
    (fsWord : IsWord fs) : '\n' ∉ entryLine source mountPoint fs := by
  simp [entryLine, sourceWord.single, mountWord.single, fsWord.single]

section

variable {source mountPoint entry text line : Text}

theorem mentions_of_matches (matched : matchesEntry source mountPoint line = true) :
    Mentions source mountPoint line := by
  unfold matchesEntry at matched
  unfold Mentions
  split at matched
  case h_1 first second rest shape => simpa [shape] using matched
  case h_2 => nomatch matched

theorem matches_of_second (second : (Text.fields line)[1]? = some mountPoint) :
    matchesEntry source mountPoint line = true := by
  unfold matchesEntry
  cases shape : Text.fields line with
  | nil => simp [shape] at second
  | cons first rest =>
    cases rest with
    | nil => simp [shape] at second
    | cons other more =>
      have same : other = mountPoint := by simpa [shape] using second
      simp [same]

/-- A blank line names nothing. -/
theorem not_mentions_nil : ¬ Mentions source mountPoint [] := by
  have blank : Text.fields [] = [] := by decide
  simp [Mentions, blank]

theorem live_append (first second : List Text) :
    live source mountPoint (first ++ second) = live source mountPoint first ++ live source mountPoint second :=
  filter_append first second

theorem others_append (first second : List Text) :
    others source mountPoint (first ++ second) = others source mountPoint first ++ others source mountPoint second :=
  filter_append first second

theorem live_blanks {blanks : List Text} (empty : ∀ line ∈ blanks, line = []) : live source mountPoint blanks = [] := by
  refine filter_eq_nil_iff.mpr fun line member => ?_
  rw [empty line member]
  simp [not_mentions_nil]

theorem others_blanks {blanks : List Text} (empty : ∀ line ∈ blanks, line = []) :
    others source mountPoint blanks = blanks := by
  refine filter_eq_self.mpr fun line member => ?_
  rw [empty line member]
  simp [not_mentions_nil]

theorem others_cons_mentioned (mentioned : Mentions source mountPoint line) (rest : List Text) :
    others source mountPoint (line :: rest) = others source mountPoint rest :=
  filter_cons_of_neg (by simpa using mentioned)

theorem kept_of_blanks {before after : Text} {blanks : List Text}
    (longer : others source mountPoint (Text.lines after) = others source mountPoint (Text.lines before) ++ blanks)
    (empty : ∀ line ∈ blanks, line = []) : Kept source mountPoint before after := by
  have none : blanks.filter (· ≠ []) = [] := filter_eq_nil_iff.mpr fun line member => by simp [empty line member]
  refine ⟨?_, ?_⟩
  · rw [longer]
    exact sublist_append_left _ _
  · rw [longer, filter_append, none, append_nil]

def Tidy (source mountPoint text : Text) : Prop :=
  live source mountPoint ((Text.lines text).eraseP (matchesEntry source mountPoint)) = [] ∧
    ((∀ line ∈ Text.lines text, matchesEntry source mountPoint line = false) → text = [] ∨ ['\n'] <:+ text)
deriving Decidable

theorem removed_result {dropped : Text → Bool}
    (drops : ∀ line, (Text.fields line)[1]? = some mountPoint → dropped line = true)
    (spares : ∀ line, dropped line = true → Mentions source mountPoint line) (text : Text) :
    (∀ line ∈ Text.lines (withoutLines dropped text), (Text.fields line)[1]? ≠ some mountPoint) ∧
      Kept source mountPoint text (withoutLines dropped text) := by
  have single : ∀ line ∈ (Text.lines text).filter (!dropped ·), '\n' ∉ line := fun line member =>
    Lines.not_mem_lines (mem_filter.mp member).1
  obtain ⟨blanks, lines, empty⟩ := Lines.lines_closed_join single
  constructor
  · intro line member second
    rw [withoutLines, lines] at member
    rcases mem_append.mp member with kept | blank
    · have spared := (mem_filter.mp kept).2
      simp [drops line second] at spared
    · rw [empty line blank] at second
      have mentioned : Mentions source mountPoint [] := .inr second
      exact not_mentions_nil mentioned
  · have spared : others source mountPoint ((Text.lines text).filter (!dropped ·)) =
        others source mountPoint (Text.lines text) := by
      unfold others
      rw [filter_filter]
      refine filter_congr fun line _ => ?_
      by_cases gone : dropped line = true
      · simp [gone, spares line gone]
      · simp [gone]
    have longer : others source mountPoint (Text.lines (withoutLines dropped text)) =
        others source mountPoint (Text.lines text) ++ blanks := by
      rw [withoutLines, lines, others_append, others_blanks empty, spared]
    exact kept_of_blanks longer empty

variable (source mountPoint entry) in
structure IsEntry : Prop where
  found : matchesEntry source mountPoint entry = true
  effective : isComment entry = false
  single : '\n' ∉ entry
  nonempty : entry ≠ []

theorem IsEntry.live (isEntry : IsEntry source mountPoint entry) : live source mountPoint [entry] = [entry] := by
  simp [Mounts.live, isEntry.effective, mentions_of_matches isEntry.found]

theorem upsert_of_match {before after : List Text} {old : Text} (isEntry : IsEntry source mountPoint entry)
    (shape : Text.lines text = before ++ old :: after) (here : matchesEntry source mountPoint old = true)
    (earlier : ∀ line ∈ before, matchesEntry source mountPoint line = false) :
    ∃ blanks, Text.lines (upsertFSTabEntry source mountPoint entry text) = before ++ entry :: after ++ blanks ∧
      ∀ line ∈ blanks, line = [] := by
  have found : (Text.lines text).find? (matchesEntry source mountPoint) = some old := by
    rw [List.find?_eq_some_iff_append]
    exact ⟨here, before, after, shape, fun line member => by simp [earlier line member]⟩
  unfold upsertFSTabEntry
  rw [found]
  by_cases same : old = entry
  · exact ⟨[], by simp [same, shape], by simp⟩
  · simp only [if_neg same]
    rw [shape, Lines.replaceFirst_append earlier here]
    refine Lines.lines_closed_join fun line member => ?_
    have listed : ∀ line ∈ before ++ old :: after, '\n' ∉ line := shape ▸ fun line => Lines.not_mem_lines
    rcases mem_append.mp member with first | rest
    · exact listed line (mem_append_left _ first)
    · rcases mem_cons.mp rest with rfl | last
      · exact isEntry.single
      · exact listed line (mem_append_right _ (mem_cons_of_mem _ last))

theorem upsert_again {before after : List Text} (isEntry : IsEntry source mountPoint entry)
    (shape : Text.lines text = before ++ entry :: after)
    (earlier : ∀ line ∈ before, matchesEntry source mountPoint line = false) :
    upsertFSTabEntry source mountPoint entry text = text := by
  have found : (Text.lines text).find? (matchesEntry source mountPoint) = some entry := by
    rw [List.find?_eq_some_iff_append]
    exact ⟨isEntry.found, before, after, shape, fun line member => by simp [earlier line member]⟩
  rw [upsertFSTabEntry, found]
  simp

theorem ensured_of_match {before after : List Text} {old : Text} (isEntry : IsEntry source mountPoint entry)
    (shape : Text.lines text = before ++ old :: after) (here : matchesEntry source mountPoint old = true)
    (earlier : ∀ line ∈ before, matchesEntry source mountPoint line = false) :
    (live source mountPoint (Text.lines (upsertFSTabEntry source mountPoint entry text)) = [entry] ↔
        Tidy source mountPoint text) ∧
      Kept source mountPoint text (upsertFSTabEntry source mountPoint entry text) ∧
      upsertFSTabEntry source mountPoint entry (upsertFSTabEntry source mountPoint entry text) =
        upsertFSTabEntry source mountPoint entry text := by
  obtain ⟨blanks, lines, empty⟩ := upsert_of_match isEntry shape here earlier
  refine ⟨?_, ?_, ?_⟩
  · have erased : (Text.lines text).eraseP (matchesEntry source mountPoint) = before ++ after := by
      rw [shape, eraseP_append_right _ (by simpa using earlier), eraseP_cons_of_pos here]
    have matched : ¬ ∀ line ∈ Text.lines text, matchesEntry source mountPoint line = false := by
      intro none
      have absent := none old (by rw [shape]; simp)
      rw [here] at absent
      cases absent
    have parts : live source mountPoint (Text.lines (upsertFSTabEntry source mountPoint entry text)) =
        live source mountPoint before ++ entry :: live source mountPoint after := by
      rw [lines, live_append, live_blanks empty, append_nil, live_append, ← singleton_append, live_append,
        isEntry.live]
      rfl
    rw [parts, Tidy, erased, live_append, append_eq_nil_iff]
    constructor
    · intro one
      have lengths := congrArg List.length one
      simp only [length_append, length_cons, length_nil] at lengths
      refine ⟨⟨eq_nil_of_length_eq_zero (by omega), eq_nil_of_length_eq_zero (by omega)⟩, ?_⟩
      exact fun none => absurd none matched
    · rintro ⟨⟨first, second⟩, -⟩
      rw [first, second, nil_append]
  · have longer : others source mountPoint (Text.lines (upsertFSTabEntry source mountPoint entry text)) =
        others source mountPoint (Text.lines text) ++ blanks := by
      rw [lines, shape, others_append, others_blanks empty, others_append, others_append,
        others_cons_mentioned (mentions_of_matches isEntry.found), others_cons_mentioned (mentions_of_matches here)]
    exact kept_of_blanks longer empty
  · rw [append_assoc, cons_append] at lines
    exact upsert_again isEntry lines earlier

theorem ensured_of_none (isEntry : IsEntry source mountPoint entry)
    (unmatched : ∀ line ∈ Text.lines text, matchesEntry source mountPoint line = false) :
    (live source mountPoint (Text.lines (upsertFSTabEntry source mountPoint entry text)) = [entry] ↔
        Tidy source mountPoint text) ∧
      (Tidy source mountPoint text →
        Kept source mountPoint text (upsertFSTabEntry source mountPoint entry text) ∧
        upsertFSTabEntry source mountPoint entry (upsertFSTabEntry source mountPoint entry text) =
          upsertFSTabEntry source mountPoint entry text) := by
  have appended : upsertFSTabEntry source mountPoint entry text = text ++ entry ++ ['\n'] := by
    have absent : (Text.lines text).find? (matchesEntry source mountPoint) = none :=
      List.find?_eq_none.mpr fun line member => by simp [unmatched line member]
    rw [upsertFSTabEntry, absent]
  have erased : (Text.lines text).eraseP (matchesEntry source mountPoint) = Text.lines text :=
    eraseP_of_forall_not fun line member => by simp [unmatched line member]
  have tidy : Tidy source mountPoint text ↔
      live source mountPoint (Text.lines text) = [] ∧ (text = [] ∨ ['\n'] <:+ text) := by
    rw [Tidy, erased]
    exact and_congr_right fun _ => ⟨fun ends => ends unmatched, fun ends _ => ends⟩
  have blank : ∀ line ∈ [([] : Text)], line = [] := by simp
  rw [tidy, appended]
  by_cases ends : text = [] ∨ ['\n'] <:+ text
  · obtain ⟨before, lines, longer⟩ := Lines.lines_of_closed ends
    have after : Text.lines (text ++ entry ++ ['\n']) = before ++ entry :: [[]] := longer entry isEntry.single
    constructor
    · rw [after, lines, ← singleton_append, live_append, live_append, live_append, isEntry.live,
        live_blanks blank, append_nil, append_nil]
      simp [ends]
    · intro _
      constructor
      · have same : others source mountPoint (Text.lines (text ++ entry ++ ['\n'])) =
            others source mountPoint (Text.lines text) ++ [] := by
          rw [after, lines, others_append, others_cons_mentioned (mentions_of_matches isEntry.found), others_append,
            append_nil]
        exact kept_of_blanks same (by simp)
      · refine upsert_again isEntry after fun line member => unmatched line ?_
        rw [lines]
        exact mem_append_left _ member
  · obtain ⟨before, last, something, lines, longer⟩ := Lines.lines_of_open ends
    refine ⟨iff_of_false ?_ fun both => ends both.2, fun both => absurd both.2 ends⟩
    rw [longer entry isEntry.single]
    intro one
    have listed : entry ∈ live source mountPoint (before ++ [last ++ entry, []]) := by
      rw [one]
      exact mem_singleton_self entry
    rcases mem_append.mp (mem_filter.mp listed).1 with earlier | final
    · have absent := unmatched entry (by rw [lines]; exact mem_append_left _ earlier)
      rw [isEntry.found] at absent
      cases absent
    · simp [something, isEntry.nonempty] at final

theorem maintains_iff {ensure remove : Text → Except FstabError Text} {dropped : Text → Bool}
    (isEntry : IsEntry source mountPoint entry)
    (ensures : ∀ text, ensure text = .ok (upsertFSTabEntry source mountPoint entry text))
    (removes : ∀ text, remove text = .ok (withoutLines dropped text))
    (drops : ∀ line, (Text.fields line)[1]? = some mountPoint → dropped line = true)
    (spares : ∀ line, dropped line = true → Mentions source mountPoint line) :
    Maintains source mountPoint entry ensure remove text ↔ Tidy source mountPoint text := by
  have ensured : (live source mountPoint (Text.lines (upsertFSTabEntry source mountPoint entry text)) = [entry] ↔
        Tidy source mountPoint text) ∧
      (Tidy source mountPoint text →
        Kept source mountPoint text (upsertFSTabEntry source mountPoint entry text) ∧
        upsertFSTabEntry source mountPoint entry (upsertFSTabEntry source mountPoint entry text) =
          upsertFSTabEntry source mountPoint entry text) := by
    cases first : (Text.lines text).find? (matchesEntry source mountPoint) with
    | none =>
      refine ensured_of_none isEntry fun line member => ?_
      simpa using List.find?_eq_none.mp first line member
    | some old =>
      obtain ⟨here, before, after, shape, earlier⟩ := List.find?_eq_some_iff_append.mp first
      obtain ⟨one, kept, again⟩ := ensured_of_match isEntry shape here fun line member => by
        simpa using earlier line member
      exact ⟨one, fun _ => ⟨kept, again⟩⟩
  constructor
  · rintro ⟨after, removed, maintained⟩
    have written := (ensures text).symm.trans maintained.ensured
    cases written
    exact ensured.1.mp maintained.one
  · intro tidy
    obtain ⟨kept, again⟩ := ensured.2 tidy
    obtain ⟨gone, keptAgain⟩ := removed_result drops spares (upsertFSTabEntry source mountPoint entry text)
    exact ⟨_, _, ensures text, ensured.1.mpr tidy, kept, (ensures _).trans (by rw [again]), removes _, gone, keptAgain⟩

end

theorem isEntry_entryLine {source mountPoint fs : Text} (sourceWord : IsWord source)
    (effective : source.head? ≠ some '#') (mountWord : IsWord mountPoint) (fsWord : IsWord fs) :
    IsEntry source mountPoint (entryLine source mountPoint fs) where
  found := by
    rw [matchesEntry, fields_entryLine sourceWord mountWord fsWord]
    simp
  effective := by
    obtain ⟨first, rest, rfl⟩ := exists_cons_of_ne_nil sourceWord.nonempty
    have solid := sourceWord.solid first mem_cons_self
    have kept : Text.trimLeft (entryLine (first :: rest) mountPoint fs) = entryLine (first :: rest) mountPoint fs :=
      dropWhile_cons_of_neg (by simp [solid])
    rw [isComment, decide_eq_false_iff_not, kept]
    simpa [entryLine] using effective
  single := single_entryLine sourceWord mountWord fsWord
  nonempty := append_ne_nil_of_left_ne_nil sourceWord.nonempty _

namespace Lvm

theorem isSpace_of_isNameChar {c : Char} (allowed : isNameChar c = true) : Text.isSpace c = false := by
  have range : (97 ≤ c.toNat ∧ c.toNat ≤ 122) ∨ (65 ≤ c.toNat ∧ c.toNat ≤ 90) ∨ (48 ≤ c.toNat ∧ c.toNat ≤ 57) ∨
      c.toNat = 95 ∨ c.toNat = 45 := by
    simp only [isNameChar, Bool.or_eq_true, Bool.and_eq_true, decide_eq_true_eq, Char.le_def,
      UInt32.le_iff_toNat_le] at allowed
    rcases allowed with (((lower | upper) | digit) | rfl) | rfl
    · exact .inl lower
    · exact .inr (.inl upper)
    · exact .inr (.inr (.inl digit))
    · decide
    · decide
  unfold Text.isSpace
  generalize c.toNat = code at range
  simp
  omega

theorem head_device (vg name : Text) : (device vg name).head? = some '/' :=
  rfl

theorem isWord_device {vg name : Text} (vgValid : validateName vg = true) (nameValid : validateName name = true) :
    IsWord (device vg name) := by
  refine ⟨fun empty => ?_, fun c member => ?_⟩
  · have head := head_device vg name
    rw [empty] at head
    nomatch head
  simp only [validateName, Bool.and_eq_true, all_eq_true] at vgValid nameValid
  rcases mem_append.mp member with inGroup | inVolume
  · rcases mem_append.mp inGroup with literal | inVG
    · have literals : IsWord "/dev/" := .of_all (by decide) (by decide)
      exact literals.solid c literal
    · exact isSpace_of_isNameChar (vgValid.2 c inVG)
  · rcases mem_cons.mp inVolume with rfl | inName
    · decide
    · exact isSpace_of_isNameChar (nameValid.2 c inName)

theorem isWord_mountPoint {mountPoint : Text} (valid : validateMountPoint mountPoint = .ok ()) : IsWord mountPoint := by
  have accepted : mountPointRe mountPoint = true := by
    unfold validateMountPoint at valid
    split at valid
    case isTrue => cases valid
    case isFalse other => simpa using other
  unfold mountPointRe at accepted
  split at accepted
  case h_2 => cases accepted
  case h_1 root first rest shape =>
    simp only [Bool.and_eq_true, decide_eq_true_eq, all_eq_true, Bool.or_eq_true] at accepted
    obtain ⟨rfl, parts⟩ := accepted
    constructor
    · rintro rfl
      simp at shape
    · intro c member
      by_cases separator : c = '/'
      · subst separator
        decide
      · obtain ⟨piece, listed, inside⟩ := (Text.mem_iff_splitOn separator mountPoint).mp member
        rw [shape] at listed
        rcases mem_cons.mp listed with rfl | listed
        · nomatch inside
        rcases mem_cons.mp listed with rfl | listed
        · have literals : IsWord "mnt" := .of_all (by decide) (by decide)
          exact literals.solid c inside
        · rcases (parts piece listed).2 c inside with allowed | rfl
          · exact isSpace_of_isNameChar allowed
          · decide

theorem isWord_filesystem {fs : Text} (valid : validateFilesystem fs = .ok ()) : IsWord fs := by
  unfold validateFilesystem at valid
  split at valid
  case isFalse => cases valid
  case isTrue known =>
    have words : ∀ fs ∈ ["xfs".toList, "ext4".toList, "btrfs".toList, "bcachefs".toList],
        fs ≠ [] ∧ fs.all (!Text.isSpace ·) = true := by decide
    exact .of_all (words fs known).1 (words fs known).2

end Lvm

/-- Both packages keep fstab in order exactly when no other line in effect names the source or the
mount point and, if no line matches, the text is empty or ends with a line end. -/
theorem fstab_edits (text : Text) :
    (∀ source mountPath kind : Text, IsWord source → source.head? ≠ some '#' → IsWord mountPath → IsWord kind →
      (Maintains source mountPath (entryLine source mountPath kind) (FsArray.ensureFSTabEntry source mountPath kind)
        (FsArray.removeFSTabEntry mountPath) text ↔ Tidy source mountPath text)) ∧
    ∀ vg name mountPoint fs : Text, Lvm.validateName vg = true → Lvm.validateName name = true →
      Lvm.validateMountPoint mountPoint = .ok () → Lvm.validateFilesystem fs = .ok () →
      (Maintains (Lvm.device vg name) mountPoint (entryLine (Lvm.device vg name) mountPoint fs)
        (Lvm.ensureFSTabEntry vg name mountPoint fs) (Lvm.removeFSTabEntry vg name mountPoint) text ↔
          Tidy (Lvm.device vg name) mountPoint text) := by
  constructor
  · intro source mountPath kind sourceWord effective mountWord kindWord
    refine maintains_iff (isEntry_entryLine sourceWord effective mountWord kindWord) (fun _ => rfl) (fun _ => rfl) ?_ ?_
    · intro line second
      simpa using second
    · intro line dropped
      exact .inr (by simpa using dropped)
  · intro vg name mountPoint fs vgValid nameValid mountValid fsValid
    have isEntry := isEntry_entryLine (Lvm.isWord_device vgValid nameValid) (by rw [Lvm.head_device]; decide)
      (Lvm.isWord_mountPoint mountValid) (Lvm.isWord_filesystem fsValid)
    refine maintains_iff isEntry (fun text => ?_) (fun text => ?_) (fun line => matches_of_second)
      fun line => mentions_of_matches
    · simp only [Lvm.ensureFSTabEntry, fsValid, mountValid]
      rfl
    · simp only [Lvm.removeFSTabEntry, mountValid]
      rfl

/-- Both packages on a text with a comment, the entry of another volume and a stale one of this
mount point. -/
theorem stale_entry_replaced :
    Maintains "LABEL=media" "/mnt/media"
        (entryLine "LABEL=media" "/mnt/media" "btrfs")
        (FsArray.ensureFSTabEntry "LABEL=media" "/mnt/media" "btrfs")
        (FsArray.removeFSTabEntry "/mnt/media")
        "# disks\n/dev/sda1 / ext4\n/dev/sdb /mnt/media xfs" ∧
      Maintains (Lvm.device "vg" "data") "/mnt/media"
        (entryLine (Lvm.device "vg" "data") "/mnt/media" "xfs")
        (Lvm.ensureFSTabEntry "vg" "data" "/mnt/media" "xfs")
        (Lvm.removeFSTabEntry "vg" "data" "/mnt/media")
        "# disks\n/dev/sda1 / ext4\n/dev/sdb /mnt/media xfs" := by
  obtain ⟨arrays, volumes⟩ := fstab_edits "# disks\n/dev/sda1 / ext4\n/dev/sdb /mnt/media xfs"
  constructor
  · exact (arrays _ _ _ (.of_all (by decide) (by decide)) (by decide) (.of_all (by decide) (by decide))
      (.of_all (by decide) (by decide))).mpr (by decide +kernel)
  · exact (volumes _ _ _ _ (by decide) (by decide) (by decide) (by decide)).mpr (by decide +kernel)

/-- The last line has no end and takes the entry; a comment is rewritten and the entry below it
stays, as does a second stale entry. -/
theorem fstab_edits_go_wrong :
    FsArray.ensureFSTabEntry "LABEL=m" "/mnt/m" "btrfs" "/dev/sda1 / ext4" =
        .ok "/dev/sda1 / ext4LABEL=m /mnt/m btrfs defaults,nofail 0 0\n" ∧
    FsArray.ensureFSTabEntry "LABEL=m" "/mnt/m" "btrfs"
        "# /mnt/m is the media array\nLABEL=old /mnt/m xfs\n" =
      .ok "LABEL=m /mnt/m btrfs defaults,nofail 0 0\nLABEL=old /mnt/m xfs\n" ∧
    Lvm.ensureFSTabEntry "vg" "data" "/mnt/m" "xfs"
        "/dev/vg/data /mnt/old xfs\n/dev/sdb /mnt/m ext4\n" =
      .ok "/dev/vg/data /mnt/m xfs defaults,nofail 0 0\n/dev/sdb /mnt/m ext4\n" ∧
    ¬ Maintains "LABEL=m" "/mnt/m" (entryLine "LABEL=m" "/mnt/m" "btrfs")
        (FsArray.ensureFSTabEntry "LABEL=m" "/mnt/m" "btrfs")
        (FsArray.removeFSTabEntry "/mnt/m") "/dev/sda1 / ext4" ∧
    ¬ Maintains (Lvm.device "vg" "data") "/mnt/m"
        (entryLine (Lvm.device "vg" "data") "/mnt/m" "xfs")
        (Lvm.ensureFSTabEntry "vg" "data" "/mnt/m" "xfs")
        (Lvm.removeFSTabEntry "vg" "data" "/mnt/m")
        "/dev/vg/data /mnt/old xfs\n/dev/sdb /mnt/m ext4\n" := by
  refine ⟨by decide +kernel, by decide +kernel, by decide +kernel, ?_, ?_⟩
  · rintro ⟨after, removed, maintained⟩
    have one := maintained.one
    obtain rfl := Except.ok.inj maintained.ensured
    exact absurd one (by decide +kernel)
  · rintro ⟨after, removed, maintained⟩
    have one := maintained.one
    obtain rfl := Except.ok.inj maintained.ensured
    exact absurd one (by decide +kernel)

end Tierd.Mounts
