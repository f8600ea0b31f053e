import Tierd.Data.Ini
import Tierd.Data.Lines

namespace Tierd.Network.LinkFiles

open Tierd.Data List

inductive LineKind
  | ignored
  | heading (line : Text)
  | setting (line : Text)
  deriving DecidableEq

/-- Blank lines and comments are passed over. -/
def classify (raw : Text) : LineKind :=
  let line := Text.trimSpace raw
  if line = [] ∨ line.head? = some '#' ∨ line.head? = some ';' then .ignored
  else if line.head? = some '[' ∧ line.getLast? = some ']' then .heading line
  else .setting line

def matchHeading : Text := "[Match]"

def macAddress : Text := "MACAddress"

def permanentMACAddress : Text := "PermanentMACAddress"

/-- `strings.Cut` at the first equals sign, with both parts trimmed. -/
def readSetting (line : Text) : Option (Text × Text) :=
  (Ini.cut line '=').map fun parts => (Text.trimSpace parts.1, Text.trimSpace parts.2)

/-- The condition for the line that `permanentMACLinkFile` remembers. -/
def isMAC (line : Text) : Bool :=
  match readSetting line with
  | some (key, value) => key = macAddress && value ≠ []
  | none => false

structure Scan where
  heading : Text
  macLine : Option Nat
  selectors : Nat
  index : Nat

def scanLine (scan : Scan) (raw : Text) : Scan :=
  match classify raw with
  | .ignored => { scan with index := scan.index + 1 }
  | .heading line => { scan with heading := line, index := scan.index + 1 }
  | .setting line =>
    if scan.heading ≠ matchHeading then { scan with index := scan.index + 1 }
    else {
      scan with
      selectors := scan.selectors + 1
      macLine := if isMAC line then some scan.index else scan.macLine
      index := scan.index + 1 }

/-- The line that takes the place of the setting; what `strings.Cut` returns without an equals sign
is empty. -/
def permanentLine (raw : Text) : Text :=
  permanentMACAddress ++ '=' :: ((readSetting (Text.trimSpace raw)).map Prod.snd).getD []

/-- A sole match on the current address of the device becomes one on the permanent address. -/
def permanentMACLinkFile (content : Text) : Option Text :=
  let lines := Text.lines content
  let scan := lines.foldl scanLine ⟨[], none, 0, 0⟩
  match scan.macLine with
  | none => none
  | some i => if scan.selectors ≠ 1 then none else some (Lines.join (lines.set i (permanentLine (lines.getD i []))))

def nextHeading (heading raw : Text) : Text :=
  match classify raw with
  | .heading line => line
  | _ => heading

/-- The setting in a line, if it is under the heading `[Match]`. -/
def selected (heading raw : Text) : List Text :=
  match classify raw with
  | .setting line => if heading = matchHeading then [line] else []
  | _ => []

/-- The heading that is in force after some lines. -/
def headingAfter (heading : Text) (lines : List Text) : Text := lines.foldl nextHeading heading

/-- The settings of the `[Match]` sections. -/
def selectors (heading : Text) : List Text → List Text
  | [] => []
  | raw :: rest => selected heading raw ++ selectors (nextHeading heading raw) rest

def matchSettings (content : Text) : List (Option (Text × Text)) :=
  (selectors [] (Text.lines content)).map readSetting

theorem selectors_append (heading : Text) (first second : List Text) :
    selectors heading (first ++ second) = selectors heading first ++ selectors (headingAfter heading first) second := by
  induction first generalizing heading with
  | nil => rfl
  | cons raw rest ih =>
    simp only [cons_append, selectors, ih, append_assoc]
    rfl

theorem selected_cases (heading raw : Text) :
    selected heading raw = [] ∨
      ∃ line, selected heading raw = [line] ∧ classify raw = .setting line ∧ heading = matchHeading := by
  unfold selected
  split
  case h_1 line kind =>
    split
    case isTrue inMatch => exact Or.inr ⟨line, rfl, kind, inMatch⟩
    case isFalse => exact Or.inl rfl
  case h_2 => exact Or.inl rfl

theorem nextHeading_setting {heading raw line : Text} (kind : classify raw = .setting line) :
    nextHeading heading raw = heading := by
  simp [nextHeading, kind]

theorem selected_setting {raw line : Text} (kind : classify raw = .setting line) :
    selected matchHeading raw = [line] := by
  simp [selected, kind]

theorem selectors_eq_singleton {heading : Text} {lines : List Text} {line : Text}
    (sole : selectors heading lines = [line]) :
    ∃ before raw after, lines = before ++ raw :: after ∧ selectors heading before = [] ∧
      headingAfter heading before = matchHeading ∧ classify raw = .setting line ∧
        selectors matchHeading after = [] := by
  induction lines generalizing heading with
  | nil => cases sole
  | cons raw rest ih =>
    rw [selectors] at sole
    rcases selected_cases heading raw with nothing | ⟨other, here, kind, inMatch⟩
    · rw [nothing, nil_append] at sole
      obtain ⟨before, found, after, rfl, none, heading, kind, clear⟩ := ih sole
      exact ⟨raw :: before, found, after, rfl, by rw [selectors, nothing, none]; rfl, heading, kind, clear⟩
    · rw [here, nextHeading_setting kind, singleton_append] at sole
      obtain ⟨rfl, clear⟩ := List.cons.inj sole
      exact ⟨[], raw, rest, rfl, rfl, inMatch, kind, inMatch ▸ clear⟩

theorem selectors_replace {heading : Text} {before after : List Text} {raw line : Text}
    (none : selectors heading before = [])
    (inMatch : headingAfter heading before = matchHeading) (kind : classify raw = .setting line)
    (clear : selectors matchHeading after = []) : selectors heading (before ++ raw :: after) = [line] := by
  rw [selectors_append, none, inMatch, selectors, selected_setting kind, nextHeading_setting kind, clear]
  rfl

theorem scanLine_spec (scan : Scan) (raw : Text) :
    (scanLine scan raw).heading = nextHeading scan.heading raw ∧
    (scanLine scan raw).selectors = scan.selectors + (selected scan.heading raw).length ∧
    (scanLine scan raw).index = scan.index + 1 ∧
    (scanLine scan raw).macLine = if (selected scan.heading raw).any isMAC then some scan.index else scan.macLine := by
  unfold scanLine nextHeading selected
  cases classify raw with
  | ignored => exact ⟨rfl, rfl, rfl, rfl⟩
  | heading line => exact ⟨rfl, rfl, rfl, rfl⟩
  | setting line =>
    by_cases inMatch : scan.heading = matchHeading
    · simp [inMatch]
    · simp [inMatch]

theorem scan_spec (lines : List Text) (scan : Scan) :
    (lines.foldl scanLine scan).heading = headingAfter scan.heading lines ∧
    (lines.foldl scanLine scan).selectors = scan.selectors + (selectors scan.heading lines).length ∧
    (lines.foldl scanLine scan).index = scan.index + lines.length ∧
    (selectors scan.heading lines = [] → (lines.foldl scanLine scan).macLine = scan.macLine) := by
  induction lines generalizing scan with
  | nil => exact ⟨rfl, rfl, rfl, fun _ => rfl⟩
  | cons raw rest ih =>
    obtain ⟨heading, count, index, mac⟩ := ih (scanLine scan raw)
    obtain ⟨heading', count', index', mac'⟩ := scanLine_spec scan raw
    rw [foldl_cons, heading, count, index, heading', count', index', selectors, length_append,
      length_cons]
    refine ⟨rfl, by omega, by omega, fun none => ?_⟩
    obtain ⟨here, there⟩ := append_eq_nil_iff.mp none
    rw [mac (heading' ▸ there), mac', here]
    rfl

theorem trim_of_setting {raw line : Text} (kind : classify raw = .setting line) : line = Text.trimSpace raw := by
  unfold classify at kind
  dsimp only at kind
  split_ifs at kind
  exact (LineKind.setting.inj kind).symm

theorem isMAC_iff {line : Text} : isMAC line = true ↔ ∃ value, readSetting line = some (macAddress, value) ∧
    value ≠ [] := by
  unfold isMAC
  cases readSetting line with
  | none => simp
  | some setting => simp [Prod.ext_iff]

structure Sole (lines before : List Text) (raw : Text) (after : List Text) : Prop where
  split : lines = before ++ raw :: after
  noneBefore : selectors [] before = []
  inMatch : headingAfter [] before = matchHeading
  setting : classify raw = .setting (Text.trimSpace raw)
  noneAfter : selectors matchHeading after = []

theorem Sole.selectors {lines before after : List Text} {raw : Text} (sole : Sole lines before raw after) :
    selectors [] lines = [Text.trimSpace raw] := by
  rw [sole.split, selectors_replace sole.noneBefore sole.inMatch sole.setting sole.noneAfter]

theorem Sole.scan {lines before after : List Text} {raw : Text} (sole : Sole lines before raw after) :
    (lines.foldl scanLine ⟨[], none, 0, 0⟩).macLine = if isMAC (Text.trimSpace raw) then
      some before.length else none := by
  obtain ⟨heading, -, index, mac⟩ := scan_spec before ⟨[], none, 0, 0⟩
  rw [sole.split, foldl_append, foldl_cons]
  generalize before.foldl scanLine ⟨[], none, 0, 0⟩ = reached at heading index mac
  obtain ⟨heading', -, -, mac'⟩ := scanLine_spec reached raw
  rw [heading, sole.inMatch, nextHeading_setting sole.setting] at heading'
  rw [(scan_spec after (scanLine reached raw)).2.2.2 (heading' ▸ sole.noneAfter), mac', heading, sole.inMatch,
    selected_setting sole.setting, mac sole.noneBefore, index]
  simp

theorem exists_sole {lines : List Text} (one : (LinkFiles.selectors [] lines).length = 1) :
    ∃ before raw after, Sole lines before raw after := by
  obtain ⟨line, alone⟩ := length_eq_one_iff.mp one
  obtain ⟨before, raw, after, split, none, inMatch, kind, clear⟩ := selectors_eq_singleton alone
  rw [trim_of_setting kind] at kind
  exact ⟨before, raw, after, split, none, inMatch, kind, clear⟩

/-- Which files are rewritten, and to what. -/
theorem permanentMACLinkFile_eq_some {content new : Text} :
    permanentMACLinkFile content = some new ↔
      ∃ before raw after value, Sole (Text.lines content) before raw after ∧
        readSetting (Text.trimSpace raw) = some (macAddress, value) ∧ value ≠ [] ∧
        new = Lines.join (before ++ (permanentMACAddress ++ '=' :: value) :: after) := by
  have count := (scan_spec (Text.lines content) ⟨[], none, 0, 0⟩).2.1
  simp only [Nat.zero_add] at count
  unfold permanentMACLinkFile
  dsimp only
  rw [count]
  by_cases one : (selectors [] (Text.lines content)).length = 1
  · obtain ⟨before, raw, after, sole⟩ := exists_sole one
    have place : (Text.lines content).getD before.length [] = raw := by simp [sole.split]
    have spliced : ∀ line, (Text.lines content).set before.length line = before ++ line :: after := fun line => by
      simp [sole.split]
    have remembered := sole.scan
    cases mac : isMAC (Text.trimSpace raw) with
    | true =>
      obtain ⟨value, read, nonempty⟩ := isMAC_iff.mp mac
      simp only [mac, if_true] at remembered
      simp only [remembered, one, ne_eq, not_true_eq_false, if_false, place, spliced, permanentLine,
        read, Option.map_some,
        Option.getD_some, Option.some.injEq]
      constructor
      · rintro rfl
        exact ⟨before, raw, after, value, sole, read, nonempty, rfl⟩
      · rintro ⟨before', raw', after', value', sole', read', nonempty', rfl⟩
        have again := sole'.scan
        rw [remembered, isMAC_iff.mpr ⟨value', read', nonempty'⟩, if_pos rfl] at again
        obtain ⟨rfl, rest⟩ := append_inj (sole.split.symm.trans sole'.split) (Option.some.inj again)
        obtain ⟨rfl, rfl⟩ := List.cons.inj rest
        obtain rfl : value = value' := (Prod.mk.inj (Option.some.inj (read.symm.trans read'))).2
        rfl
    | false =>
      simp only [mac, Bool.false_eq_true, if_false] at remembered
      simp only [remembered, reduceCtorEq, false_iff]
      rintro ⟨before', raw', after', value, sole', read, nonempty, -⟩
      have same := sole.selectors.symm.trans sole'.selectors
      rw [(List.cons.inj same).1, isMAC_iff.mpr ⟨value, read, nonempty⟩] at mac
      cases mac
  · refine iff_of_false ?_ ?_
    · split
      · exact nofun
      · exact fun some => by simp [one] at some
    · rintro ⟨before, raw, after, value, sole, -⟩
      exact one (by rw [sole.selectors]; rfl)

theorem trimSpace_permanentLine {value : Text} (trimmed : Text.trimSpace value = value) (nonempty : value ≠ []) :
    Text.trimSpace (permanentMACAddress ++ '=' :: value) = permanentMACAddress ++ '=' :: value := by
  refine Ini.trimSpace_eq_self_iff.mpr ⟨?_, fun last listed => ?_⟩
  · intro c first
    obtain rfl : 'P' = c := Option.some.inj first
    decide
  · rw [List.getLast?_append_of_ne_nil _ (cons_ne_nil _ _), List.getLast?_cons_of_ne_nil nonempty] at listed
    exact (Ini.trimSpace_eq_self_iff.mp trimmed).2 last listed

theorem classify_permanentLine {value : Text} (trimmed : Text.trimSpace value = value) (nonempty : value ≠ []) :
    classify (permanentMACAddress ++ '=' :: value) = .setting (permanentMACAddress ++ '=' :: value) := by
  unfold classify
  rw [trimSpace_permanentLine trimmed nonempty]
  rfl

theorem readSetting_permanentLine {value : Text} (trimmed : Text.trimSpace value = value) :
    readSetting (permanentMACAddress ++ '=' :: value) = some (permanentMACAddress, value) := by
  unfold readSetting
  rw [Ini.cut_append (by decide), Option.map_some, trimmed]
  rfl

theorem value_of_readSetting {line key value : Text} (read : readSetting line = some (key, value)) :
    Text.trimSpace value = value ∧ ∀ c ∈ value, c ∈ line := by
  obtain ⟨⟨before, after⟩, found, same⟩ := Option.map_eq_some_iff.mp read
  obtain ⟨-, rfl⟩ := Prod.mk.inj same
  exact ⟨Text.trimSpace_idem after, fun c member => Ini.mem_of_cut found (Ini.mem_of_mem_trimSpace member)⟩

structure Rewrites (content new : Text) (value : Text) : Prop where
  oneLine : ∃ before raw after line, Text.lines content = before ++ raw :: after ∧
    Text.lines new = before ++ line :: after
  old : matchSettings content = [some (macAddress, value)]
  new : matchSettings new = [some (permanentMACAddress, value)]
  nonempty : value ≠ []

theorem rewrites_of_eq_some {content new : Text} (rewritten : permanentMACLinkFile content = some new) :
    ∃ value, Rewrites content new value := by
  obtain ⟨before, raw, after, value, sole, read, nonempty, rfl⟩ := permanentMACLinkFile_eq_some.mp rewritten
  obtain ⟨trimmed, inside⟩ := value_of_readSetting read
  have single : ∀ line ∈ before ++ (permanentMACAddress ++ '=' :: value) :: after, '\n' ∉ line := by
    intro line member
    have old : ∀ other ∈ before ++ raw :: after, '\n' ∉ other := fun other listed =>
      Lines.not_mem_lines (sole.split ▸ listed)
    rcases mem_append.mp member with front | back
    · exact old line (mem_append_left _ front)
    · rcases mem_cons.mp back with rfl | rest
      · intro newline
        rcases mem_append.mp newline with key | tail
        · exact absurd key (by decide)
        · rcases mem_cons.mp tail with sign | inValue
          · exact absurd sign (by decide)
          · exact old raw (mem_append_right _ mem_cons_self) (Ini.mem_of_mem_trimSpace (inside _ inValue))
      · exact old line (mem_append_right _ (mem_cons_of_mem raw rest))
  have lines : Text.lines (Lines.join (before ++ (permanentMACAddress ++ '=' :: value) :: after)) = _ :=
    Lines.lines_join single (by simp)
  refine ⟨value, ⟨before, raw, after, _, sole.split, lines⟩, ?_, ?_, nonempty⟩
  · rw [matchSettings, sole.selectors, map_singleton, read]
  · rw [matchSettings, lines, selectors_replace sole.noneBefore sole.inMatch (classify_permanentLine trimmed nonempty)
      sole.noneAfter, map_singleton, readSetting_permanentLine trimmed]

theorem permanentMACLinkFile_isSome {content : Text} :
    (permanentMACLinkFile content).isSome = true ↔ ∃ value, value ≠ [] ∧
      matchSettings content = [some (macAddress, value)] := by
  constructor
  · intro some
    obtain ⟨new, rewritten⟩ := Option.isSome_iff_exists.mp some
    obtain ⟨value, rewrites⟩ := rewrites_of_eq_some rewritten
    exact ⟨value, rewrites.nonempty, rewrites.old⟩
  · rintro ⟨value, nonempty, sole⟩
    have one : (selectors [] (Text.lines content)).length = 1 := by
      rw [← length_map, show (selectors [] (Text.lines content)).map readSetting = _ from sole]
      rfl
    obtain ⟨before, raw, after, split⟩ := exists_sole one
    rw [matchSettings, split.selectors, map_singleton] at sole
    exact Option.isSome_iff_exists.mpr ⟨_, permanentMACLinkFile_eq_some.mpr
      ⟨before, raw, after, value, split, (List.cons.inj sole).1, nonempty, rfl⟩⟩

/-- A rewritten file is not rewritten again. -/
theorem not_rewritten_again {content new : Text} (rewritten : permanentMACLinkFile content = some new) :
    permanentMACLinkFile new = none := by
  obtain ⟨value, rewrites⟩ := rewrites_of_eq_some rewritten
  refine Option.not_isSome_iff_eq_none.mp fun again => ?_
  obtain ⟨other, -, sole⟩ := permanentMACLinkFile_isSome.mp again
  rw [rewrites.new] at sole
  have keys : permanentMACAddress = macAddress := (Prod.mk.inj (Option.some.inj (List.cons.inj sole).1)).1
  exact absurd keys (by decide)

end Tierd.Network.LinkFiles
