import Tierd.Data.Lines
import Tierd.Health.Alerts
import Tierd.Network.Files

namespace Tierd.Mdadm

open Tierd.Data

structure DetailArray where
  name : Text
  path : Text
  raidLevel : Text := []
  state : Text := []
  size : Nat := 0
  memberDisks : List Text := []
  activeDisks : Int := 0
  totalDisks : Int := 0
  /-- The text that is read as the percentage of the rebuild. -/
  rebuildPct : Option Text := none

def parseKV (line key : Text) : Text :=
  if Text.contains line (key ++ " :") then Text.trimSpace ((line.dropWhile (· ≠ ':')).drop 1) else []

/-- What a key, if the line has it, changes. -/
def onKey (line : Text) (key : String) (change : Text → DetailArray → DetailArray) (array : DetailArray) :
    DetailArray :=
  let value := parseKV line key.toList
  if value ≠ [] then change value array else array

/-- `strconv.ParseUint` in base ten with 64 bits. -/
def parseUint (text : Text) : Option Nat :=
  if text = [] ∨ text.all Char.isDigit = false then none
  else if Nat.ofDigitChars 10 text 0 < 2 ^ 64 then some (Nat.ofDigitChars 10 text 0) else none

def setSize (value : Text) (array : DetailArray) : DetailArray :=
  match parseUint ((Text.fields value).headD []) with
  | some n => { array with size := n * 1024 % 2 ^ 64 }
  | none => array

/-- Of the list of states only the first is kept. -/
def setState (value : Text) (array : DetailArray) : DetailArray :=
  { array with state := Network.toLower (Text.trimSpace ((value.splitOn ',').headD [])) }

def setRebuild (value : Text) (array : DetailArray) : DetailArray :=
  let complete := "% complete".toList
  let percent := if complete.isSuffixOf value then value.rdrop complete.length else value
  { array with rebuildPct := some (Text.trimSpace percent) }

def setLevel (value : Text) (array : DetailArray) : DetailArray := { array with raidLevel := value }

/-- `strconv.Atoi`, whose error is dropped. -/
def setActive (value : Text) (array : DetailArray) : DetailArray :=
  { array with activeDisks := (Network.atoi value).getD 0 }

def setTotal (value : Text) (array : DetailArray) : DetailArray :=
  { array with totalDisks := (Network.atoi value).getD 0 }

def parseKeys (line : Text) (array : DetailArray) : DetailArray :=
  array
    |> onKey line "Raid Level" setLevel
    |> onKey line "Array Size" setSize
    |> onKey line "State" setState
    |> onKey line "Active Devices" setActive
    |> onKey line "Total Devices" setTotal
    |> onKey line "Rebuild Status" setRebuild

/-- The line above the members. -/
def isTableHeading (line : Text) : Bool :=
  Text.startsWith line "Number" && Text.contains line "RaidDevice"

/-- The device is taken to be the seventh field. -/
def addMember (line : Text) (array : DetailArray) : DetailArray :=
  { array with memberDisks := array.memberDisks ++ ((Text.fields line)[6]?).toList }

def parseLine (state : DetailArray × Bool) (raw : Text) : DetailArray × Bool :=
  let line := Text.trimSpace raw
  let array := parseKeys line state.1
  if isTableHeading line then (array, true)
  else if state.2 ∧ line ≠ [] then (addMember line array, true)
  else (array, state.2)

def parseDetail (path output : Text) : DetailArray :=
  ((Text.lines output).foldl parseLine ({ name := (path.splitOn '/').getLastD [], path }, false)).1

/-- The cases of the switch in `checkMdadm`. -/
def health (state : Text) : Health.ArrayHealth :=
  if state = "degraded" then .degraded
  else if state = "inactive" then .inactive
  else if state = "failed" then .failed
  else .fine

def DetailArray.reading (array : DetailArray) : Health.ArrayReading where
  path := array.path
  name := array.name
  state := health array.state
  activeDisks := array.activeDisks.toNat
  totalDisks := array.totalDisks.toNat

structure Cell where
  blanks : Nat
  word : Text
  nonempty : word ≠ []
  solid : ∀ c ∈ word, Text.isSpace c = false

def Cell.text (cell : Cell) : Text := List.replicate (cell.blanks + 1) ' ' ++ cell.word

structure Row where
  numbers : List Cell
  state : List Cell
  device : Option Cell
  fourNumbers : numbers.length = 4
  numeric : ∀ cell ∈ numbers, ∀ c ∈ cell.word, c.isDigit = true ∨ c = '-'
  hasState : state ≠ []
  words : ∀ cell ∈ state, cell.word.head? ≠ some '/' ∧ cell.word.head? ≠ some ':'
  absolute : ∀ cell ∈ device, cell.word.head? = some '/'

def Row.cells (row : Row) : List Cell := row.numbers ++ row.state ++ row.device.toList

def Row.line (row : Row) : Text := row.cells.flatMap Cell.text

def Row.path (row : Row) : Option Text := row.device.map Cell.word

structure OtherLine where
  text : Text
  single : '\n' ∉ text
  stateless : Text.contains text "State :" = false
  noHeading : isTableHeading (Text.trimSpace text) = false

/-- What the command prints; `none` in the table is a blank line, as before the spares. -/
structure Detail where
  before : List OtherLine
  after : List OtherLine
  indent : Nat
  states : List Text
  trailing : Nat
  table : List (Option Row)
  stated : ∀ state ∈ states, state ≠ [] ∧ Text.trimSpace state = state ∧ ',' ∉ state ∧ '\n' ∉ state

def Detail.rows (detail : Detail) : List Row := detail.table.reduceOption

def tableLine (row : Option Row) : Text := row.elim [] Row.line

def Detail.stateLine (detail : Detail) : Text :=
  List.replicate detail.indent ' ' ++ "State : ".toList ++ (", ".toList).intercalate detail.states ++
    List.replicate detail.trailing ' '

def tableHeading : Text := "    Number   Major   Minor   RaidDevice State"

def Detail.lines (detail : Detail) : List Text :=
  detail.before.map OtherLine.text ++ [detail.stateLine] ++ detail.after.map OtherLine.text ++
    [tableHeading] ++ detail.table.map tableLine ++ [[]]

def Detail.render (detail : Detail) : Text := Lines.join detail.lines

end Tierd.Mdadm
