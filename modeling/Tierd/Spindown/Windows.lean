import Tierd.Data.Zones
import Tierd.Network.Files

namespace Tierd.Spindown

open Tierd.Data

/-- One that closes no later than it opens ends on the next day. -/
structure ActiveWindow where
  days : List Text
  start : Text
  stop : Text
  deriving DecidableEq

def dayName : Weekday → Text
  | .mon => "mon"
  | .tue => "tue"
  | .wed => "wed"
  | .thu => "thu"
  | .fri => "fri"
  | .sat => "sat"
  | .sun => "sun"

def quoted (text : Text) : Text := "\x22" ++ text ++ "\x22"

def expandDay (word : Text) : Option (List Weekday) :=
  if word = "daily" ∨ word = "all" then some week
  else if word = "weekdays" then some [.mon, .tue, .wed, .thu, .fri]
  else if word = "weekends" then some [.sat, .sun]
  else if word = "mon" ∨ word = "monday" then some [.mon]
  else if word = "tue" ∨ word = "tuesday" then some [.tue]
  else if word = "wed" ∨ word = "wednesday" then some [.wed]
  else if word = "thu" ∨ word = "thursday" then some [.thu]
  else if word = "fri" ∨ word = "friday" then some [.fri]
  else if word = "sat" ∨ word = "saturday" then some [.sat]
  else if word = "sun" ∨ word = "sunday" then some [.sun]
  else none

def expandDays : List Text → Except Text (List Weekday)
  | [] => .ok []
  | word :: rest =>
    match expandDay (Network.toLower (Text.trimSpace word)) with
    | none => .error ("invalid active window day " ++ quoted word)
    | some names => do return names ++ (← expandDays rest)

def normalizeDays (days : List Text) : Except Text (List Text) :=
  if days = [] then .ok (week.map dayName)
  else do
    let expanded ← expandDays days
    return (week.filter (· ∈ expanded)).map dayName

def parseClock (text : Text) : Except Text Int :=
  match text.splitOn ':' with
  | [hours, minutes] =>
    match Network.atoi hours with
    | none => .error "hour must be 00-23"
    | some h =>
      if h < 0 ∨ 23 < h then .error "hour must be 00-23"
      else
        match Network.atoi minutes with
        | none => .error "minute must be 00-59"
        | some m => if m < 0 ∨ 59 < m then .error "minute must be 00-59" else .ok (h * 60 + m)
  | _ => .error "expected HH:MM"

def normalizeWindow (window : ActiveWindow) : Except Text ActiveWindow := do
  let days ← normalizeDays window.days
  match parseClock window.start with
  | .error reason =>
    .error ("invalid active window start " ++ quoted window.start ++ ": " ++ reason)
  | .ok _ =>
    match parseClock window.stop with
    | .error reason =>
      .error ("invalid active window end " ++ quoted window.stop ++ ": " ++ reason)
    | .ok _ =>
      if window.start = window.stop then .error "active window start and end must differ"
      else .ok { window with days }

def normalizeWindows (windows : List ActiveWindow) : Except Text (List ActiveWindow) := windows.mapM normalizeWindow

/-- The second result of `parseClock` is ignored, and the first is zero where it failed. -/
def clockMinute (text : Text) : Int := (parseClock text).toOption.getD 0

def windowContains (zone : Zone) (window : ActiveWindow) (now : Int) : Bool :=
  let start := clockMinute window.start
  let stop := clockMinute window.stop
  let nowMinute := minuteOf (zone.clock now)
  let today := dayName (weekday (dayOf (zone.clock now)))
  let yesterday := dayName (weekday (dayOf (zone.clock (zone.addDays now (-1)))))
  if start < stop then window.days.contains today && start ≤ nowMinute && nowMinute < stop
  else (window.days.contains today && start ≤ nowMinute) || (window.days.contains yesterday && nowMinute < stop)

def isActive (zone : Zone) (windows : List ActiveWindow) (now : Int) : Bool :=
  windows.any (windowContains zone · now)

/-- The instants that `nextActive` tries: eight days of whole minutes after `now`. -/
def candidates (now : Int) : List Int :=
  (List.range (8 * 24 * 60)).map fun (i : Nat) => now - now % minute + minute + i * minute

def nextActive (zone : Zone) (windows : List ActiveWindow) (now : Int) : Option Int :=
  if isActive zone windows now then some now else (candidates now).find? (isActive zone windows)

structure Decision where
  allowed : Bool
  activeNow : Bool := false
  nextActiveAt : Option Int := none
  reason : Text := []
  deriving DecidableEq

structure Policy where
  enabled : Except Text Bool
  /-- The stored windows after `normalizeWindows`. -/
  windows : Except Text (List ActiveWindow)

def decisionFor (zone : Zone) (policy : Policy) (now : Int) : Except Text (Decision × List ActiveWindow) := do
  let enabled ← policy.enabled
  let windows ← policy.windows
  if enabled = false ∨ windows = [] then
    return ({ allowed := true, activeNow := enabled && windows.isEmpty }, windows)
  else
    let active := isActive zone windows now
    return ({
      allowed := active
      activeNow := active
      nextActiveAt := if active then none else nextActive zone windows now
      reason := "outside configured spindown active window" }, windows)

end Tierd.Spindown
