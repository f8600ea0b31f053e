import Tierd.Data.Runs
import Tierd.Data.Segments

namespace Tierd.Health

open Tierd.Data

inductive Source where
  | smart
  | mdadm
  | zfs
  | network
deriving DecidableEq

inductive Severity where
  | warning
  | critical
deriving DecidableEq

structure Scope where
  source : Source
  device : Text
deriving DecidableEq

/-- The monitor joins the three by a NUL, which none of them contains. -/
structure Condition where
  source : Source
  device : Text
  message : Text
deriving DecidableEq

def Condition.scope (condition : Condition) : Scope := ⟨condition.source, condition.device⟩

structure Alert where
  id : Nat
  condition : Condition
  severity : Severity
  timestamp : Nat
deriving DecidableEq

/-- `seen` and `checked` are there only during a cycle. -/
structure Monitor where
  alerts : List Alert := []
  alertCounter : Nat := 0
  dismissed : List Condition := []
  stored : List Condition := []
  seen : Option (List Condition) := none
  checked : Option (List Scope) := none
  lastSeen : List Condition := []
  dnsFailures : Nat := 0
  lastDNSCheck : Option Nat := none

namespace Monitor

def active (monitor : Monitor) : List Condition := monitor.alerts.map (·.condition)

def beginCycle (monitor : Monitor) : Monitor := { monitor with seen := some [], checked := some [] }

def markChecked (monitor : Monitor) (scope : Scope) : Monitor :=
  { monitor with checked := monitor.checked.map (scope :: ·) }

def see (monitor : Monitor) (condition : Condition) : Monitor :=
  { monitor with seen := monitor.seen.map (condition :: ·) }

def addAlert (monitor : Monitor) (condition : Condition) (severity : Severity) (timestamp : Nat) : Monitor :=
  let monitor := monitor.see condition
  if condition ∈ monitor.dismissed ∨ condition ∈ monitor.active then monitor
  else
    { monitor with
      alertCounter := monitor.alertCounter + 1
      alerts := monitor.alerts ++ [⟨monitor.alertCounter + 1, condition, severity, timestamp⟩] }

def clearAlert (monitor : Monitor) (id : Nat) : Monitor :=
  match monitor.alerts.find? (·.id = id) with
  | none => monitor
  | some alert =>
    { monitor with
      alerts := monitor.alerts.eraseP (·.id = id)
      dismissed := alert.condition :: monitor.dismissed
      stored := alert.condition :: monitor.stored }

def Resolved (monitor : Monitor) (condition : Condition) : Prop :=
  condition.scope ∈ monitor.checked.getD [] ∧ condition ∉ monitor.seen.getD []
deriving Decidable

def endCycle (monitor : Monitor) : Monitor :=
  { monitor with
    alerts := monitor.alerts.filter fun alert => ¬ monitor.Resolved alert.condition
    dismissed := monitor.dismissed.filter fun condition => ¬ monitor.Resolved condition
    stored := monitor.stored.filter fun condition => ¬ (condition ∈ monitor.dismissed ∧ monitor.Resolved condition)
    lastSeen := monitor.seen.getD []
    seen := none
    checked := none }

def day : Nat := 24 * 60 * 60

def cleanExpired (monitor : Monitor) (now : Nat) : Monitor :=
  { monitor with
    alerts := monitor.alerts.filter fun alert => now < alert.timestamp + day ∨ alert.condition ∈ monitor.lastSeen }

def dnsCheckHost : Text := "updates.rakuensoftware.com"

def dnsAlertMessage : Text :=
  "DNS is not working: the NAS cannot resolve " ++ dnsCheckHost ++
    ". Updates, plugins and the speed test fail until a DNS server is set on the Network page."

def dnsCondition : Condition := ⟨.network, [], dnsAlertMessage⟩

def dnsCheckInterval : Nat := 5 * 60

def dnsDue (monitor : Monitor) (now : Nat) : Bool :=
  match monitor.lastDNSCheck with
  | none => true
  | some last => decide (last + dnsCheckInterval ≤ now)

end Monitor

def formatInt64 (n : Int) : Text :=
  if n = -2 ^ 63 then "-"
  else if n < 0 then '-' :: decimal n.natAbs
  else decimal n.natAbs

structure AlarmEvent where
  attributeName : Text
  value : Int
  severity : Severity

/-- A disk other than the system's whose SMART data could be read; the alarm rules may fail to be
evaluated. -/
structure DriveReading where
  drive : Text
  evaluation : Option (List AlarmEvent)
  healthFailed : Bool

inductive ArrayHealth where
  | fine
  | degraded
  | inactive
  | failed
deriving DecidableEq

structure ArrayReading where
  path : Text
  name : Text
  state : ArrayHealth
  activeDisks : Nat
  totalDisks : Nat

inductive PoolHealth where
  | online
  | degraded
  | faulted
  | offline
  | removed
deriving DecidableEq

/-- A pool whose details could be read. -/
structure PoolReading where
  name : Text
  health : PoolHealth
  resilvering : Bool
  checksumErrors : Bool

structure Readings where
  drives : List DriveReading := []
  arrays : List ArrayReading := []
  pools : List PoolReading := []
  /-- Whether the L2ARC hit rate is below its bound. -/
  arc : Option Bool := none
  dnsResolves : Bool := true
  smartTime : Nat := 0
  mdadmTime : Nat := 0
  zfsTime : Nat := 0
  dnsTime : Nat := 0
  cleanTime : Nat := 0

inductive Action where
  | mark (scope : Scope)
  | raise (condition : Condition) (severity : Severity) (timestamp : Nat)
  | keepDNS
  | noteDNS (now : Nat) (resolves : Bool)

/-- The scope is marked before the alarm rules are evaluated, and a failed evaluation ends the
drive's check. -/
def checkDrive (now : Nat) (reading : DriveReading) : List Action :=
  .mark ⟨.smart, reading.drive⟩ ::
    match reading.evaluation with
    | none => []
    | some events =>
      events.map (fun event =>
        .raise ⟨.smart, reading.drive, event.attributeName ++ " = " ++ formatInt64 event.value⟩ event.severity now) ++
      if reading.healthFailed then [.raise ⟨.smart, reading.drive, "SMART health check FAILED"⟩ .critical now] else []

def checkSMART (readings : Readings) : List Action := readings.drives.flatMap (checkDrive readings.smartTime)

def checkArray (now : Nat) (reading : ArrayReading) : List Action :=
  .mark ⟨.mdadm, reading.path⟩ ::
    match reading.state with
    | .fine => []
    | .degraded =>
      [.raise ⟨.mdadm, reading.path, "Array " ++ reading.name ++ " is degraded (" ++
        decimal reading.activeDisks ++ "/" ++ decimal reading.totalDisks ++ " disks active)"⟩ .warning now]
    | .inactive => [.raise ⟨.mdadm, reading.path, "Array " ++ reading.name ++ " is inactive"⟩ .critical now]
    | .failed => [.raise ⟨.mdadm, reading.path, "Array " ++ reading.name ++ " is failed"⟩ .critical now]

def checkMdadm (readings : Readings) : List Action := readings.arrays.flatMap (checkArray readings.mdadmTime)

def poolMessage (reading : PoolReading) (text : String) : Condition :=
  ⟨.zfs, reading.name, "pool " ++ reading.name ++ text.toList⟩

def checkPoolAlerts (now : Nat) (reading : PoolReading) : List Action :=
  (match reading.health with
    | .online => []
    | .degraded => [.raise (poolMessage reading " is DEGRADED") .warning now]
    | .faulted => [.raise (poolMessage reading " is FAULTED") .critical now]
    | .offline => [.raise (poolMessage reading " is OFFLINE") .critical now]
    | .removed => [.raise (poolMessage reading " is REMOVED") .critical now]) ++
  (if reading.resilvering then [.raise (poolMessage reading " is resilvering") .warning now] else []) ++
  (if reading.checksumErrors then [.raise (poolMessage reading " has non-zero checksum errors") .warning now] else [])

def checkZFS (readings : Readings) : List Action :=
  readings.pools.flatMap (checkPoolAlerts readings.zfsTime) ++
    match readings.arc with
    | none => []
    | some low =>
      .mark ⟨.zfs, []⟩ ::
        if low then
          [.raise ⟨.zfs, [], "L2ARC hit rate is below 10% — cache may be ineffective"⟩ .warning readings.zfsTime]
        else []

/-- Only the polling goroutine touches the state of the DNS check, so it is as it was when the cycle
began. -/
def checkDNS (monitor : Monitor) (readings : Readings) : List Action :=
  if monitor.dnsDue readings.dnsTime then
    [.noteDNS readings.dnsTime readings.dnsResolves, .mark ⟨.network, []⟩] ++
      if readings.dnsResolves = false ∧ 2 ≤ monitor.dnsFailures + 1 then
        [.raise Monitor.dnsCondition .critical readings.dnsTime]
      else []
  else [.keepDNS]

def checks (monitor : Monitor) (readings : Readings) : List Action :=
  checkSMART readings ++ checkMdadm readings ++ checkZFS readings ++ checkDNS monitor readings

def perform (monitor : Monitor) : Action → Monitor
  | .mark scope => monitor.markChecked scope
  | .raise condition severity timestamp => monitor.addAlert condition severity timestamp
  | .keepDNS => if Monitor.dnsCondition ∈ monitor.lastSeen then monitor.see Monitor.dnsCondition else monitor
  | .noteDNS now resolves =>
    { monitor with lastDNSCheck := some now, dnsFailures := if resolves then 0 else monitor.dnsFailures + 1 }

inductive Phase where
  | idle
  | checking (left : List Action) (cleanTime : Nat)
  | cleaning (cleanTime : Nat)

structure Cycle where
  succeeded : List Scope
  reported : List Condition
  marked : List Scope

structure System where
  monitor : Monitor := {}
  phase : Phase := .idle
  cycle : Option Cycle := none

def raised : List Action → List Condition :=
  List.filterMap fun
    | .raise condition _ _ => some condition
    | _ => none

def marks : List Action → List Scope :=
  List.filterMap fun
    | .mark scope => some scope
    | _ => none

def succeeds (monitor : Monitor) (readings : Readings) : List Scope :=
  (readings.drives.filter (·.evaluation.isSome)).map (fun reading => ⟨.smart, reading.drive⟩) ++
    readings.arrays.map (fun reading => ⟨.mdadm, reading.path⟩) ++
    readings.pools.map (fun reading => ⟨.zfs, reading.name⟩) ++
    (if readings.arc.isSome then [⟨.zfs, []⟩] else []) ++
    (if monitor.dnsDue readings.dnsTime then [⟨.network, []⟩] else [])

def cycleOf (monitor : Monitor) (readings : Readings) : Cycle :=
  ⟨succeeds monitor readings, raised (checks monitor readings), marks (checks monitor readings)⟩

inductive Event where
  | poll (readings : Readings)
  | proceed
  | dismiss (id : Nat)
  | restart

def System.step (system : System) : Event → System
  | .poll readings =>
    match system.phase with
    | .idle =>
      ⟨system.monitor.beginCycle, .checking (checks system.monitor readings) readings.cleanTime,
        some (cycleOf system.monitor readings)⟩
    | _ => system
  | .proceed =>
    match system.phase with
    | .idle => system
    | .checking (action :: left) cleanTime =>
      { system with monitor := perform system.monitor action, phase := .checking left cleanTime }
    | .checking [] cleanTime => { system with monitor := system.monitor.endCycle, phase := .cleaning cleanTime }
    | .cleaning cleanTime => { system with monitor := system.monitor.cleanExpired cleanTime, phase := .idle }
  | .dismiss id => { system with monitor := system.monitor.clearAlert id }
  | .restart => { monitor := { dismissed := system.monitor.stored, stored := system.monitor.stored } }

end Tierd.Health
