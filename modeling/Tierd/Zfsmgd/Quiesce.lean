import Tierd.Data.Runs

namespace Tierd.Zfsmgd.Quiesce

open Tierd.Data

/-- A channel, by the number under which it was made. -/
abbrev Channel := Nat

/-- `nsWorkerQuiesce`, with the channels that have been made. -/
structure Controller where
  quiescing : Bool
  releaseCh : Option Channel
  parkedCh : Option Channel
  copiesActive : Int
  made : Channel
  closed : List Channel
  signals : List Channel
deriving DecidableEq

inductive WorkerAt where
  | idle
  | entering
  | blocked (ch : Option Channel)
  | copying
  | signalling (ch : Channel)
deriving DecidableEq

/-- One round of the loop: the copy starts, or the worker waits for the release. -/
def enterCopy (q : Controller) : Controller × WorkerAt :=
  if q.quiescing = false then ({ q with copiesActive := q.copiesActive + 1 }, .copying)
  else (q, .blocked q.releaseCh)

def exitCopy (q : Controller) : Controller × WorkerAt :=
  let remaining := q.copiesActive - 1
  ({ q with copiesActive := remaining },
    if q.quiescing = true ∧ remaining = 0 then q.parkedCh.elim .idle .signalling else .idle)

/-- The channel has room for one signal. -/
def signal (q : Controller) (ch : Channel) : Controller :=
  if ch ∈ q.signals then q else { q with signals := ch :: q.signals }

inductive RequestAt where
  | idle
  | claimed
  | parked (ch : Channel)
  | expired
  | established
  | released
  | leaving
deriving DecidableEq

/-- Up to the wait for the copies; where another quiesce is active, the request gives up. -/
def beginQuiesce (q : Controller) : Controller × RequestAt :=
  if q.quiescing then (q, .leaving)
  else
    let q := { q with quiescing := true, releaseCh := some q.made, made := q.made + 1 }
    if q.copiesActive = 0 then (q, .established)
    else ({ q with parkedCh := some q.made, made := q.made + 1 }, .parked q.made)

def endQuiesce (q : Controller) : Controller :=
  if q.quiescing = false then q
  else
    { q with
      quiescing := false
      parkedCh := none
      closed := q.releaseCh.elim q.closed (· :: q.closed)
      releaseCh := none }

variable {W R : Type} [DecidableEq W] [DecidableEq R]

/-- The controller, the flag `snapActive` of the namespace, and where everyone is. -/
structure World (W R : Type) where
  controller : Controller
  snapActive : Bool
  workers : W → WorkerAt
  requests : R → RequestAt

/-- Each section under the mutex and each operation on a channel is one step. -/
inductive Event (W R : Type) where
  | enter (worker : W)
  | attempt (worker : W)
  | wake (worker : W)
  | exit (worker : W)
  | send (worker : W)
  | claim (request : R)
  | abandon (request : R)
  | begin (request : R)
  | receive (request : R)
  | timeout (request : R)
  | expire (request : R)
  | release (request : R)
  | fail (request : R)
  | finish (request : R)
  | leave (request : R)
deriving DecidableEq

def World.moveWorker (world : World W R) (worker : W) (controller : Controller) (place : WorkerAt) : World W R :=
  { world with controller, workers := Function.update world.workers worker place }

def World.moveRequest (world : World W R) (request : R) (controller : Controller) (place : RequestAt) : World W R :=
  { world with controller, requests := Function.update world.requests request place }

/-- `CreateNamespaceSnapshot` claims the flag, quiesces, takes the snapshot, and calls `endQuiesce`
once more when it returns; it gives the flag back last. -/
def step (world : World W R) : Event W R → World W R
  | .enter w => if world.workers w = .idle then world.moveWorker w world.controller .entering else world
  | .attempt w =>
    if world.workers w = .entering then
      let (q, place) := enterCopy world.controller
      world.moveWorker w q place
    else world
  | .wake w =>
    match world.workers w with
    | .blocked (some ch) =>
      if ch ∈ world.controller.closed then world.moveWorker w world.controller .entering else world
    | _ => world
  | .exit w =>
    if world.workers w = .copying then
      let (q, place) := exitCopy world.controller
      world.moveWorker w q place
    else world
  | .send w =>
    match world.workers w with
    | .signalling ch => world.moveWorker w (signal world.controller ch) .idle
    | _ => world
  | .claim r =>
    if world.requests r = .idle ∧ world.snapActive = false then
      { world.moveRequest r world.controller .claimed with snapActive := true }
    else world
  | .abandon r => if world.requests r = .claimed then world.moveRequest r world.controller .leaving else world
  | .begin r =>
    if world.requests r = .claimed then
      let (q, place) := beginQuiesce world.controller
      world.moveRequest r q place
    else world
  | .receive r =>
    match world.requests r with
    | .parked ch =>
      if ch ∈ world.controller.signals then
        world.moveRequest r { world.controller with signals := world.controller.signals.erase ch } .established
      else world
    | _ => world
  | .timeout r =>
    match world.requests r with
    | .parked _ => world.moveRequest r world.controller .expired
    | _ => world
  | .expire r =>
    if world.requests r = .expired then world.moveRequest r (endQuiesce world.controller) .leaving else world
  | .release r =>
    if world.requests r = .established then world.moveRequest r (endQuiesce world.controller) .released else world
  | .fail r =>
    if world.requests r = .established then world.moveRequest r (endQuiesce world.controller) .leaving else world
  | .finish r =>
    if world.requests r = .released then world.moveRequest r (endQuiesce world.controller) .leaving else world
  | .leave r =>
    if world.requests r = .leaving then { world.moveRequest r world.controller .idle with snapActive := false }
    else world

def fresh : World W R where
  controller := ⟨false, none, none, 0, 0, [], []⟩
  snapActive := false
  workers := fun _ => .idle
  requests := fun _ => .idle

def RequestAt.quiesces : RequestAt → Bool
  | .parked _ | .expired | .established => true
  | .idle | .claimed | .released | .leaving => false

def Excludes (world : World W R) : Prop :=
  ∀ r, world.requests r = .established → ∀ w, world.workers w ≠ .copying

def Releases (world : World W R) : Prop :=
  (∀ r, (world.requests r).quiesces = false) → ∀ w ch, world.workers w = .blocked ch →
    (run step world [.wake w, .attempt w]).workers w = .copying

end Tierd.Zfsmgd.Quiesce
