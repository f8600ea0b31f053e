import Tierd.Data.Ini
import Tierd.Data.Layers

namespace Tierd.Plugin.Profiles

open Tierd.Data

structure ProfileDevice where
  path : Text
  cgroupPermissions : Text
deriving DecidableEq

inductive Requirement where
  | required
  | optional
  | unset
  | other (text : Text)
deriving DecidableEq

structure PreflightCheck where
  path : Text
  requirement : Requirement
deriving DecidableEq

/-- A fragment of what a container gets from the host. -/
structure Profile where
  name : Text
  env : Text → Option Text
  devices : List ProfileDevice
  capAdd : List Text
  memory : Int
  pidsLimit : Int
  oomScoreAdj : Option Int
  rawConfig : List Text
  hostHas : List PreflightCheck

structure Resolved where
  devices : List ProfileDevice
  capAdd : List Text
  memory : Int
  pidsLimit : Int
  oomScoreAdj : Option Int
  env : Text → Option Text
  lxcRaw : List Text
  names : List Text
  preflightWarnings : List Text

inductive ProfileError where
  | notInCatalog (name : Text)
  | hostPathMissing (message : Text)
  | unknownRequirement (name requirement : Text)
deriving DecidableEq

def defaultLimits : Text := "default-limits"

def optOut : Text := "!default-limits"

def orderProfiles (declared : List Text) : List Text × Bool := (declared.filter (· ≠ optOut), optOut ∈ declared)

def mergeProfile (into : Resolved) (profile : Profile) : Resolved :=
  { into with
    env := fun key => (profile.env key).or (into.env key)
    devices := into.devices ++ profile.devices
    capAdd := appendNew into.capAdd profile.capAdd
    lxcRaw := appendNew into.lxcRaw profile.rawConfig
    pidsLimit := if profile.pidsLimit ≠ 0 then profile.pidsLimit else into.pidsLimit
    memory := if profile.memory ≠ 0 then profile.memory else into.memory
    oomScoreAdj := profile.oomScoreAdj.or into.oomScoreAdj }

def lxcMountEntryUsesHostPath (line path : Text) : Bool :=
  let line := Text.trimSpace line
  if Text.startsWith line "lxc.mount.entry" then
    match Ini.cut line '=' with
    | none => false
    | some (key, value) =>
      Text.trimSpace key = "lxc.mount.entry" && (Text.fields value).head? = some path
  else false

def dropOptionalHostPath (into : Resolved) (path : Text) : Resolved :=
  { into with
    devices := into.devices.filter fun device => device.path ≠ path
    lxcRaw := into.lxcRaw.filter fun line => !lxcMountEntryUsesHostPath line path }

/-- `none` is a path that is there; otherwise the error text. -/
abbrev StatHost := Text → Option Text

variable (statHost : StatHost)

def missingMessage (name path reason : Text) : Text :=
  "profile " ++ name ++ ": host path " ++ path ++ " missing (" ++ reason ++ ")"

def runCheck (name : Text) (into : Resolved) (check : PreflightCheck) : Except ProfileError Resolved :=
  if check.path = [] then .ok into
  else
    match statHost check.path with
    | none => .ok into
    | some reason =>
      let message := missingMessage name check.path reason
      match check.requirement with
      | .required => .error (.hostPathMissing message)
      | .optional | .unset =>
        .ok (dropOptionalHostPath { into with preflightWarnings := into.preflightWarnings ++ [message] } check.path)
      | .other text => .error (.unknownRequirement name text)

def runPreflight (into : Resolved) (profile : Profile) : Except ProfileError Resolved :=
  profile.hostHas.foldlM (runCheck statHost profile.name) into

abbrev Catalog := Text → Option Profile

variable (catalog : Catalog)

def applyNamed (into : Resolved) (name : Text) : Except ProfileError Resolved :=
  match catalog name with
  | none => .error (.notInCatalog name)
  | some profile => runPreflight statHost (mergeProfile into profile) profile

def appliedNames (declared : List Text) : List Text :=
  let (names, optedOutDefault) := orderProfiles declared
  if optedOutDefault = false ∧ (catalog defaultLimits).isSome ∧ defaultLimits ∉ names then defaultLimits :: names
  else names

def nothingMerged (names : List Text) : Resolved where
  devices := []
  capAdd := []
  memory := 0
  pidsLimit := 0
  oomScoreAdj := none
  env := fun _ => none
  lxcRaw := []
  names := names
  preflightWarnings := []

def resolve (declared : List Text) : Except ProfileError Resolved :=
  let names := appliedNames catalog declared
  names.foldlM (applyNamed statHost catalog) (nothingMerged names)

end Tierd.Plugin.Profiles
