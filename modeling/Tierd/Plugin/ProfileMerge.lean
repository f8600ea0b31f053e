import Tierd.Data.Guards
import Tierd.Plugin.Profiles

namespace Tierd.Plugin.Profiles

open Tierd.Data List

section Checks

variable (statHost : StatHost)

def PreflightCheck.isOptional (check : PreflightCheck) : Bool :=
  check.requirement = .optional || check.requirement = .unset

/-- The check finds its path missing. -/
def PreflightCheck.fails (check : PreflightCheck) : Bool := check.path ≠ [] && (statHost check.path).isSome

/-- The check drops its path. -/
def PreflightCheck.drops (check : PreflightCheck) : Bool := check.fails statHost && check.isOptional

def PreflightCheck.Passes (check : PreflightCheck) : Prop := check.fails statHost = true → check.isOptional = true

def warning (name : Text) (check : PreflightCheck) : Text :=
  missingMessage name check.path ((statHost check.path).getD [])

def afterCheck (name : Text) (into : Resolved) (check : PreflightCheck) : Resolved :=
  if check.drops statHost then
    dropOptionalHostPath { into with preflightWarnings := into.preflightWarnings ++ [warning statHost name check] }
      check.path
  else into

theorem runCheck_eq_ok {name : Text} (into : Resolved) (check : PreflightCheck) (after : Resolved) :
    runCheck statHost name into check = .ok after ↔ check.Passes statHost ∧
      afterCheck statHost name into check = after := by
  obtain ⟨path, requirement⟩ := check
  unfold runCheck PreflightCheck.Passes afterCheck PreflightCheck.drops PreflightCheck.fails
    PreflightCheck.isOptional warning
  by_cases blank : path = []
  · simp [blank]
  · cases found : statHost path with
    | none => simp
    | some reason => cases requirement <;> simp [blank]

def afterChecks (name : Text) (into : Resolved) (checks : List PreflightCheck) : Resolved :=
  { into with
    devices := into.devices.filter fun device => !checks.any fun check => check.drops statHost && device.path =
      check.path
    lxcRaw := into.lxcRaw.filter fun line =>
      !checks.any fun check => check.drops statHost && lxcMountEntryUsesHostPath line check.path
    preflightWarnings := into.preflightWarnings ++ (checks.filter (·.drops statHost)).map (warning statHost name) }

theorem foldl_afterCheck (name : Text) (into : Resolved) (checks : List PreflightCheck) :
    checks.foldl (afterCheck statHost name) into = afterChecks statHost name into checks := by
  induction checks generalizing into with
  | nil => simp [afterChecks]
  | cons check rest ih =>
    rw [foldl_cons, ih]
    unfold afterCheck
    cases dropped : check.drops statHost with
    | false => simp [afterChecks, dropped]
    | true => simp [afterChecks, dropOptionalHostPath, dropped, filter_filter, Bool.and_comm]

variable {statHost}

theorem runPreflight_eq_ok {into after : Resolved} {profile : Profile} :
    runPreflight statHost into profile = .ok after ↔
      (∀ check ∈ profile.hostHas, check.Passes statHost) ∧
        afterChecks statHost profile.name into profile.hostHas = after := by
  unfold runPreflight
  rw [foldlM_eq_ok_iff (runCheck_eq_ok statHost), foldl_afterCheck]

end Checks

section Layers

variable (statHost : StatHost) (catalog : Catalog)

def Profile.misses (profile : Profile) (path : Text) : Bool :=
  profile.hostHas.any fun check => check.drops statHost && path = check.path

def Profile.missesMount (profile : Profile) (line : Text) : Bool :=
  profile.hostHas.any fun check => check.drops statHost && lxcMountEntryUsesHostPath line check.path

def settle (into : Resolved) (profile : Profile) : Resolved :=
  afterChecks statHost profile.name (mergeProfile into profile) profile.hostHas

def Applies (name : Text) : Prop :=
  ∃ profile, catalog name = some profile ∧ ∀ check ∈ profile.hostHas, check.Passes statHost

def settleNamed (into : Resolved) (name : Text) : Resolved := (catalog name).elim into (settle statHost into)

variable {statHost catalog}

theorem applyNamed_eq_ok (into : Resolved) (name : Text) (after : Resolved) :
    applyNamed statHost catalog into name = .ok after ↔
      Applies statHost catalog name ∧ settleNamed statHost catalog into name = after := by
  unfold applyNamed Applies settleNamed
  cases found : catalog name with
  | none => simp
  | some profile => simp [runPreflight_eq_ok, settle]

def appliedProfiles (catalog : Catalog) (names : List Text) : List Profile := names.filterMap catalog

theorem foldl_settleNamed (names : List Text) (start : Resolved) :
    names.foldl (settleNamed statHost catalog) start = (appliedProfiles catalog names).foldl
      (settle statHost) start := by
  unfold appliedProfiles
  induction names generalizing start with
  | nil => rfl
  | cons name rest ih =>
    rw [foldl_cons, ih]
    unfold settleNamed
    cases found : catalog name with
    | none => rw [filterMap_cons_none found, Option.elim_none]
    | some profile => rw [filterMap_cons_some found, foldl_cons, Option.elim_some]

theorem resolve_eq_ok {declared : List Text} {result : Resolved} :
    resolve statHost catalog declared = .ok result ↔
      (∀ name ∈ appliedNames catalog declared, Applies statHost catalog name) ∧
        (appliedProfiles catalog (appliedNames catalog declared)).foldl (settle statHost)
          (nothingMerged (appliedNames catalog declared)) = result := by
  unfold resolve
  rw [foldlM_eq_ok_iff applyNamed_eq_ok, foldl_settleNamed]

theorem devices_foldl_settle (profiles : List Profile) (names : List Text) :
    (profiles.foldl (settle statHost) (nothingMerged names)).devices =
      layered (· ++ ·) Profile.devices (fun profile device => profile.misses statHost device.path) profiles :=
  (foldl_hom Resolved.devices fun _ _ => rfl).symm

theorem lxcRaw_foldl_settle (profiles : List Profile) (names : List Text) :
    (profiles.foldl (settle statHost) (nothingMerged names)).lxcRaw =
      layered appendNew Profile.rawConfig (fun profile line => profile.missesMount statHost line) profiles :=
  (foldl_hom Resolved.lxcRaw fun _ _ => rfl).symm

end Layers

end Tierd.Plugin.Profiles
