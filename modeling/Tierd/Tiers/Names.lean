import Tierd.Data.Text

namespace Tierd.Tiers

open Tierd.Data

def tierReservedName : List String :=
  ["data", "root", "home", "boot", "tmp", "var", "sys", "proc", "run", "dev", "mnt", "srv", "opt", "etc",
    "lost+found", "policy"]

def maxTierNameLength : Nat := 31

def maxVGNameLength : Nat := 127

def tierVGPrefix : String := "tier-"

/-- The class `[a-z0-9]`. -/
def isNameStart (c : Char) : Bool := ('a' ≤ c && c ≤ 'z') || ('0' ≤ c && c ≤ '9')

/-- The class `[a-z0-9_-]`. -/
def isNameChar (c : Char) : Bool := isNameStart c || c = '_' || c = '-'

/-- `^[a-z0-9]`. -/
def tierNameStartRe (name : Text) : Bool :=
  match name with
  | [] => false
  | first :: _ => isNameStart first

/-- `^[a-z0-9][a-z0-9_-]{0,30}$`. -/
def tierNameRe (name : Text) : Bool :=
  match name with
  | [] => false
  | first :: rest => isNameStart first && rest.length ≤ 30 && rest.all isNameChar

inductive NameError where
  | required
  | reserved (name : String)
  | tooLong (name : String)
  | badStart (name : String)
  | badCharacter (name : String)
  | longVG (name : String)
deriving DecidableEq, Repr

def quoted (text : String) : String := "\"" ++ text ++ "\""

def NameError.message : NameError → String
  | .required => "tier name is required"
  | .reserved name => "tier name " ++ quoted name ++ " is reserved"
  | .tooLong name => "tier name " ++ quoted name ++ " must be 31 characters or fewer"
  | .badStart name => "tier name " ++ quoted name ++ " must start with a lowercase letter or digit"
  | .badCharacter name =>
    "tier name " ++ quoted name ++ " must contain only lowercase letters, digits, hyphens, or underscores"
  | .longVG name =>
    "volume group name " ++ quoted (tierVGPrefix ++ name) ++ " exceeds the 127 character LVM limit"

def validateTierInstanceName (name : String) : Except NameError Unit :=
  if name = "" then .error .required
  else if name ∈ tierReservedName then .error (.reserved name)
  else if name.utf8ByteSize > maxTierNameLength then .error (.tooLong name)
  else if !tierNameStartRe name.toList then .error (.badStart name)
  else if !tierNameRe name.toList then .error (.badCharacter name)
  else if tierVGPrefix.utf8ByteSize + name.utf8ByteSize > maxVGNameLength then .error (.longVG name)
  else .ok ()

def ValidPoolName (name : String) : Prop := validateTierInstanceName name = .ok ()
deriving Decidable

end Tierd.Tiers
