import WaitingList.Settings.Setting

namespace WaitingList

/-- What is wrong with a setting. -/
inductive MismatchCause where
  | wrongKind (found expected : String)
  | outOfRange (found expected : String)
  | wrongLength (length : Nat) (expected : String)
  | unknownName (name : String) (known : List String)
  | missing (name : String)
  deriving DecidableEq, Repr

/-- What is wrong, and in which setting. A part that is missing at the top belongs to no layer. -/
structure Mismatch where
  cause : MismatchCause
  path : List String
  source : Option Source
  deriving DecidableEq, Repr

namespace MismatchCause

def choice (names : List String) : String :=
  match names.map fun name => s!"`{name}`" with
  | [] => "nothing"
  | [one] => one
  | [one, other] => s!"{one} or {other}"
  | more => "one of " ++ ", ".intercalate more

def message : MismatchCause → String
  | wrongKind found expected => s!"invalid type: found {found}, expected {expected}"
  | outOfRange found expected => s!"invalid value {found}, expected {expected}"
  | wrongLength length expected => s!"invalid length {length}, expected {expected}"
  | unknownName name known => s!"unknown variant: found `{name}`, expected `{choice known}`"
  | missing name => s!"missing field `{name}`"

end MismatchCause

namespace Source

/-- The words for a layer. -/
def describe : Source → String
  | file name => s!"config/{name} TOML file"
  | process => "`APP_` environment variable(s)"

/-- A path as it is written in a layer: as variables are named, or below the profile of files. -/
def pathText (path : List String) : Source → String
  | file _ => ".".intercalate ("default" :: path)
  | process => ".".intercalate (path.map String.toUpper)

end Source

namespace Mismatch

def message (m : Mismatch) : String :=
  match m.source with
  | some source =>
    s!"{m.cause.message} for key \"{source.pathText m.path}\" in {source.describe}"
  | none => m.cause.message

end Mismatch

end WaitingList
