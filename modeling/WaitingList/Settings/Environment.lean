namespace WaitingList

/-- Where a run of the service takes place. -/
inductive Environment where
  /-- A developer's machine, called `local`. -/
  | development
  | production
  deriving DecidableEq, Repr, Inhabited

namespace Environment

/-- The name by which the service speaks of an environment. -/
def name : Environment → String
  | development => "Local"
  | production => "Production"

/-- The environment that a text names, in any mix of ASCII cases. Letters outside ASCII have no
second case here, so a text that merely looks like a name is none. -/
def ofText? (text : String) : Option Environment :=
  match text.toLower with
  | "local" => some development
  | "production" => some production
  | _ => none

/-- The name of the settings file that belongs to an environment. -/
def fileName : Environment → String
  | development => "local.toml"
  | production => "production.toml"

end Environment

end WaitingList
