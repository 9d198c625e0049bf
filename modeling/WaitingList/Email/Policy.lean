namespace WaitingList

/-- How thoroughly an address is checked. -/
inductive EmailPolicy where
  /-- An address only has to look like one from afar. -/
  | minimal
  /-- An address has to have the syntax of one. -/
  | strict
  deriving DecidableEq, Repr, Inhabited

namespace EmailPolicy

/-- The name of a policy in settings files and log lines. -/
def name : EmailPolicy → String
  | minimal => "Minimal"
  | strict => "Strict"

/-- The policy that a name stands for. Only the exact names are known. -/
def ofName? (word : String) : Option EmailPolicy :=
  [minimal, strict].find? fun policy => policy.name == word

end EmailPolicy

end WaitingList
