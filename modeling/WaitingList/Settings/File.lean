import WaitingList.Settings.Setting
import WaitingList.Text.Utf8
import WaitingList.Toml.Document

namespace WaitingList

/-- The key under which the date or time of a file is kept. -/
def momentKey : String := "$__toml_private_datetime"

mutual

/-- A value of a settings file as a setting. A date or a time is a table of one entry. -/
def Setting.ofToml (source : Source) : Toml.Value → Setting
  | .text s => .scalar source (.text s)
  | .integer n => .scalar source (.signed n)
  | .floating x => .scalar source (.floating x)
  | .boolean b => .scalar source (.boolean b)
  | .moment written => .table source [(momentKey, .scalar source (.text written))]
  | .list items => .list source (listOfToml source items)
  | .table _ entries => .table source (entriesOfToml source entries)
  | .tables items => .list source (tablesOfToml source items)

def listOfToml (source : Source) : List Toml.Value → List Setting
  | [] => []
  | item :: rest => Setting.ofToml source item :: listOfToml source rest

def entriesOfToml (source : Source) : List (String × Toml.Value) → List (String × Setting)
  | [] => []
  | (key, value) :: rest => (key, Setting.ofToml source value) :: entriesOfToml source rest

def tablesOfToml (source : Source) : List (List (String × Toml.Value)) → List Setting
  | [] => []
  | entries :: rest => .table source (entriesOfToml source entries) :: tablesOfToml source rest

end

/-- The layer that the bytes of a settings file write, if they can be read. -/
def Setting.ofFile? (name : String) (bytes : List UInt8) : Option Setting := do
  let entries ← Toml.parse? (← Utf8.text? bytes)
  some (.table (.file name) (entriesOfToml (.file name) entries))

end WaitingList
