import WaitingList.Log.Event
import WaitingList.Settings.Environment
import WaitingList.Settings.Extraction
import WaitingList.Settings.File
import WaitingList.Settings.Variable

namespace WaitingList

/-- What settings are read from: the files of the settings directory by name, and the variables of
the process. The directory is below the one that the process runs in, which is there. -/
structure Surroundings where
  files : List (String × List UInt8)
  process : List Variable
  deriving DecidableEq, Repr

/-- A file that is no TOML. What is told of it is not its bytes but what their parser says, which
quotes the line that it cannot read. -/
structure UnreadableFile where
  name : String
  bytes : List UInt8
  deriving DecidableEq, Repr

/-- Why layers do not amount to settings. -/
inductive LoadError where
  | unreadable (files : List UnreadableFile)
  | mismatch (mismatch : Mismatch)
  deriving DecidableEq, Repr

/-- Why a run has no settings. That the process cannot tell which directory it runs in is no part of
it: `Surroundings` has the files of one. -/
inductive SettingsError where
  | unknownEnvironment (name : String)
  | badConnectionUrl
  | missingConnectionUrl
  | layers (error : LoadError)
  deriving DecidableEq, Repr

/-- The file as it is told of, with what its parser says of the bytes, in UTF-8, in their place. -/
def UnreadableFile.told (complaint : List UInt8 → List UInt8) (file : UnreadableFile) :
    UnreadableFile :=
  { file with bytes := complaint file.bytes }

namespace LoadError

/-- The failure as it is told. -/
def told (complaint : List UInt8 → List UInt8) : LoadError → LoadError
  | unreadable files => unreadable (files.map (UnreadableFile.told complaint))
  | mismatch found => mismatch found

/-- The lines of a failure that is told. -/
def lines : LoadError → List String
  | unreadable files =>
    files.map fun file => s!"{Utf8.textLossy file.bytes} in {(Source.file file.name).describe}"
  | mismatch found => [found.message]

end LoadError

namespace SettingsError

/-- The error as it is told. -/
def told (complaint : List UInt8 → List UInt8) : SettingsError → SettingsError
  | layers error => layers (error.told complaint)
  | error => error

/-- The words for an error. What is wrong with the layers is told by `LoadError.lines`. -/
def message : SettingsError → String
  | unknownEnvironment name =>
    s!"failed to build the \x27Environment\x27 from the provided string: {name}"
  | badConnectionUrl => "failed to parse \x27DbConfig\x27 from the provided string."
  | missingConnectionUrl => "DATABASE_URL has to be set in production"
  | layers _ => "figment error"

end SettingsError

/-- The name of the file that every environment begins with. -/
def baseFileName : String := "base.toml"

namespace Surroundings

/-- The layer of a file, if it is readable. A file that is missing counts as empty. -/
def fileLayer (s : Surroundings) (name : String) : Except UnreadableFile Setting :=
  match s.files.lookup name with
  | none => .ok (.table (.file name) [])
  | some bytes =>
    match Setting.ofFile? name bytes with
    | some layer => .ok layer
    | none => .error ⟨name, bytes⟩

def variableLayer (s : Surroundings) : Setting := Setting.ofVariables (Variable.assign s.process)

def layers (s : Surroundings) (environment : Environment) : Except LoadError Setting :=
  match s.fileLayer baseFileName, s.fileLayer environment.fileName with
  | .ok base, .ok specific => .ok ((base.merge specific).merge s.variableLayer)
  | .error base, .ok _ => .error (.unreadable [base])
  | .ok _, .error specific => .error (.unreadable [specific])
  | .error base, .error specific => .error (.unreadable [base, specific])

/-- The settings that the layers of an environment amount to. -/
def load (s : Surroundings) (environment : Environment) : Except LoadError Settings := do
  match Extraction.settings (← s.layers environment).entries with
  | .ok settings => .ok settings
  | .error mismatch => .error (.mismatch mismatch)

/-- The value of a variable that is set to a text. -/
def valueOf? (s : Surroundings) (name : String) : Option String := do
  let v ← (Variable.assign s.process).find? (·.name = name)
  Utf8.text? v.value

def environmentVariable : String := "APP_ENVIRONMENT"

/-- The variable that names the store in production. -/
def connectionVariable : String := "DATABASE_URL"

def environmentOf (name : String) : Except SettingsError Environment :=
  match Environment.ofText? name with
  | some environment => .ok environment
  | none => .error (.unknownEnvironment name)

/-- The environment of the run: the one that is named, or the developer's. -/
def environment (s : Surroundings) : Except SettingsError Environment :=
  match s.valueOf? environmentVariable with
  | some name => environmentOf name
  | none => .ok .development

/-- The target that the URL in the variables gives. -/
def connectionTarget (s : Surroundings) : Except SettingsError ConnectionTarget :=
  match s.valueOf? connectionVariable with
  | none => .error .missingConnectionUrl
  | some url =>
    match ConnectionTarget.ofUrl? url with
    | some target => .ok target
    | none => .error .badConnectionUrl

def build (s : Surroundings) (environment : Environment) : Except SettingsError Settings :=
  match s.load environment with
  | .error error => .error (.layers error)
  | .ok settings =>
    match environment with
    | .development => .ok settings
    | .production => do return { settings with target := ← s.connectionTarget }

def settings (s : Surroundings) : Except SettingsError Settings := do
  s.build (← s.environment)

/-- What is logged while the settings of the run are read. The environment is told of once they
are complete. -/
def events (s : Surroundings) : List Event :=
  .settingsSought ::
    match s.environment, s.settings with
    | .ok environment, .ok settings => [.settingsRead environment settings.emailPolicy]
    | _, _ => []

end Surroundings

end WaitingList
