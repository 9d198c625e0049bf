import WaitingList.Settings.Load

namespace WaitingList

/-- The settings of a process, once they have been read. -/
structure SettingsCache where
  settings : Option Settings
  deriving DecidableEq, Repr

namespace SettingsCache

/-- The cache of a process that has just begun. -/
def empty : SettingsCache := ⟨none⟩

/-- What asking for the settings gives, and the cache afterwards. A failure leaves no trace. -/
def get (cache : SettingsCache) (s : Surroundings) :
    Except SettingsError Settings × SettingsCache :=
  match cache.settings with
  | some settings => (.ok settings, cache)
  | none =>
    match s.settings with
    | .ok settings => (.ok settings, ⟨some settings⟩)
    | .error error => (.error error, cache)

/-- What asking again and again gives, each time in other surroundings. -/
def getAll (cache : SettingsCache) : List Surroundings → List (Except SettingsError Settings)
  | [] => []
  | s :: rest =>
    let (answer, next) := cache.get s
    answer :: next.getAll rest

/-- The words with which a process ends that asked for settings in vain. -/
def failureText (error : SettingsError) : String :=
  s!"Fatal Error: Building config: {error.message}"

end SettingsCache

end WaitingList
