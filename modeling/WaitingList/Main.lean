import WaitingList.Service.Start

namespace WaitingList

def settingsFileNames : List String :=
  [baseFileName, Environment.development.fileName, Environment.production.fileName]

/-- The variables that the bytes of a process environment write. -/
def Variable.ofEnvironment (bytes : List UInt8) : List Variable :=
  (bytes.splitOn 0).filterMap fun entry =>
    match Utf8.text? (entry.takeWhile (· != 0x3D)) with
    | some name =>
      if entry.contains 0x3D then some ⟨name, entry.drop (name.utf8ByteSize + 1)⟩ else none
    | none => none

def readFile? (path : String) : IO (Option (List UInt8)) := do
  try
    return some (← IO.FS.readBinFile path).toList
  catch _ => return none

def Surroundings.ofProcess : IO Surroundings := do
  let files ← settingsFileNames.filterMapM fun name => do
    return (← readFile? s!"config/{name}").map ((name, ·))
  let process ← readFile? "/proc/self/environ"
  return ⟨files, Variable.ofEnvironment (process.getD [])⟩

end WaitingList

open WaitingList in
/-- Starts the service and tells what came of it. No store is within reach of the process itself,
so a start that asks for a migration fails. -/
def main : IO UInt32 := do
  let surroundings ← Surroundings.ofProcess
  let start := surroundings.start ⟨fun _ _ => true⟩ ⟨.nowhere, .empty⟩
  for line in start.lines .development (← IO.getEnv "RUST_LOG") "" do
    IO.println line
  match start.result with
  | .ok _ => return 0
  | .error error =>
    IO.eprintln s!"Error: {error.message}"
    return 1
