import VaultWatch.CommandLine

/-!
# The program

Reads the configuration and starts the engine's chains, or tells in one line why there is nothing to
start.
-/

namespace VaultWatch.CommandLine

/-- Reads the file at a path, if there is one. -/
def readIfThere (path : String) : IO (Option Bytes) := do
  try
    let content ← IO.FS.readBinFile path
    return some content.toList
  catch _ => return none

/-- The values of the variables that a configuration file refers to. -/
def environmentFor (file : Option Bytes) : IO (List (String × String)) := do
  let text := match file.map Utf8.decode with
    | some (.ok text) => text.toList
    | _ => []
  let names := (Placeholder.names text).map String.ofList
  names.filterMapM fun name => do
    return (← IO.getEnv name).map fun value => (name, value)

/-- Runs the program; the exit code is one when nothing can be started. -/
def run : IO UInt32 := do
  let path := (← IO.getEnv Config.pathVariable).getD Config.defaultPath
  let file ← readIfThere path
  let values ← environmentFor file
  match launch (fun _ => false) (fun name => values.lookup name) path file with
  | .error refusal =>
    IO.eprintln refusal.line
    return 1
  | .ok manager =>
    for chain in manager.chains do
      IO.println ("watching " ++ chain)
    return 0

end VaultWatch.CommandLine

/-- The entry point of the program. -/
def main : IO UInt32 := VaultWatch.CommandLine.run
