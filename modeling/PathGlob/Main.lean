import PathGlob.Program

open PathGlob

def readBytes? (path : Text) : IO (Option (List UInt8)) := do
  try
    return some (← IO.FS.readBinFile (String.ofList path)).toList
  catch _ => return none

/-- The paths at which the file of a settings path may be found. -/
def possiblePaths (path : Text) : List Text :=
  path :: Config.Format.extensions.map fun (ext, _) => Config.Path.withExtension path ext

def readFiles (paths : List Text) : IO Config.Files := do
  let found ← paths.filterMapM fun path => do
    return (← readBytes? path).map fun bytes => (path, bytes)
  return fun path => (found.find? (·.1 == path)).map (·.2)

/-- Puts out what the program leaves behind and gives its exit status. -/
def emit (outcome : Outcome) : IO UInt32 := do
  let out ← IO.getStdout
  out.write ⟨outcome.output.toArray⟩
  out.flush
  match outcome.error with
  | some e => IO.eprintln (Program.errorReport e)
  | none => pure ()
  return outcome.status.toUInt32

def main (args : List String) : IO UInt32 := do
  let args := args.map String.toList
  let fromEnv := (← IO.getEnv Program.configVariable).map String.toList
  let paths ← match CommandLine.parse args with
    | .ok o => pure (Program.settingsFiles o fromEnv)
    | .error (.fault f) => do
      IO.eprintln s!"error: {f.message}"
      pure []
    | .error _ => pure []
  let files ← readFiles (paths.flatMap possiblePaths)
  emit (Program.execute files fromEnv args)
