import PathGlob.Report

namespace PathGlob

/-- What the program leaves behind: its exit status, its output and the error it reports. -/
structure Outcome where
  status : Nat
  output : List UInt8
  error : Option Error

namespace Program

def name : String := "pathmatch"

def configVariable : String := "PATHMATCH_CONFIG"

/-- The files that the environment names: one, unless its name is empty. -/
def environmentFiles (fromEnv : Option Text) : List Text :=
  match fromEnv with
  | some path => if path.isEmpty then [] else [path]
  | none => []

/-- Settings come from the files that the command line names; without any, from the one that the
environment names. -/
def settingsFiles (o : Options) (fromEnv : Option Text) : List Text :=
  if o.config.isEmpty then environmentFiles fromEnv else o.config

/-- Reports matches, if settings could be loaded. -/
def report (o : Options) : Except Error Settings → Outcome
  | .error e => ⟨Report.statusFailed, [], some e⟩
  | .ok settings =>
    let (result, sink) := (Report.run o settings Sink.unbounded).value
    { status := Report.exitStatus result, output := sink.taken
      error := match result with
        | .ok _ => none
        | .error e => some e }

/-- Runs the program for options that were read. Setting up the log, which
`PATHMATCH_DEBUG_LOG` asks for, and making the settings known to the rest of the process are left
out: neither has a part in what is written or in how the run ends. -/
def run (files : Config.Files) (fromEnv : Option Text) (o : Options) : Outcome :=
  report o (Settings.load files (settingsFiles o fromEnv)).value

def execute (files : Config.Files) (fromEnv : Option Text) (args : List Text) : Outcome :=
  match CommandLine.parse args with
  | .ok o => run files fromEnv o
  | .error .help => ⟨Report.statusMatched, Text.bytes CommandLine.helpText.toList, none⟩
  | .error .version => ⟨Report.statusMatched, Text.bytes CommandLine.versionText.toList, none⟩
  | .error (.fault _) => ⟨Report.statusFailed, [], none⟩

def errorReport (e : Error) : String :=
  s!"{name}: {e.message}"

/-- The first line of a text of which every line has its end, be it a line feed alone or one behind
a carriage return. -/
def firstLine (t : String) : String :=
  let line := t.toList.takeWhile (· != '\n')
  String.ofList (if line.getLast? = some '\r' then line.dropLast else line)

end Program

end PathGlob
