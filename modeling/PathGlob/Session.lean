import PathGlob.Matching
import PathGlob.Program

namespace PathGlob

/-- The settings of a process, fixed by the first step that installs or needs them, and the cache of
its matcher, made from them when it is first needed. -/
structure Session where
  settings : Option Settings
  cache : Option Cache
  deriving Repr

/-- What a process finds around it: its files and the file that the environment names. -/
structure Surroundings where
  files : Config.Files
  fromEnv : Option Text

namespace Session

/-- A step of a process. -/
inductive Step where
  | captures (raw candidate : Text)
  | isMatch (raw candidate : Text)
  | contains (raw : Text)
  | state
  | get
  | default
  | load
  | install (settings : Settings)
  deriving DecidableEq, Repr

/-- What a step answers. -/
inductive Answer where
  | captures (found : Option Captures)
  | flag (b : Bool)
  | counts (size compilations : Nat)
  | settings (s : Settings)
  | failed (e : Error)
  | done
  deriving Repr

def Answer.loaded : Except Error Settings → Answer
  | .ok s => .settings s
  | .error e => .failed e

def fresh : Session :=
  ⟨none, none⟩

def loadSettings (w : Surroundings) : Logged (Except Error Settings) :=
  Settings.load w.files (Program.environmentFiles w.fromEnv)

/-- Fixes the settings that were loaded, or the defaults where they could not be loaded. -/
def fix (s : Session) : Except Error Settings → Logged (Settings × Session)
  | .ok settings => return (settings, { s with settings := some settings })
  | .error e => do
    Logged.report (.settingsFailed e.message)
    return (Settings.default, { s with settings := some Settings.default })

/-- The settings of the process, fixed now if they were not. -/
def getSettings (w : Surroundings) (s : Session) : Logged (Settings × Session) :=
  match s.settings with
  | some settings => return (settings, s)
  | none => loadSettings w >>= s.fix

/-- The cache of the matcher of the process, made now if it was not. -/
def getCache (w : Surroundings) (s : Session) : Logged (Cache × Session) :=
  match s.cache with
  | some cache => return (cache, s)
  | none => do
    let (settings, s) ← getSettings w s
    match ← Cache.ofSettings settings with
    | .ok cache => return (cache, { s with cache := some cache })
    | .error e =>
      Logged.report (.preloadFailed e.message)
      return (Cache.empty, { s with cache := some Cache.empty })

def step (w : Surroundings) (s : Session) : Step → Logged (Answer × Session)
  | .captures raw candidate => do
    let (cache, s) ← getCache w s
    let (found, cache) ← cache.captures raw candidate
    return (.captures found, { s with cache := some cache })
  | .isMatch raw candidate => do
    let (cache, s) ← getCache w s
    let (found, cache) ← cache.isMatch raw candidate
    return (.flag found, { s with cache := some cache })
  | .contains raw => do
    let (cache, s) ← getCache w s
    return (.flag (cache.contains raw), s)
  | .state => do
    let (cache, s) ← getCache w s
    return (.counts cache.size cache.compilations, s)
  | .get => do
    let (settings, s) ← getSettings w s
    return (.settings settings, s)
  | .default => return (.settings Settings.default, s)
  | .load => return (.loaded (← loadSettings w), s)
  | .install settings =>
    match s.settings with
    | none => return (.done, { s with settings := some settings })
    | some _ => do
      Logged.report .settingsKept
      return (.done, s)

def run (w : Surroundings) (s : Session) : List Step → Logged (List Answer × Session)
  | [] => return ([], s)
  | r :: rest => do
    let (answer, s) ← step w s r
    let (answers, last) ← run w s rest
    return (answer :: answers, last)

end Session

end PathGlob
