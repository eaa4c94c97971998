import PathGlob.Cache
import PathGlob.Settings
import PathGlob.Template

namespace PathGlob.Cache

def captures (c : Cache) (raw candidate : Text) : Logged (Option Captures × Cache) := do
  let (shared, c) ← c.get raw
  return (shared.pattern.captures candidate, c)

def isMatch (c : Cache) (raw candidate : Text) : Logged (Bool × Cache) := do
  let (shared, c) ← c.get raw
  return (shared.pattern.isMatch candidate, c)

def expand (c : Cache) (raw candidate template : Text) : Logged (Option Text × Cache) := do
  let (found, c) ← c.captures raw candidate
  return (found.map (Template.expand template), c)

/-- Requests patterns one after the other, up to the first that fails to compile. -/
def requestAll (c : Cache) : List Text → Logged (Except CompileError Cache)
  | [] => return .ok c
  | raw :: rest => do
    match ← c.tryGet raw with
    | (.error e, _) => return .error e
    | (.ok _, c) => c.requestAll rest

/-- A new cache that holds the patterns of some settings. Their capacity says only how much room is
made beforehand, which no answer depends on; a capacity beyond all memory, with which no cache could
be made, is left out. -/
def ofSettings (s : Settings) : Logged (Except Error Cache) := do
  match ← empty.requestAll s.preload with
  | .error e => return .error (.pattern e)
  | .ok c =>
    Logged.report (.matcherCreated c.size)
    return .ok c

end PathGlob.Cache
