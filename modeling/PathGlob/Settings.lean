import PathGlob.Config.Package
import PathGlob.Error
import PathGlob.Event

namespace PathGlob

/-- How large a new cache is made and which patterns it starts with. -/
structure Settings where
  capacity : Nat
  preload : List Text
  deriving DecidableEq, Repr

namespace Settings

open Config

def cacheKey : Text := "cache".toList

def capacityKey : Text := "initial-capacity".toList

def preloadKey : Text := "preload".toList

/-- The text of the defaults. It is irreducible lest a tactic should read it. -/
@[irreducible]
def defaultText : String :=
  "# Default settings.\n" ++
  "# Any of them can be overridden by a user configuration file\n" ++
  "# named by the PATHMATCH_CONFIG environment variable.\n" ++
  "cache:\n" ++
  "  # Number of patterns the cache is sized for up front.\n" ++
  "  initial-capacity: 64\n" ++
  "  # Patterns compiled when the matcher is created.\n" ++
  "  preload: []\n"

/-- The settings that the text of the defaults comes to. -/
def default : Settings :=
  ⟨64, []⟩

/-- A field below a key, as messages name it. -/
def below (key field : Text) : Text :=
  key ++ '.' :: field

/-- The settings in the value of the cache table: by field, or by position in an array. -/
def ofCacheValue (p : Package) (v : Value) : Except ConfigError Settings :=
  match v with
  | .table _ fields => do
    let capacity ←
      (Fields.get? fields capacityKey).mapM (p.toUnsigned (below cacheKey capacityKey))
    let preload ← (Fields.get? fields preloadKey).mapM (p.toTexts (below cacheKey preloadKey))
    match capacity with
    | none => .error (.missingField (below cacheKey capacityKey))
    | some capacity => return ⟨capacity, preload.getD []⟩
  | .array _ [] =>
    .error (.misplaced "invalid length 0, expected struct CacheSettings with 2 elements" cacheKey)
  | .array _ (first :: rest) => do
    let capacity ← p.toUnsigned (itemOf cacheKey 0) first
    let preload ← rest.head?.mapM (p.toTexts (itemOf cacheKey 1))
    return ⟨capacity, preload.getD []⟩
  | _ => .error (.misplaced s!"invalid type: {v.plainNoun}, expected struct CacheSettings" cacheKey)

def ofConfig (p : Package) (config : Value) : Except ConfigError Settings :=
  match Fields.get? config.fields cacheKey with
  | some v => ofCacheValue p v
  | none => .error (.missingField cacheKey)

/-- The settings in some files, each laid over the ones before it and over the defaults. The first
source that cannot be read decides the error. -/
def readWith (p : Package) (files : Files) (paths : List Text) : Except ConfigError Settings := do
  let defaults ← p.readText .yaml defaultText.toList
  let entries ← paths.mapM (p.readFile files)
  ofConfig p (p.layered (defaults :: entries))

/-- Reads settings and reports every path. -/
def loadWith (p : Package) (files : Files) (paths : List Text) :
    Logged (Except Error Settings) := do
  Logged.reportAll (paths.map .settingsLoading)
  return (readWith p files paths).mapError .config

def load (files : Files) (paths : List Text) : Logged (Except Error Settings) :=
  loadWith .standard files paths

theorem value_loadWith (p : Package) (files : Files) (paths : List Text) :
    (loadWith p files paths).value = (readWith p files paths).mapError .config := rfl

end Settings

end PathGlob
