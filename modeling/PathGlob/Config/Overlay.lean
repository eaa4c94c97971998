import PathGlob.Config.KeyPath

namespace PathGlob.Config

namespace Value

mutual

/-- Puts a value over another one. Tables merge key by key, at every depth, into a table that
belongs to no file; anything else replaces what was there. -/
def overlay : Value → Value → Value
  | .table _ incoming, old => overlayFields incoming old.asTable
  | v, _ => v

/-- Puts fields, one after the other, over those of a table. -/
def overlayFields : List (Text × Value) → Value → Value
  | [], v => v
  | (key, incoming) :: rest, v => overlayFields rest (updateKey key (overlay incoming) v)

end

end Value

/-- Puts an entry over a configuration, under the path that its key is read as. -/
def overlayEntry (config : Value) (entry : Text × Value) : Value :=
  let path := KeyPath.ofKey entry.1
  config.update (Value.overlay entry.2) (.key path.root :: path.steps)

def overlayFile (config : Value) (entries : Fields) : Value :=
  entries.foldl overlayEntry config

def empty : Value :=
  .table none []

end PathGlob.Config
