import PathGlob.Config.Ini
import PathGlob.Config.Json
import PathGlob.Config.Json5
import PathGlob.Config.Ron
import PathGlob.Config.Toml
import PathGlob.Config.Yaml.Document

namespace PathGlob.Config

/-- A format of configuration files. -/
inductive Format where
  | toml
  | json
  | yaml
  | ini
  | ron
  | json5
  deriving DecidableEq, Repr

namespace Format

/-- The extensions of files and what they say, in the order in which they are tried. -/
def extensions : List (Text × Format) :=
  [("toml".toList, .toml), ("json".toList, .json), ("yaml".toList, .yaml), ("yml".toList, .yaml),
    ("ini".toList, .ini), ("ron".toList, .ron), ("json5".toList, .json5)]

def ofExtension? (ext : Text) : Option Format :=
  (extensions.find? (·.1 == ext)).map (·.2)

def read? : Format → Text → Option Value
  | .json, t => Json.read? t
  | .toml, t => Toml.read? t
  | .yaml, t => Yaml.read? t
  | .ini, t => Ini.read? t
  | .ron, t => Ron.read? t
  | .json5, t => Json5.read? t

end Format

end PathGlob.Config
