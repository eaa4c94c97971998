import PathGlob.Config.Error
import PathGlob.Pattern

namespace PathGlob

/-- Why a run failed. -/
inductive Error where
  | output (reason : String)
  | config (e : Config.ConfigError)
  | pattern (e : CompileError)
  deriving Repr

namespace Error

def message : Error → String
  | .output reason => reason
  | .config e => s!"failed to load configuration: {e.message}"
  | .pattern e => e.message

def cause? : Error → Option String
  | .output _ => none
  | .config e => some e.message
  | .pattern e => some e.fault.message

end Error

end PathGlob
