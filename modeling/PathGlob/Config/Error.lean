import PathGlob.Config.Value

namespace PathGlob.Config

/-- What is wrong with the text of a source. The reason why a text is not in its format is worded by
the reader of the format. -/
inductive FileFault where
  | unreadable (reason : String)
  | rootNotTable (found : Value)
  deriving Repr

/-- Why a configuration could not be loaded. -/
inductive ConfigError where
  /-- The text of a source is not in its format, or its root is not a table. -/
  | badFile (file : Option Text) (fault : FileFault)
  /-- No file answers to a path. -/
  | missingFile (path : Text)
  /-- A file's extension names no known format. -/
  | unknownFormat (path : Text)
  /-- A required field is absent. -/
  | missingField (key : Text)
  /-- A value of another type stands where a scalar was expected. -/
  | mistyped (found : Value) (expected : String) (key : Text)
  /-- A value of another shape stands where a record or a sequence was expected. -/
  | misplaced (reason : String) (key : Text)
  /-- Anything else, in words. -/
  | other (message : String)
  deriving Repr

def inFile (origin : Option Text) : String :=
  match origin with
  | some file => s!" in {String.ofList file}"
  | none => ""

def FileFault.message (file : Option Text) : FileFault → String
  | .unreadable reason => reason
  | .rootNotTable found => s!"invalid type: {found.noun}, expected a map" ++ inFile file

def ConfigError.message : ConfigError → String
  | .badFile file fault => fault.message file ++ inFile file
  | .missingFile path => s!"configuration file \"{String.ofList path}\" not found"
  | .unknownFormat path =>
    s!"configuration file \"{String.ofList path}\" is not of a supported file format"
  | .missingField key => s!"missing configuration field {key.quoted}"
  | .mistyped found expected key =>
    s!"invalid type: {found.noun}, expected {expected} for key `{String.ofList key}`" ++
      inFile found.origin?
  | .misplaced reason key => s!"{reason} for key `{String.ofList key}`"
  | .other message => message

end PathGlob.Config
