import PathGlob.Config.Error
import PathGlob.Config.Format
import PathGlob.Config.Path
import PathGlob.Text.Bytes

namespace PathGlob.Config

/-- What can be read: the bytes of the file at a path, if the path is that of a file. -/
abbrev Files := Text → Option (List UInt8)

namespace Files

/-- The folder that names lead to from the root of a list of files. Going up is only possible from
a folder. -/
def resolve? (files : List (List Text)) : List Text → List Text → Option (List Text)
  | here, [] => some here.reverse
  | here, name :: rest =>
    if name = ['.', '.'] then
      match here with
      | [] => none
      | _ :: up =>
        if files.any fun f => here.reverse.isPrefixOf f && here.length < f.length then
          resolve? files up rest
        else none
    else resolve? files (name :: here) rest

def ofList (files : List (Text × List UInt8)) : Files := fun path =>
  if Path.isAbsolute path || Path.isFolderLike path then none
  else do
    let names ← resolve? (files.map fun f => Path.names f.1) [] (Path.names path)
    (files.find? fun f => Path.names f.1 == names).map (·.2)

end Files

/-- A file that was found: its name in messages, its format and its bytes. -/
structure Source where
  name : Text
  format : Format
  bytes : List UInt8

def Source.find (files : Files) (path : Text) : Except ConfigError Source :=
  match files path with
  | some bytes =>
    match Format.ofExtension? ((Path.extension? path).getD []) with
    | some format => .ok ⟨Path.tidy path, format, bytes⟩
    | none => .error (.unknownFormat path)
  | none =>
    let found := Format.extensions.findSome? fun (ext, format) => do
      let full := Path.withExtension path ext
      let bytes ← files full
      return (⟨Path.tidy full, format, bytes⟩ : Source)
    match found with
    | some source => .ok source
    | none => .error (.missingFile path)

def byteOrderMark : List UInt8 :=
  [0xef, 0xbb, 0xbf]

def Source.text (s : Source) : Text :=
  Text.ofBytes (if byteOrderMark.isPrefixOf s.bytes then s.bytes.drop 3 else s.bytes)

/-- The entries that a text of some file or of none makes up in a format: its root has to be a
table. The formats are read here without a reason where a text is not in one. -/
def entriesOf (origin : Option Text) (format : Format) (t : Text) : Except ConfigError Fields :=
  match format.read? t with
  | none => .error (.badFile origin (.unreadable ""))
  | some v =>
    match (match origin with | some file => v.named file | none => v) with
    | .table _ fields => .ok fields
    | other => .error (.badFile origin (.rootNotTable other))

def Source.entries (s : Source) : Except ConfigError Fields :=
  entriesOf (some s.name) s.format s.text

def readFile (files : Files) (path : Text) : Except ConfigError Fields := do
  (← Source.find files path).entries

end PathGlob.Config
