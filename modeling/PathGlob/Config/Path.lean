import PathGlob.Text

namespace PathGlob.Config.Path

/-- The names of a path. Empty ones and single dots say nothing. -/
def names (path : Text) : List Text :=
  (Text.splitOn '/' path).filter fun name => !(name == [] || name == ['.'])

def join (names : List Text) : Text :=
  (names.intersperse ['/']).flatten

def isAbsolute (path : Text) : Bool :=
  path.head? == some '/'

def tidy (path : Text) : Text :=
  (if isAbsolute path then ['/'] else []) ++ join (names path)

def isFolderLike (path : Text) : Bool :=
  match (Text.splitOn '/' path).getLast? with
  | some name => name == [] || name == ['.'] || name == ['.', '.']
  | none => true

/-- The last name of a path, unless it goes up. -/
def lastName? (path : Text) : Option Text :=
  match (names path).getLast? with
  | some name => if name = ['.', '.'] then none else some name
  | none => none

/-- What follows the last dot of the last name. A dot that begins the name does not count. -/
def extension? (path : Text) : Option Text :=
  match lastName? path with
  | none => none
  | some name =>
    let behind := (name.reverse.takeWhile (· != '.')).reverse
    if behind.length + 1 < name.length then some behind else none

def upToName (path : Text) : Text :=
  let parts := (Text.splitOn '/' path).reverse.dropWhile fun name => name == [] || name == ['.']
  join parts.reverse

/-- A path with another extension instead of the one that its last name has, if any. What follows
the last name is left out. -/
def setExtension (path ext : Text) : Text :=
  if (lastName? path).isNone then path
  else
    let whole := upToName path
    let stem := match extension? path with
      | some old => whole.take (whole.length - (old.length + 1))
      | none => whole
    stem ++ '.' :: ext

/-- A path with one more extension. A path that has one already gets a second one first, which gives
way to the new one. -/
def withExtension (path ext : Text) : Text :=
  let longer := if (extension? path).isSome then path ++ ".placeholder".toList else path
  setExtension longer ext

end PathGlob.Config.Path
