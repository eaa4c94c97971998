import PathGlob.Config.Scan
import PathGlob.Config.Value
import PathGlob.Text.Blank

/-!
# INI files

Sections of keys and values. Every value is a text on one line, in parts of which quotes may keep
blanks and line ends; a key runs up to its mark, over as many lines as that takes. A section that
is opened again starts anew, and keys in front of the first section belong to the root. An indented
line that holds no key is passed over up to the place where it stops to look like one.
-/

namespace PathGlob.Config.Ini

/-- Reads the front of a text and leaves the rest. A reader that fails leaves what it could not
read. -/
abbrev Reader := OptionT (StateM Text)

def isLineEnd (c : Char) : Bool :=
  c == '\n' || c == '\r'

def isMark (c : Char) : Bool :=
  c == '=' || c == ':'

def isIndent (c : Char) : Bool :=
  c == ' ' || c == '\t'

/-! ### Characters -/

/-- Goes on to the next character of a code and gives it. A backslash there has to stand before the
end of a line. -/
def codeDigit : Reader Char := do
  modify (·.drop 1)
  match ← get with
  | [] => failure
  | '\\' :: rest =>
    set rest
    if rest.head? == some '\n' then return '\\' else failure
  | c :: _ => return c

def codeChar : Reader Char := do
  let first ← codeDigit
  let rest := [← codeDigit, ← codeDigit, ← codeDigit]
  let digits := if first = '+' then rest else first :: rest
  match if digits.all (isDigitOf 16) then charOf? (numberOf 16 digits) else none with
  | some c =>
    modify (·.drop 1)
    return c
  | none => failure

def escaped : Char → Text
  | '0' => ['\x00']
  | 'a' => ['\x07']
  | 'b' => ['\x08']
  | 't' => ['\t']
  | 'r' => ['\r']
  | 'n' => ['\n']
  | '\n' => []
  | c => [c]

def escape : Reader Text := do
  match ← get with
  | [] => return ['\\']
  | 'x' :: _ => return [← codeChar]
  | c :: rest =>
    set rest
    return escaped c

/-- Reads up to a character of a class, which stays unread, or to the end; a backslash escapes what
follows it. -/
def upTo (stop : Char → Bool) : Nat → Reader Text
  | 0 => return []
  | fuel + 1 => do
    match ← get with
    | [] => return []
    | c :: rest =>
      if stop c then return []
      set rest
      if c = '\\' then return (← escape) ++ (← upTo stop fuel)
      return c :: (← upTo stop fuel)

/-- Reads up to a character of a class, which has to come and stays unread. -/
def before (stop : Char → Bool) (fuel : Nat) : Reader Text := do
  let t ← upTo stop fuel
  if (← get).isEmpty then failure else return t

def through (last : Char) (fuel : Nat) : Reader Text := do
  let t ← before (· == last) fuel
  modify (·.drop 1)
  return t

/-! ### Values -/

/-- Reads the parts of a value: quoted ones and then the rest of the line, without blanks around it
or, behind a quoted one, without blanks at its end. -/
def parts (whole : Nat) : Nat → Bool → Reader Text
  | 0, _ => return []
  | fuel + 1, first => do
    match ← get with
    | '"' :: rest =>
      set rest
      return (← through '"' whole) ++ (← parts whole fuel false)
    | '\'' :: rest =>
      set rest
      return (← through '\'' whole) ++ (← parts whole fuel false)
    | _ =>
      let t ← upTo isLineEnd whole
      return if first then Text.trim t else Text.trimEnd t

def value (fuel : Nat) : Reader Text := do
  modify fun t => (t.drop 1).dropWhile fun c => Text.isWhite c && !isLineEnd c
  parts fuel fuel true

/-- Puts a value into the section that was opened last, or into the root. -/
def put (current : Option Text) (key v : Text) (fields : Fields) : Fields :=
  match current with
  | none => fields.set key (.text v)
  | some name =>
    let old := match Fields.get? fields name with
      | some (.table _ fs) => fs
      | _ => []
    fields.set name (.table none (Fields.set old key (.text v)))

/-! ### Lines -/

/-- Skips blanks up to something to read or to the indent of a line, and tells whether what follows
is at the beginning of a line. -/
def skipBlank : Nat → Bool → Reader Bool
  | 0, atStart => return atStart
  | fuel + 1, atStart => do
    match ← get with
    | [] => return atStart
    | c :: rest =>
      if !Text.isWhite c then return atStart
      set rest
      if isLineEnd c && (rest.head?.any isIndent) then return c == '\n'
      skipBlank fuel (c == '\n')

def key (fuel : Nat) : Reader Text :=
  Text.trim <$> before isMark fuel

def entry (fuel : Nat) (current : Option Text) (key : Text) (fields : Fields) : Reader Fields := do
  if key.isEmpty then failure
  return put current key (← value fuel) fields

def lines : Nat → Bool → Option Text → Fields → Reader Fields
  | 0, _, _, _ => failure
  | fuel + 1, atStart, current, fields => do
    match ← get with
    | [] => return fields
    | c :: rest =>
      if c == ';' || c == '#' then
        if !atStart then failure
        set ((rest.dropWhile (· != '\n')).drop 1)
        let atStart ← skipBlank fuel true
        lines fuel atStart current fields
      else if c = '[' then
        set rest
        let name := Text.trim (← through ']' fuel)
        let atStart ← skipBlank fuel false
        lines fuel atStart (some name) (fields.set name (.table none []))
      else if isLineEnd c then
        let atStart ← skipBlank fuel atStart
        lines fuel atStart current fields
      else if isIndent c then
        let rest := rest.dropWhile isIndent
        set rest
        if rest.head?.all fun c => c == '[' || isLineEnd c then lines fuel false current fields
        else
          let fields ← match ← (some <$> key fuel) <|> pure none with
            | some key => entry fuel current key fields
            | none => pure fields
          let atStart ← skipBlank fuel false
          lines fuel atStart current fields
      else
        let fields ← entry fuel current (← key fuel) fields
        let atStart ← skipBlank fuel false
        lines fuel atStart current fields

def read? (t : Text) : Option Value :=
  let (fields, _) := ((lines (t.length + 2) true none []).run.run t)
  fields.map (.table none)

end PathGlob.Config.Ini
