import PathGlob.Config.Yaml.Place

namespace PathGlob.Config.Yaml

/-- A part of a document. -/
inductive Token where
  /-- The version of the language, which changes nothing. -/
  | version
  /-- A short form for the beginning of tags. -/
  | shorthand (handle lead : Text)
  | documentStart
  | documentEnd
  /-- The beginning of a sequence that is laid out by indentation. -/
  | blockSequence
  /-- The beginning of a mapping that is laid out by indentation. -/
  | blockMapping
  /-- The end of a collection that is laid out by indentation. -/
  | blockEnd
  /-- A dash in front of an item. -/
  | entry
  | sequenceStart
  | sequenceEnd
  | mappingStart
  | mappingEnd
  | comma
  /-- The beginning of a key. -/
  | key
  /-- A colon in front of a value. -/
  | value
  | anchor (name : Text)
  | reference (name : Text)
  | tag (handle suffix : Text)
  /-- A scalar, which is resolved only if it is plain. -/
  | scalar (plain : Bool) (t : Text)
  deriving DecidableEq

open Reader

/-! ### Names -/

def isNameChar (c : Char) : Bool :=
  !isSpace c && !isFlowMark c && c != '\ufeff'

def name : Reader Text := do
  skip 1
  let t ← takeWhile isNameChar
  if t.isEmpty then failure else return t

/-! ### Tags -/

def isWordChar (c : Char) : Bool :=
  c.isAlphanum || c == '_' || c == '-'

def isUriChar (c : Char) : Bool :=
  isWordChar c || "#;/?:@&=+$,.!~*'()[]%".toList.contains c

def isTagChar (c : Char) : Bool :=
  isUriChar c && !isFlowMark c && c != '!'

def escapedByte : Reader Nat := do
  match ← rest with
  | '%' :: high :: low :: _ =>
    if !isDigitOf 16 high || !isDigitOf 16 low then failure
    skip 3
    return numberOf 16 [high, low]
  | _ => failure

/-- Reads a character that is written with percent signs. Of two bytes the first counts 256 times
the second, and no character has more. -/
def escapedChar : Reader Char := do
  let first ← escapedByte
  let code ←
    if first < 0x80 then pure first
    else if 0xc0 ≤ first && first < 0xe0 then do
      let second ← escapedByte
      if second / 0x40 != 2 then failure
      pure (first * 0x100 + second)
    else failure
  match charOf? code with
  | some c => return c
  | none => failure

/-- Reads characters of a class, and those that are written with percent signs if it holds these. -/
def uriWhile (p : Char → Bool) : Nat → Reader Text
  | 0 => return []
  | fuel + 1 => do
    match ← next with
    | some c =>
      if !p c then return []
      let c ← if c == '%' then escapedChar else do skip 1; pure c
      return c :: (← uriWhile p fuel)
    | none => return []

/-- Reads the handle of a tag: an exclamation mark, and perhaps a word and another mark. -/
def handle : Reader Text := do
  if (← next) != some '!' then failure
  skip 1
  let word ← takeWhile isWordChar
  if (← next) == some '!' then
    skip 1
    return '!' :: word ++ ['!']
  else return '!' :: word

/-- Whether a handle stands for something that a directive declares. -/
def isNamedHandle (t : Text) : Bool :=
  2 ≤ t.length && t.getLast? == some '!'

def writtenTag : Reader Token := do
  skip 2
  let t ← uriWhile isUriChar ((← rest).length + 1)
  if (← next) != some '>' then failure
  skip 1
  return .tag [] t

def shortTag : Reader Token := do
  let h ← handle
  let suffix ← uriWhile isTagChar ((← rest).length + 1)
  if isNamedHandle h then
    if suffix.isEmpty then failure
    return .tag h suffix
  match h.drop 1 ++ suffix with
  | [] => return .tag [] ['!']
  | t => return .tag ['!'] t

/-- Reads a tag, from its exclamation mark on. A word must end behind it. -/
def tagToken (inFlow : Bool) : Reader Token := do
  let t ← if (← second) == some '<' then writtenTag else shortTag
  let c ← next
  if endsWord c || (inFlow && c.any isFlowMark) then return t else failure

/-! ### Directives -/

def versionNumber : Reader Unit := do
  let t ← takeWhile Char.isDigit
  if t.isEmpty || 9 < t.length then failure

def versionDirective : Reader Token := do
  let _ ← takeBlanks
  versionNumber
  if (← next) != some '.' then failure
  skip 1
  versionNumber
  return .version

def shorthandDirective : Reader Token := do
  let _ ← takeBlanks
  let h ← handle
  if h != ['!'] && !isNamedHandle h then failure
  let _ ← takeBlanks
  match ← next with
  | some c => if c != '!' && !isTagChar c then failure
  | none => failure
  let lead ← uriWhile isUriChar ((← rest).length + 1)
  if endsWord (← next) then return .shorthand h lead else failure

/-- Reads a directive up to the end of its line. One that is not known declares an empty handle. -/
def directive : Reader Token := do
  skip 1
  let name ← takeWhile isWordChar
  if name.isEmpty || !endsWord (← next) then failure
  let t ←
    if name == "YAML".toList then versionDirective
    else if name == "TAG".toList then shorthandDirective
    else do
      skipLine
      pure (.shorthand [] [])
  let _ ← skipToLineEnd
  if !endsLine (← next) then failure
  let _ ← lineEnd
  return t

end PathGlob.Config.Yaml
