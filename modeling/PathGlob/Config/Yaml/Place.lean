import PathGlob.Config.Scan

namespace PathGlob.Config.Yaml

/-- Where a reader stands: what is left, how many characters precede, the line, the column, and
whether only blanks precede on the line. -/
structure Place where
  rest : Text
  index : Nat
  line : Nat
  column : Nat
  fresh : Bool

def Place.start (t : Text) : Place :=
  ⟨t, 0, 0, 0, true⟩

abbrev Reader := StateT Place Option

def isBlank (c : Char) : Bool :=
  c == ' ' || c == '\t'

def isBreak (c : Char) : Bool :=
  c == '\n' || c == '\r'

def isSpace (c : Char) : Bool :=
  isBlank c || isBreak c

/-- A character that has a meaning of its own between brackets or braces. -/
def isFlowMark (c : Char) : Bool :=
  [',', '[', ']', '{', '}'].contains c

def endsLine (c : Option Char) : Bool :=
  c.all isBreak

def endsWord (c : Option Char) : Bool :=
  c.all isSpace

def startsDocument (t : Text) : Bool :=
  match t with
  | '-' :: '-' :: '-' :: rest => endsWord rest.head?
  | _ => false

def endsDocument (t : Text) : Bool :=
  match t with
  | '.' :: '.' :: '.' :: rest => endsWord rest.head?
  | _ => false

namespace Reader

def rest : Reader Text :=
  return (← get).rest

def next : Reader (Option Char) :=
  return (← get).rest.head?

def second : Reader (Option Char) :=
  return ((← get).rest.drop 1).head?

def column : Reader Nat :=
  return (← get).column

def fresh : Reader Bool :=
  return (← get).fresh

def atMarker : Reader Bool := do
  let p ← get
  return p.column == 0 && (startsDocument p.rest || endsDocument p.rest)

def skip (n : Nat) : Reader Unit :=
  modify fun p => { p with
    rest := p.rest.drop n, index := p.index + n, column := p.column + n
    fresh := p.fresh && n == 0 }

def skipBlanks (n : Nat) : Reader Unit :=
  modify fun p => { p with
    rest := p.rest.drop n, index := p.index + n, column := p.column + n }

/-- Reads characters of a class, which holds no end of a line. -/
def takeWhile (p : Char → Bool) : Reader Text := do
  let t := (← rest).takeWhile p
  skip t.length
  return t

def takeBlanks : Reader Text := do
  let t := (← rest).takeWhile isBlank
  skipBlanks t.length
  return t

/-- Reads the end of a line, if there is one, and tells whether there was. -/
def lineEnd : Reader Bool := do
  let p ← get
  let begin (rest : Text) (n : Nat) : Place :=
    { rest, index := p.index + n, line := p.line + 1, column := 0, fresh := true }
  match p.rest with
  | '\r' :: '\n' :: rest => set (begin rest 2); return true
  | '\n' :: rest | '\r' :: rest => set (begin rest 1); return true
  | _ => return false

def skipLine : Reader Unit := do
  let _ ← takeWhile (!isBreak ·)

/-- Skips blanks and a comment behind them, and gives the blanks. A comment without a blank in front
is refused. -/
def skipToLineEnd : Reader Text := do
  let blanks ← takeBlanks
  if (← next) == some '#' then
    if blanks.isEmpty then failure
    skipLine
  return blanks

def skipSpaces : Nat → Reader Unit
  | 0 => return
  | fuel + 1 => do
    match ← next with
    | some ' ' =>
      skipBlanks 1
      skipSpaces fuel
    | some '#' =>
      skipLine
      skipSpaces fuel
    | _ => if ← lineEnd then skipSpaces fuel

/-- Skips blanks, comments and line ends up to the next token, and tells whether a line has ended. A
tab must not indent a line that has something on it to a column in front of `tabStop`. -/
def skipToToken (tabStop : Option Int) : Nat → Reader Bool
  | 0 => return false
  | fuel + 1 => do
    let p ← get
    match p.rest.head? with
    | some ' ' =>
      skipBlanks 1
      skipToToken tabStop fuel
    | some '\t' =>
      if p.fresh && tabStop.any ((p.column : Int) < ·) then
        let _ ← skipToLineEnd
        if !endsLine (← next) then failure
      else skipBlanks 1
      skipToToken tabStop fuel
    | some '#' =>
      skipLine
      skipToToken tabStop fuel
    | _ =>
      if ← lineEnd then
        let _ ← skipToToken tabStop fuel
        return true
      else return false

end Reader

end PathGlob.Config.Yaml
