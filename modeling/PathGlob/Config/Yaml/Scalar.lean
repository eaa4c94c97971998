import PathGlob.Config.Yaml.Place

namespace PathGlob.Config.Yaml

open Reader

def newlines (n : Nat) : Text :=
  List.replicate n '\n'

/-- What line ends in a row stand for within a scalar. -/
def folded (breaks : Nat) : Text :=
  if breaks = 1 then [' '] else newlines (breaks - 1)

/-! ### Plain scalars -/

/-- Whether a plain scalar ends before a character, given the one behind it. -/
def endsPlain (inFlow : Bool) (c : Char) (behind : Option Char) : Bool :=
  (c == ':' && (endsWord behind || (inFlow && behind.any isFlowMark))) ||
    (inFlow && isFlowMark c)

def plainWord (inFlow : Bool) : Text → Text
  | [] => []
  | c :: rest =>
    if isSpace c || endsPlain inFlow c rest.head? then [] else c :: plainWord inFlow rest

/-- Reads blanks and line ends within a plain scalar and gives what they stand for. Tabs indent only
lines that are empty but for a comment, and a line with a comment does not count. -/
def plainGap (indent : Int) : Nat → Nat → Text → Reader Text
  | 0, _, _ => failure
  | fuel + 1, breaks, blanks => do
    match ← next with
    | some c =>
      if isBlank c then
        if breaks = 0 then plainGap indent fuel 0 (blanks ++ (← takeBlanks))
        else
          if c == '\t' && (← column) < indent then
            let _ ← skipToLineEnd
            if !endsLine (← next) then failure
          else skipBlanks 1
          plainGap indent fuel breaks blanks
      else
        let commented := 0 < breaks && !(← fresh)
        if ← lineEnd then plainGap indent fuel (if commented then breaks else breaks + 1) blanks
        else return if breaks = 0 then blanks else folded breaks
    | none => return if breaks = 0 then blanks else folded breaks

/-- Reads the words of a plain scalar, the first behind something that stands for a gap. -/
def plainWords (inFlow : Bool) (indent : Int) : Nat → Text → Reader Text
  | 0, _ => failure
  | fuel + 1, gap => do
    if (← atMarker) || (← next) == some '#' then return []
    if inFlow && (← next) == some '-' && (← second).any isFlowMark then failure
    let word := plainWord inFlow (← rest)
    skip word.length
    let text := if word.isEmpty then [] else gap ++ word
    if (← next).any isSpace then
      let gap ← plainGap indent ((← rest).length + 1) 0 []
      if !inFlow && (← column) < indent then return text
      else return text ++ (← plainWords inFlow indent fuel gap)
    else return text

/-- Reads a plain scalar, whose lines outside of brackets are indented to some column. -/
def plainScalar (inFlow : Bool) (indent : Int) : Reader Text := do
  if inFlow && (← column) < indent then failure
  let t ← plainWords inFlow indent ((← rest).length + 1) []
  if t.isEmpty then failure else return t

/-! ### Scalars in quotes -/

def escaped? : Char → Option Char
  | '0' => some '\x00'
  | 'a' => some '\x07'
  | 'b' => some '\x08'
  | 't' | '\t' => some '\t'
  | 'n' => some '\n'
  | 'v' => some '\x0b'
  | 'f' => some '\x0c'
  | 'r' => some '\r'
  | 'e' => some '\x1b'
  | ' ' => some ' '
  | '"' => some '"'
  | '/' => some '/'
  | '\\' => some '\\'
  | 'N' => some '\u0085'
  | '_' => some '\u00a0'
  | 'L' => some '\u2028'
  | 'P' => some '\u2029'
  | _ => none

def escapeDigits? : Char → Option Nat
  | 'x' => some 2
  | 'u' => some 4
  | 'U' => some 8
  | _ => none

def escape : Reader Char := do
  match ← next with
  | none => failure
  | some c =>
    skip 1
    match escaped? c, escapeDigits? c with
    | some x, _ => return x
    | none, none => failure
    | none, some n =>
      let digits := (← rest).take n
      skip n
      if digits.length < n || !digits.all (isDigitOf 16) then failure
      match charOf? (numberOf 16 digits) with
      | some x => return x
      | none => failure

/-- Reads characters between quotes up to a blank, the end of a line or the closing quote, and tells
whether they end with an end of a line that a backslash takes away. -/
def quotedWord (quote : Char) : Nat → Reader (Text × Bool)
  | 0 => failure
  | fuel + 1 => do
    let more (c : Char) : Reader (Text × Bool) := do
      let (t, taken) ← quotedWord quote fuel
      return (c :: t, taken)
    match ← next, ← second with
    | none, _ => return ([], false)
    | some c, behind =>
      if isSpace c then return ([], false)
      else if c == quote then
        if quote == '\'' && behind == some '\'' then
          skip 2
          more '\''
        else return ([], false)
      else if c == '\\' && quote == '"' then
        skip 1
        if behind.any isBreak then
          let _ ← lineEnd
          return ([], true)
        else more (← escape)
      else
        skip 1
        more c

/-- Reads blanks and line ends between quotes and gives what they stand for. `taken` tells that an
end of a line has been taken away before. No tab may indent a line. -/
def quotedGap (indent : Int) (taken : Bool) : Nat → Nat → Text → Reader Text
  | 0, _, _ => failure
  | fuel + 1, breaks, blanks => do
    let gap : Text :=
      if taken then newlines breaks
      else if breaks = 0 then blanks
      else folded breaks
    match ← next with
    | some c =>
      if isBlank c then
        if breaks = 0 && !taken then quotedGap indent taken fuel 0 (blanks ++ (← takeBlanks))
        else
          if c == '\t' && (← column) < indent then failure
          skipBlanks 1
          quotedGap indent taken fuel breaks blanks
      else if ← lineEnd then quotedGap indent taken fuel (breaks + 1) blanks
      else return gap
    | none => return gap

def quotedRest (quote : Char) (indent : Int) : Nat → Reader Text
  | 0 => failure
  | fuel + 1 => do
    if (← atMarker) || (← next).isNone || (← column) < indent then failure
    let room := (← rest).length + 1
    let (word, taken) ← quotedWord quote room
    if (← next) == some quote then
      skip 1
      return word
    let gap ← quotedGap indent taken room 0 []
    return word ++ gap ++ (← quotedRest quote indent fuel)

/-- Reads a scalar in quotes. Nothing may follow it on its line but a comment, the mark of a key
that began on this line, and between brackets a mark of theirs. -/
def quotedScalar (quote : Char) (inFlow : Bool) (indent : Int) : Reader Text := do
  let line := (← get).line
  skip 1
  let t ← quotedRest quote indent ((← rest).length + 1)
  let _ ← skipToLineEnd
  match ← next with
  | none => return t
  | some c =>
    let mayFollow := isBreak c || (inFlow && [',', '}', ']', ':'].contains c) ||
      (!inFlow && c == ':' && line == (← get).line)
    if mayFollow then return t else failure

/-! ### Blocks of lines -/

/-- How the line ends behind a block of lines are treated. -/
inductive Chomping where
  | clip
  | strip
  | keep
  deriving DecidableEq

def chomping? : Reader (Option Chomping) := do
  match ← next with
  | some '+' => skip 1; return some .keep
  | some '-' => skip 1; return some .strip
  | _ => return none

def indentation? : Reader (Option Nat) := do
  match ← next with
  | some c =>
    if c == '0' then failure
    if c.isDigit then
      skip 1
      return some (c.toNat - '0'.toNat)
    return none
  | none => return none

/-- Reads the two marks behind the sign of a block, in either order. -/
def blockHeader : Reader (Chomping × Option Nat) := do
  match ← chomping? with
  | some chomping => return (chomping, ← indentation?)
  | none =>
    let indentation ← indentation?
    let chomping ← if indentation.isSome then chomping? else pure none
    return (chomping.getD .clip, indentation)

/-- Skips the indentation of a line of a block and empty lines before it, and counts these. -/
def skipIndent (indent : Nat) : Nat → Reader Nat
  | 0 => return 0
  | fuel + 1 => do
    let spaces := (← rest).takeWhile (· == ' ')
    skipBlanks (min spaces.length (indent - (← column)))
    if ← lineEnd then return (← skipIndent indent fuel) + 1 else return 0

/-- Skips blank lines before a block and the spaces of its first line, counts these lines, and gives
the number of spaces of the one with the most. -/
def skipFirstIndent : Nat → Nat → Reader (Nat × Nat)
  | 0, most => return (0, most)
  | fuel + 1, most => do
    let spaces := (← rest).takeWhile (· == ' ')
    skipBlanks spaces.length
    let most := max most (← column)
    if ← lineEnd then
      let (lines, most) ← skipFirstIndent fuel most
      return (lines + 1, most)
    else return (0, most)

/-- What has been read of a block: its text without the line ends at the end, whether the last line
has an end, and how many empty lines follow. -/
structure Block where
  text : Text
  ended : Bool
  empty : Nat

/-- Reads the lines of a block behind their first indentation. Where lines are folded, the end of
one gives way to a space or to the empty lines behind it, unless a blank begins it or the next
one. -/
def blockLines (fold : Bool) (indent : Nat) : Nat → Bool → Block → Reader Block
  | 0, _, b => return b
  | fuel + 1, loose, b => do
    let p ← get
    let stops := p.rest.isEmpty || p.column != indent || (indent == 0 && endsDocument p.rest)
    if stops then return b
    let looseNow := p.rest.head?.any isBlank
    let gap :=
      if fold && b.ended && !loose && !looseNow then folded (b.empty + 1)
      else newlines (b.empty + if b.ended then 1 else 0)
    let line := p.rest.takeWhile (!isBreak ·)
    skipBlanks line.length
    let text := b.text ++ gap ++ line
    if ← lineEnd then
      let empty ← skipIndent indent ((← rest).length + 1)
      blockLines fold indent fuel looseNow ⟨text, true, empty⟩
    else return ⟨text, false, 0⟩

def emptyBlock (chomping : Chomping) (headed : Bool) (empty : Nat) : Text :=
  match chomping with
  | .strip => []
  | .clip => newlines (if headed then 1 else 0)
  | .keep => newlines (if headed then max empty 1 else 0)

/-- Reads a block of lines below a parent that is indented to some column. -/
def blockScalar (fold : Bool) (indent : Int) : Reader Text := do
  skip 1
  let (chomping, given) ← blockHeader
  let _ ← skipToLineEnd
  if !endsLine (← next) then failure
  let headed ← lineEnd
  if (← next) == some '\t' then failure
  let room := (← rest).length + 1
  let (empty, indentation) ← match given with
    | some n =>
      let indentation := (max indent 0).toNat + n
      pure (← skipIndent indentation room, indentation)
    | none =>
      let (empty, most) ← skipFirstIndent room 0
      pure (empty, max most (indent + 1).toNat)
  if (← next).isNone then return emptyBlock chomping headed empty
  if (← column) < indentation && indent < (← column) then failure
  let b ← blockLines fold indentation room false ⟨[], false, empty⟩
  let lastEnd := (if b.ended then 1 else 0) +
    (if (← next).isNone && max indentation 1 ≤ (← column) then 1 else 0)
  match chomping with
  | .strip => return b.text
  | .clip => return b.text ++ newlines lastEnd
  | .keep => return b.text ++ newlines (lastEnd + b.empty)

end PathGlob.Config.Yaml
