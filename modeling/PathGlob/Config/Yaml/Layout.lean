import PathGlob.Config.Yaml.Scalar
import PathGlob.Config.Yaml.Token

/-!
# From characters to tokens

Indentation begins and ends collections, and a key is known only by the colon behind it. So the
places where a key may have begun are kept, and when a colon comes the tokens of a key, and of the
mapping that it begins, are put in there.
-/

namespace PathGlob.Config.Yaml

/-- A place where a key may have begun: the tokens in front of it, where it is, and whether only a
key can be there. -/
structure Candidate where
  number : Nat
  index : Nat
  line : Nat
  column : Nat
  required : Bool

/-- A column that the lines of a block collection begin at, or that what is inside of one has to
reach. -/
structure Indent where
  column : Nat
  block : Bool

/-- How far a text has been cut into tokens.

The tokens and the indents are kept with the latest first. There is a candidate for a key in the
innermost brackets or braces, and one in each of those around them. `unbraced` tells that a mapping
without braces has begun; what ends next, be it a part of that mapping, ends it too. `marked` tells
that a brace or a question mark has come since one of them ended, so that a key between brackets
begins none, and `adjacent` where a colon needs no blank behind it. -/
structure Progress where
  place : Place
  tokens : List Token
  indents : List Indent
  keyAllowed : Bool
  candidate : Option Candidate
  outer : List (Option Candidate)
  unbraced : Bool
  marked : Bool
  adjacent : Option Nat

def Progress.start (t : Text) : Progress :=
  ⟨.start t, [], [], true, none, [], false, false, none⟩

def Progress.inFlow (s : Progress) : Bool :=
  !s.outer.isEmpty

/-- The column that lines are indented to, or one in front of all of them. -/
def Progress.indent (s : Progress) : Int :=
  match s.indents with
  | [] => -1
  | i :: _ => i.column

abbrev Tokenizer := StateT Progress Option

namespace Tokenizer

def reading {α : Type} (x : Reader α) : Tokenizer α := do
  let s ← get
  let (a, place) ← StateT.lift (x.run s.place)
  set { s with place }
  return a

def inFlow : Tokenizer Bool :=
  return (← get).inFlow

def push (t : Token) : Tokenizer Unit :=
  modify fun s => { s with tokens := t :: s.tokens }

def insert (number : Nat) (t : Token) : Tokenizer Unit :=
  modify fun s =>
    let (later, earlier) := s.tokens.splitAt (s.tokens.length - number)
    { s with tokens := later ++ t :: earlier }

/-! ### Keys -/

def allowKey (b : Bool) : Tokenizer Unit :=
  modify fun s => { s with keyAllowed := b }

def saveKey : Tokenizer Unit :=
  modify fun s =>
    let p := s.place
    let required := !s.inFlow && s.indent == p.column && s.indents.head?.any (·.block)
    if s.keyAllowed then
      { s with candidate := some ⟨s.tokens.length, p.index, p.line, p.column, required⟩ }
    else s

def dropKey : Tokenizer Unit := do
  let s ← get
  if s.candidate.any (·.required) then failure
  set { s with candidate := none }

/-- Gives up the candidate for a key if the line has ended, or more than 1024 characters have come.
Between brackets or braces neither matters. -/
def dropStaleKey : Tokenizer Unit := do
  let s ← get
  let stale (c : Candidate) : Bool :=
    c.line < s.place.line || c.index + 1024 < s.place.index
  if !s.inFlow && s.candidate.any stale then dropKey

/-! ### Indentation -/

def unroll (column : Int) : Tokenizer Unit :=
  modify fun s =>
    let further (i : Indent) : Bool := column < i.column
    let ended := (s.indents.takeWhile further).countP (·.block)
    if s.inFlow then s
    else { s with
      indents := s.indents.dropWhile further
      tokens := List.replicate ended .blockEnd ++ s.tokens }

/-- Begins a block collection at a column, behind a number of tokens, unless it has begun. -/
def roll (column number : Nat) (t : Token) : Tokenizer Unit := do
  let s ← get
  if s.inFlow then return
  let indents := match s.indents with
    | i :: rest => if !i.block && i.column ≤ column then rest else i :: rest
    | [] => []
  let s := { s with indents }
  set s
  if s.indent < (column : Int) then
    set { s with indents := ⟨column, true⟩ :: indents }
    insert number t

def rollOne : Tokenizer Unit :=
  modify fun s =>
    match s.indents with
    | i :: rest =>
      if i.block && !s.inFlow then { s with indents := ⟨i.column + 1, false⟩ :: i :: rest } else s
    | [] => s

def unrollInner : Tokenizer Unit :=
  modify fun s => { s with indents := s.indents.dropWhile (!·.block) }

/-- Skips to the next token. On a new line a key may begin, unless a bracket or a brace is open. -/
def skipToToken : Tokenizer Unit := do
  let s ← get
  let tabStop := if s.indents.isEmpty then none else some s.indent
  let broken ← reading (Reader.skipToToken tabStop (s.place.rest.length + 1))
  if broken && !s.inFlow then allowKey true

/-! ### Marks -/

def mark (length : Nat) : Tokenizer Unit :=
  reading do
    Reader.skip length
    let _ ← Reader.skipToLineEnd

def endUnbraced : Tokenizer Unit := do
  let s ← get
  if s.unbraced then
    set { s with unbraced := false, marked := false }
    push .mappingEnd

/-- Reads an opening bracket or brace. At most 255 may be open. -/
def flowStart (t : Token) : Tokenizer Unit := do
  saveKey
  rollOne
  let s ← get
  if 255 ≤ s.outer.length then failure
  set { s with candidate := none, outer := s.candidate :: s.outer }
  allowKey true
  if t == .mappingStart then modify fun s => { s with marked := true }
  mark 1
  push t

/-- Reads a closing bracket or brace. -/
def flowEnd (t : Token) : Tokenizer Unit := do
  dropKey
  match (← get).outer with
  | candidate :: outer => modify fun s => { s with candidate, outer }
  | [] => failure
  allowKey false
  endUnbraced
  mark 1
  if ← inFlow then modify fun s => { s with adjacent := some s.place.index }
  push t

def comma : Tokenizer Unit := do
  dropKey
  allowKey true
  endUnbraced
  mark 1
  push .comma

/-- Reads a dash in front of an item. A tab is not enough between two of them. -/
def entry : Tokenizer Unit := do
  let s ← get
  if s.inFlow || !s.keyAllowed then failure
  roll s.place.column s.tokens.length .blockSequence
  let blanks ← reading do
    Reader.skip 1
    Reader.skipToLineEnd
  let p := (← get).place
  match p.rest with
  | '-' :: behind => if blanks.contains '\t' && endsWord behind.head? then failure
  | c :: _ => if isBreak c || isFlowMark c then rollOne
  | [] => pure ()
  dropKey
  allowKey true
  push .entry

/-- Reads a question mark in front of a key. No tab may stand behind it or in front of the key. -/
def keyMark : Tokenizer Unit := do
  let s ← get
  if s.inFlow then set { s with marked := true }
  else
    if !s.keyAllowed then failure
    roll s.place.column s.tokens.length .blockMapping
  dropKey
  allowKey !s.inFlow
  reading do
    Reader.skip 1
    if (← Reader.next) == some '\t' then failure
    if !(← Reader.next).any isSpace then failure
    Reader.skipSpaces ((← Reader.rest).length + 1)
    if (← Reader.next) == some '\t' then failure
  push .key

/-- Reads a colon in front of a value. What comes before it may turn out to be a key by this, and
the first of a mapping. A tab is not enough between the colon and a word. -/
def valueMark : Tokenizer Unit := do
  let s ← get
  let unbraced := s.inFlow && !s.marked
  set { s with unbraced }
  reading do
    Reader.skip 1
    if (← Reader.next) == some '\t' then
      let blanks ← Reader.skipToLineEnd
      if !blanks.contains ' ' && (← Reader.next).any isWordChar then failure
  match s.candidate with
  | some c =>
    insert c.number .key
    if unbraced then
      if c.line < s.place.line then failure
      insert c.number .mappingStart
    roll c.column c.number .blockMapping
    rollOne
    modify fun s => { s with candidate := none }
    allowKey false
  | none =>
    if unbraced then push .mappingStart
    if !s.inFlow then
      if !s.keyAllowed then failure
      roll s.place.column s.tokens.length .blockMapping
    rollOne
    allowKey !s.inFlow
  push .value

/-! ### Words -/

def property (x : Reader Token) : Tokenizer Unit := do
  saveKey
  allowKey false
  push (← reading x)

def plain : Tokenizer Unit := do
  saveKey
  allowKey false
  unrollInner
  let s ← get
  let t ← reading (plainScalar s.inFlow (s.indent + 1))
  if (← get).place.fresh then allowKey true
  push (.scalar true t)

def quoted (quote : Char) : Tokenizer Unit := do
  saveKey
  allowKey false
  let s ← get
  let t ← reading (quotedScalar quote s.inFlow s.indent)
  skipToToken
  modify fun s => { s with adjacent := some s.place.index }
  push (.scalar false t)

def block (fold : Bool) : Tokenizer Unit := do
  saveKey
  allowKey true
  unrollInner
  let t ← reading (blockScalar fold (← get).indent)
  push (.scalar false t)

/-! ### Documents -/

def unrollAll : Tokenizer Unit := do
  unroll (-1)
  dropKey
  allowKey false

def directiveLine : Tokenizer Unit := do
  unrollAll
  push (← reading directive)

def startMark : Tokenizer Unit := do
  unrollAll
  reading (Reader.skip 3)
  push .documentStart

/-- Reads the mark that ends a document, which stands alone on its line. -/
def endMark : Tokenizer Unit := do
  unrollAll
  mark 3
  if !endsLine (← reading Reader.next) then failure
  push .documentEnd

/-- Reads the token that begins with a character, given what comes behind it. -/
def token (c : Char) (behind : Option Char) : Tokenizer Unit := do
  let s ← get
  let ends := endsWord behind
  let adjacent := s.adjacent == some s.place.index
  match c with
  | '[' => flowStart .sequenceStart
  | '{' => flowStart .mappingStart
  | ']' => flowEnd .sequenceEnd
  | '}' => flowEnd .mappingEnd
  | ',' => comma
  | '-' => if ends then entry else plain
  | '?' => if ends then keyMark else plain
  | ':' =>
    if ends || (s.inFlow && (adjacent || behind.any isFlowMark)) then valueMark else plain
  | '*' => property (.reference <$> name)
  | '&' => property (.anchor <$> name)
  | '!' => property (tagToken s.inFlow)
  | '|' => if s.inFlow then plain else block false
  | '>' => if s.inFlow then plain else block true
  | '\'' | '"' => quoted c
  | '%' | '@' | '\x60' => failure
  | _ => plain

/-- Reads the next token and those that go with it, and tells whether there is one. -/
def step : Tokenizer Bool := do
  skipToToken
  dropStaleKey
  unroll (← get).place.column
  let s ← get
  match s.place.rest with
  | [] =>
    if s.inFlow then failure
    unrollAll
    return false
  | c :: rest =>
    if s.place.column == 0 && c == '%' then directiveLine
    else if s.place.column == 0 && startsDocument s.place.rest then startMark
    else if s.place.column == 0 && endsDocument s.place.rest then endMark
    else
      if s.place.column < s.indent then failure
      token c rest.head?
    return true

def all : Nat → Tokenizer Unit
  | 0 => failure
  | fuel + 1 => do
    if ← step then all fuel

end Tokenizer

def tokens? (t : Text) : Option (List Token) :=
  ((Tokenizer.all (t.length + 2)).run (.start t)).map fun (_, s) => s.tokens.reverse

end PathGlob.Config.Yaml
