import PathGlob.Config.Scan
import PathGlob.Config.Value
import PathGlob.Decimal.Reading

/-!
# TOML files

Lines of keys and values, below headers that open tables. A table may be opened in parts as long as
no part of it is given twice; `Entry` keeps how each table came about to tell the two apart. Dates
and times are kept as text.
-/

namespace PathGlob.Config.Toml

open Scan

/-- How a table came about: on the way to a deeper header, by its own header, or by a dotted key. -/
inductive Opening where
  | implied
  | header
  | dotted
  deriving DecidableEq

/-- What stands under a key while a file is read: a finished value, a table that may still grow, or
an array of tables of which the last may still grow. -/
inductive Entry where
  | closed (v : Value)
  | table (opening : Opening) (fields : List (Text × Entry))
  | tables (done : List (List (Text × Entry))) (last : List (Text × Entry))

abbrev Entries := List (Text × Entry)

def Entries.get? (es : Entries) (key : Text) : Option Entry :=
  (es.find? (·.1 == key)).map (·.2)

def Entries.set (es : Entries) (key : Text) (e : Entry) : Entries :=
  match es with
  | [] => [(key, e)]
  | (k, old) :: rest => if k = key then (k, e) :: rest else (k, old) :: Entries.set rest key e

/-- Changes the entries of the table that keys lead to. Tables on the way are made where they are
missing, and one that is already there has to allow it: dotted keys do not enter a table that has
its own header, and add only to tables that dotted keys made. -/
def descend (opening : Opening) (f : Entries → Option Entries) :
    List Text → Entries → Option Entries
  | [], es => f es
  | key :: keys, es =>
    match Entries.get? es key with
    | none => return Entries.set es key (.table opening (← descend opening f keys []))
    | some (.closed _) => none
    | some (.table how fields) =>
      if opening = .dotted ∧ (how = .header ∨ (how = .implied ∧ keys = [])) then none
      else return Entries.set es key (.table how (← descend opening f keys fields))
    | some (.tables done last) =>
      if opening = .dotted ∧ keys = [] then none
      else return Entries.set es key (.tables done (← descend opening f keys last))

def assign (keys : List Text) (v : Value) (es : Entries) : Option Entries :=
  match keys.reverse with
  | [] => none
  | key :: outer =>
    let put (es : Entries) : Option Entries :=
      if (Entries.get? es key).isSome then none else some (Entries.set es key (.closed v))
    descend .dotted put outer.reverse es

def openTable (keys : List Text) (es : Entries) : Option Entries :=
  match keys.reverse with
  | [] => none
  | key :: outer =>
    let put (es : Entries) : Option Entries :=
      match Entries.get? es key with
      | none => some (Entries.set es key (.table .header []))
      | some (.table .implied fields) => some (Entries.set es key (.table .header fields))
      | some _ => none
    descend .implied put outer.reverse es

def openItem (keys : List Text) (es : Entries) : Option Entries :=
  match keys.reverse with
  | [] => none
  | key :: outer =>
    let put (es : Entries) : Option Entries :=
      match Entries.get? es key with
      | none => some (Entries.set es key (.tables [] []))
      | some (.tables done last) => some (Entries.set es key (.tables (done ++ [last]) []))
      | some _ => none
    descend .implied put outer.reverse es

/-- Puts a value under a dotted key in the table that the last header opened. -/
def assignIn (current keys : List Text) (v : Value) (es : Entries) : Option Entries :=
  descend .implied (assign keys v) current es

mutual

def Entry.value : Entry → Value
  | .closed v => v
  | .table _ fields => .table none (fieldValues fields)
  | .tables done last =>
    .array none (tableValues done ++ [.table none (fieldValues last)])

def fieldValues : List (Text × Entry) → List (Text × Value)
  | [] => []
  | (key, e) :: rest => (key, e.value) :: fieldValues rest

def tableValues : List (List (Text × Entry)) → List Value
  | [] => []
  | fields :: rest => .table none (fieldValues fields) :: tableValues rest

end

def isBlank (c : Char) : Bool :=
  c == ' ' || c == '\t'

def isControl (c : Char) : Bool :=
  (c.toNat < 0x20 && c != '\t') || c.toNat == 0x7f

def skipComment : Scan Unit := do
  if ← accept '#' then
    skipWhile fun c => !isControl c

/-- Reads the end of a line, if there is one, and gives it back. -/
def lineEnd? : Scan (Option Text) := do
  if ← accept '\n' then return some ['\n']
  else if ← looksAt ['\r', '\n'] then literal ['\r', '\n']; return some ['\r', '\n']
  else return none

def newline : Scan Bool :=
  return (← lineEnd?).isSome

def endLine : Scan Unit := do
  skipWhile isBlank
  skipComment
  if ← atEnd then return ()
  if ← newline then return () else failure

/-- Skips blanks, comments and line ends; `fuel` bounds the lines. -/
def skipLines : Nat → Scan Unit
  | 0 => return ()
  | fuel + 1 => do
    skipWhile isBlank
    skipComment
    if ← newline then skipLines fuel

def escape : Scan Char := do
  match ← any with
  | 'b' => return '\x08'
  | 'e' => return '\x1b'
  | 't' => return '\t'
  | 'n' => return '\n'
  | 'f' => return '\x0c'
  | 'r' => return '\r'
  | '"' => return '"'
  | '\\' => return '\\'
  | 'x' => hexChar 2
  | 'u' => hexChar 4
  | 'U' => hexChar 8
  | _ => failure

def basicRest : Nat → Scan Text
  | 0 => failure
  | fuel + 1 => do
    match ← any with
    | '"' => return []
    | '\\' => return (← escape) :: (← basicRest fuel)
    | c => if isControl c then failure else return c :: (← basicRest fuel)

def literalRest : Scan Text := do
  let t ← takeWhile fun c => c != '\'' && !isControl c
  char '\''
  return t

/-- Skips blanks and line ends after a backslash at the end of a line. -/
def skipContinuation : Nat → Scan Unit
  | 0 => return ()
  | fuel + 1 => do
    skipWhile isBlank
    if ← newline then skipContinuation fuel

/-- Reads a string of several lines behind its opening quotes. Line ends are kept as they are, and
up to two quotes may stand before the closing three. -/
def longRest (quote : Char) (escapes : Bool) : Nat → Scan Text
  | 0 => failure
  | fuel + 1 => do
    if ← looksAt [quote, quote, quote] then
      literal [quote, quote, quote]
      let more ← takeWhile (· == quote)
      if more.length > 2 then failure else return more
    else if let some gap ← lineEnd? then return gap ++ (← longRest quote escapes fuel)
    else
      let c ← any
      if c = '\\' && escapes then
        let blankLine ← option do
          skipWhile isBlank
          if ← newline then return () else failure
        match blankLine with
        | some _ =>
          skipContinuation fuel
          longRest quote escapes fuel
        | none => return (← escape) :: (← longRest quote escapes fuel)
      else if isControl c then failure
      else return c :: (← longRest quote escapes fuel)

def string : Scan Text := do
  let fuel := (← get).length + 1
  if ← looksAt ['"', '"', '"'] then
    literal ['"', '"', '"']
    let _ ← newline
    longRest '"' true fuel
  else if ← looksAt ['\'', '\'', '\''] then
    literal ['\'', '\'', '\'']
    let _ ← newline
    longRest '\'' false fuel
  else if ← accept '"' then basicRest fuel
  else do
    char '\''
    literalRest

def isBare (c : Char) : Bool :=
  c.isAlphanum || c == '_' || c == '-'

def simpleKey : Scan Text := do
  if ← accept '"' then basicRest ((← get).length + 1)
  else if ← accept '\'' then literalRest
  else takeWhile1 isBare

def maxParts : Nat := 80

/-- Reads a key with dots between its parts and at most so many of them. -/
def keyParts : Nat → Scan (List Text)
  | 0 => failure
  | room + 1 => do
    skipWhile isBlank
    let key ← simpleKey
    skipWhile isBlank
    if ← accept '.' then return key :: (← keyParts room)
    return [key]

def dottedKey : Scan (List Text) :=
  keyParts maxParts

/-- Digits with single underscores between them, without the underscores. -/
def digits? (base : Nat) (t : Text) : Option Text :=
  let parts := Text.splitOn '_' t
  if parts.all fun p => !p.isEmpty && p.all (isDigitOf base) then some parts.flatten else none

def decimal? (t : Text) : Option Int := do
  let (negative, unsigned) := Decimal.unsigned t
  let ds ← digits? 10 unsigned
  if ds.length > 1 && ds.head? == some '0' then none
  else Decimal.int64? (if negative then '-' :: ds else ds)

def based? (t : Text) : Option Int := do
  let (base, rest) ← match t with
    | '0' :: 'x' :: r => some (16, r)
    | '0' :: 'o' :: r => some (8, r)
    | '0' :: 'b' :: r => some (2, r)
    | _ => none
  let n := numberOf base (← digits? base rest)
  if n < Nat.pow 2 63 then some n else none

/-- A decimal fraction of finite size, or one of the words for the infinite and the undefined. -/
def float? (t : Text) : Option Float := do
  let (negative, rest) := Decimal.unsigned t
  let sign (x : Float) : Float := if negative then -x else x
  if rest = ['i', 'n', 'f'] then return sign (1 / 0)
  if rest = ['n', 'a', 'n'] then return sign (0 / 0)
  let isMark (c : Char) : Bool := c == 'e' || c == 'E'
  let mantissa := rest.takeWhile (!isMark ·)
  let exponent := (rest.dropWhile (!isMark ·)).drop 1
  let whole ← digits? 10 (mantissa.takeWhile (· != '.'))
  if whole.length > 1 && whole.head? == some '0' then none
  let fraction ← match mantissa.dropWhile (· != '.') with
    | [] => some []
    | _ :: r => digits? 10 r
  let e : Int ←
    if rest.any isMark then do
      let (down, r) := Decimal.unsigned exponent
      let n := Decimal.number (← digits? 10 r)
      some (if down then -(n : Int) else n)
    else some 0
  if !(rest.any isMark || mantissa.contains '.') then none
  let x := Decimal.nearestFloat negative (Decimal.number (whole ++ fraction)) (e - fraction.length)
  if x.isFinite then some x else none

def field? (size low high : Nat) (t : Text) : Option (Text × Text) :=
  let ds := t.take size
  if ds.length == size && ds.all Char.isDigit && low ≤ Decimal.number ds &&
      Decimal.number ds ≤ high then
    some (ds, t.drop size)
  else none

def daysIn (year month : Nat) : Nat :=
  if month == 2 then
    if year % 4 == 0 && (year % 100 != 0 || year % 400 == 0) then 29 else 28
  else if [4, 6, 9, 11].contains month then 30 else 31

def date? (t : Text) : Option (Text × Text) := do
  let (y, t) ← field? 4 0 9999 t
  let t ← Text.after? ['-'] t
  let (m, t) ← field? 2 1 12 t
  let t ← Text.after? ['-'] t
  let (d, t) ← field? 2 1 (daysIn (Decimal.number y) (Decimal.number m)) t
  return (y ++ ['-'] ++ m ++ ['-'] ++ d, t)

/-- Digits behind a point to nine places, without the zeros at their end but for the first. -/
def fraction (ds : Text) : Text :=
  match ((ds.take 9).reverse.dropWhile (· == '0')).reverse with
  | [] => ['0']
  | kept => kept

/-- Takes a time of day and gives its text. Seconds may be left out, and only seconds have
fractions. -/
def time? (t : Text) : Option (Text × Text) := do
  let (h, t) ← field? 2 0 23 t
  let t ← Text.after? [':'] t
  let (m, t) ← field? 2 0 59 t
  match t with
  | ':' :: t =>
    let (s, t) ← field? 2 0 60 t
    let clock := h ++ [':'] ++ m ++ [':'] ++ s
    match t with
    | '.' :: rest =>
      let ds := rest.takeWhile Char.isDigit
      if ds.isEmpty then none
      else return (clock ++ '.' :: fraction ds, rest.dropWhile Char.isDigit)
    | _ => return (clock, t)
  | _ => return (h ++ [':'] ++ m, t)

/-- Takes an offset from universal time and gives its text; no offset is a positive one. -/
def offset? (t : Text) : Option (Text × Text) := do
  match t with
  | 'Z' :: rest | 'z' :: rest => return (['Z'], rest)
  | sign :: rest =>
    if sign != '+' && sign != '-' then none
    let (h, rest) ← field? 2 0 23 rest
    let rest ← Text.after? [':'] rest
    let (m, rest) ← field? 2 0 59 rest
    let sign := if Decimal.number (h ++ m) = 0 then '+' else sign
    return (sign :: h ++ [':'] ++ m, rest)
  | [] => none

/-- A date, a time, or both with or without an offset, as text. -/
def moment? (t : Text) : Option Text := do
  match date? t with
  | some (d, []) => return d
  | some (d, mark :: rest) =>
    if mark != 'T' && mark != 't' && mark != ' ' then none
    let (clock, rest) ← time? rest
    if rest.isEmpty then return d ++ ['T'] ++ clock
    let (o, rest) ← offset? rest
    if rest.isEmpty then return d ++ ['T'] ++ clock ++ o else none
  | none =>
    let (clock, rest) ← time? t
    if rest.isEmpty then return clock else none

def isWord (c : Char) : Bool :=
  c.isAlphanum || ['_', '-', '+', '.', ':'].contains c

/-- Reads such a value. A single space may part a date from a time. -/
def word : Scan Scalar := do
  let first ← takeWhile1 isWord
  let t ←
    if (date? first).any (·.2.isEmpty) then do
      let later ← option do
        char ' '
        let next ← takeWhile1 isWord
        if (time? next).isSome then return next else failure
      pure (match later with
        | some next => first ++ ' ' :: next
        | none => first)
    else pure first
  if t = "true".toList then return .bool true
  if t = "false".toList then return .bool false
  match decimal? t, based? t, float? t, moment? t with
  | some n, _, _, _ => return .signed n
  | none, some n, _, _ => return .signed n
  | none, none, some x, _ => return .float x
  | none, none, none, some m => return .text m
  | none, none, none, none => failure

def maxDepth : Nat := 80

mutual

/-- Reads a value in which arrays and tables may stand so deep in one another; `fuel` bounds the
work. -/
def value : Nat → Nat → Scan Value
  | 0, _ => failure
  | fuel + 1, room => do
    match ← peek?, room with
    | some '"', _ | some '\'', _ => return .text (← string)
    | some '[', 0 | some '{', 0 => failure
    | some '[', room + 1 =>
      let _ ← any
      return .array none (← items fuel room)
    | some '{', room + 1 =>
      let _ ← any
      return (Entry.table .header (← members fuel room [])).value
    | _, _ => return .scalar none (← word)

def items : Nat → Nat → Scan (List Value)
  | 0, _ => failure
  | fuel + 1, room => do
    skipLines fuel
    if ← accept ']' then return []
    let v ← value fuel room
    skipLines fuel
    if ← accept ',' then return v :: (← items fuel room)
    char ']'
    return [v]

def members : Nat → Nat → Entries → Scan Entries
  | 0, _, _ => failure
  | fuel + 1, room, es => do
    skipLines fuel
    if ← accept '}' then return es
    let keys ← dottedKey
    skipLines fuel
    char '='
    skipLines fuel
    let v ← value fuel room
    skipLines fuel
    match assign keys v es with
    | none => failure
    | some es =>
      if ← accept ',' then members fuel room es
      else
        char '}'
        return es

end

def lines : Nat → List Text → Entries → Scan Entries
  | 0, _, _ => failure
  | fuel + 1, current, es => do
    skipLines fuel
    if ← atEnd then return es
    if ← looksAt ['[', '['] then
      literal ['[', '[']
      let keys ← dottedKey
      literal [']', ']']
      endLine
      match openItem keys es with
      | some es => lines fuel keys es
      | none => failure
    else if ← accept '[' then
      let keys ← dottedKey
      char ']'
      endLine
      match openTable keys es with
      | some es => lines fuel keys es
      | none => failure
    else
      let keys ← dottedKey
      char '='
      skipWhile isBlank
      let v ← value fuel maxDepth
      endLine
      match assignIn current keys v es with
      | some es => lines fuel current es
      | none => failure

/-- Reads a TOML text, which may begin with a byte order mark. -/
def read? (t : Text) : Option Value :=
  let file : Scan Entries := do
    let _ ← accept '\ufeff'
    lines (2 * t.length + 2) [] []
  (readAll? file t).map fun es => .table none (fieldValues es)

end PathGlob.Config.Toml
