import PathGlob.Config.Scan
import PathGlob.Config.Value
import PathGlob.Decimal.Reading
import PathGlob.Text.Blank
import PathGlob.Text.Bytes
import PathGlob.Text.Identifier

/-!
# RON files

Records with named fields in parentheses, maps in braces, sequences in brackets or parentheses,
optional values, texts, numbers of stated sizes, ranges of numbers and truth values. The name in
front of a record says nothing. Bytes may stand for the key of a map, but for no value.
-/

namespace PathGlob.Config.Ron

open Scan

/-- What follows the end of a comment, in which others may lie. -/
def afterComment? : Nat → Text → Option Text
  | _, [] => none
  | depth, '/' :: '*' :: rest => afterComment? (depth + 1) rest
  | depth, '*' :: '/' :: rest => if depth ≤ 1 then some rest else afterComment? (depth - 1) rest
  | depth, _ :: rest => afterComment? depth rest

def skipBlank : Nat → Scan Unit
  | 0 => return ()
  | fuel + 1 => do
    skipWhile Text.isPatternWhite
    match ← get with
    | '/' :: '/' :: rest =>
      set (rest.dropWhile (· != '\n'))
      skipBlank fuel
    | '/' :: '*' :: rest =>
      match afterComment? 1 rest with
      | some rest =>
        set rest
        skipBlank fuel
      | none => failure
    | _ => return ()

def textOfBytes? (bytes : List UInt8) : Option Text :=
  let t := Text.ofBytes bytes
  if Text.bytes t = bytes then some t else none

def charOfBytes? (bytes : List UInt8) : Option Char :=
  match textOfBytes? bytes with
  | some [c] => some c
  | _ => none

def hexByte : Scan UInt8 := do
  return (numberOf 16 (← hexDigits 2)).toUInt8

/-- Reads the bytes of a character, of which some are already known and so many more may follow. -/
def hexBytes : Nat → List UInt8 → Scan Char
  | 0, bytes => StateT.lift (charOfBytes? bytes)
  | more + 1, bytes => do
    match charOfBytes? bytes with
    | some c => return c
    | none =>
      literal ['\\', 'x']
      hexBytes more (bytes ++ [← hexByte])

def bracedChar : Scan Char := do
  char '{'
  let digits ← takeWhile1 (isDigitOf 16)
  char '}'
  match charOf? (numberOf 16 digits) with
  | some c => if digits.length ≤ 6 then return c else failure
  | none => failure

def letterEscape? : Char → Option Char
  | '\'' => some '\''
  | '"' => some '"'
  | '\\' => some '\\'
  | 'n' => some '\n'
  | 'r' => some '\r'
  | 't' => some '\t'
  | '0' => some '\x00'
  | _ => none

/-- Reads what follows a backslash. A character beyond ASCII may be given by several bytes, if there
is room for them. -/
def escape (moreBytes : Nat) : Scan Char := do
  match ← any with
  | 'x' => hexBytes moreBytes [← hexByte]
  | 'u' => bracedChar
  | c => StateT.lift (letterEscape? c)

/-- Reads the end of a line behind a backslash and the blanks that follow, and tells whether there
was one. They stand for nothing. -/
def lineEscape : Scan Bool := do
  match ← get with
  | '\n' :: rest | '\r' :: '\n' :: rest =>
    set (rest.dropWhile Text.isPatternWhite)
    return true
  | _ => return false

def stringRest : Nat → Scan Text
  | 0 => failure
  | fuel + 1 => do
    match ← any with
    | '"' => return []
    | '\\' =>
      if ← lineEscape then stringRest fuel
      else return (← escape 3) :: (← stringRest fuel)
    | c => return c :: (← stringRest fuel)

def charRest : Scan Char := do
  let c ← any
  let c ← if c = '\\' then escape 0 else pure c
  char '\''
  return c

def escapeBytes : Scan (List UInt8) := do
  match ← any with
  | 'x' => return [← hexByte]
  | 'u' => return Text.bytes [← bracedChar]
  | c => return Text.bytes [← StateT.lift (letterEscape? c)]

def bytesRest : Nat → Scan (List UInt8)
  | 0 => failure
  | fuel + 1 => do
    match ← any with
    | '"' => return []
    | '\\' =>
      if ← lineEscape then bytesRest fuel
      else return (← escapeBytes) ++ (← bytesRest fuel)
    | c => return Text.bytes [c] ++ (← bytesRest fuel)

def byteRest : Scan UInt8 := do
  let c ← any
  let byte ←
    if c = '\\' then do
      match ← any with
      | 'x' => hexByte
      | c => pure (← StateT.lift (letterEscape? c)).toNat.toUInt8
    else if c.toNat < 0x80 then pure c.toNat.toUInt8
    else failure
  char '\''
  return byte

def rawRest (close : Text) : Nat → Scan Text
  | 0 => failure
  | fuel + 1 => do
    if ← looksAt close then
      literal close
      return []
    return (← any) :: (← rawRest close fuel)

/-- Reads a string without escapes, between quotes and equal marks outside of them. -/
def rawString : Scan Text := do
  let marks ← takeWhile (· == '#')
  char '"'
  rawRest ('"' :: marks) ((← get).length + 1)

/-- Whether a text, behind the letter that announces it, is a string without escapes. -/
def isRawString (t : Text) : Bool :=
  (t.dropWhile (· == '#')).head? == some '"'

def beginsName (c : Char) : Bool :=
  c == '_' || Text.beginsIdentifier c

def isRawName (c : Char) : Bool :=
  c == '.' || c == '+' || c == '-' || Text.continuesIdentifier c

def looksQuoted : Scan Bool := do
  match ← get with
  | 'b' :: '\'' :: _ | 'b' :: '"' :: _ => return true
  | 'b' :: 'r' :: rest => return isRawString rest && (rest.takeWhile (· == '#')).length ≤ 2
  | 'r' :: rest => return isRawString rest
  | _ => return false

def name : Scan Text := do
  if ← looksQuoted then failure
  if ← looksAt ['r', '#'] then
    literal ['r', '#']
    takeWhile1 isRawName
  else return (← satisfy beginsName) :: (← takeWhile Text.continuesIdentifier)

def word (t : Text) : Scan Unit := do
  literal t
  if (← peek?).any Text.continuesIdentifier then failure

def wordOf {α : Type} : List (Text × α) → Scan α
  | [] => failure
  | (t, x) :: rest => (do word t; return x) <|> wordOf rest

def floatWords : List (Text × Float) :=
  [("inf", 1 / 0), ("NaN", 0 / 0)].flatMap fun (t, x) =>
    ["", "f32", "f64"].map fun size => ((t ++ size).toList, x)

def sizes : List (Text × Int × Int) :=
  [8, 16, 32, 64].flatMap fun bits =>
    [(('i' :: Decimal.text bits), -Nat.pow 2 (bits - 1), Nat.pow 2 (bits - 1) - 1),
      (('u' :: Decimal.text bits), 0, Nat.pow 2 bits - 1)]

def sign : Scan Bool := do
  if ← accept '-' then return true
  let _ ← accept '+'
  return false

def base : Scan Nat :=
  (do literal ['0', 'b']; return 2) <|> (do literal ['0', 'o']; return 8) <|>
    (do literal ['0', 'x']; return 16) <|> return 10

def isWholeChar (c : Char) : Bool :=
  isDigitOf 16 c || c == '_'

def isFractionChar (c : Char) : Bool :=
  Char.isDigit c || ['e', 'E', '.', '+', '-', '_'].contains c

/-- Reads a whole number. Without a stated size it has 64 bits, with a sign only below zero. All but
those that need 64 bits without a sign become numbers with a sign. -/
def whole : Scan Scalar := do
  let negative ← sign
  let base ← base
  let digits ← takeWhile1 isWholeChar
  if digits.head? == some '_' then failure
  let digits := digits.filter (· != '_')
  if !digits.all (isDigitOf base) then failure
  let n : Int := if negative then -numberOf base digits else numberOf base digits
  let unstated : Int × Int := if negative then (-Nat.pow 2 63, 0) else (0, Nat.pow 2 64 - 1)
  let size ← option (wordOf sizes)
  let (least, greatest) := size.getD unstated
  if n < least || greatest < n then failure
  let long := if size.isSome then greatest = Nat.pow 2 64 - 1 else n ≥ Nat.pow 2 32
  return if long then .unsigned n.toNat else .signed n

/-- The characters of a fraction at the front of a text, up to two points in a row. -/
def fractionChars : Text → Text
  | [] => []
  | ['.'] => ['.']
  | '.' :: '.' :: _ => []
  | c :: rest => if isFractionChar c then c :: fractionChars rest else []

/-- A text without underscores, if each of them follows a digit or the mark of an exponent, with
nothing but signs and underscores between. -/
def withoutUnderscores? : Bool → Text → Option Text
  | _, [] => some []
  | allowed, '_' :: rest => if allowed then withoutUnderscores? true rest else none
  | allowed, c :: rest =>
    let allowed := if c == '.' then false else allowed || Char.isDigit c || c == 'e' || c == 'E'
    (withoutUnderscores? allowed rest).map (c :: ·)

/-- Reads a fraction, whose size may be stated, or a word that stands for one. -/
def fraction : Scan Scalar := do
  let special ← option do
    let negative ← sign
    let x ← wordOf floatWords
    return if negative then -x else x
  match special with
  | some x => return .float x
  | none =>
    let chars := fractionChars (← get)
    set ((← get).drop chars.length)
    let digits ← StateT.lift (withoutUnderscores? false chars)
    let single ← option (wordOf [("f32".toList, true), ("f64".toList, false)])
    match if single = some true then Decimal.single? digits else Decimal.float? digits with
    | some x => return .float x
    | none => failure

/-- Whether what is left begins like a fraction: its characters go on where those of a whole number
end. -/
def looksFractional : Scan Bool := do
  let t ← get
  let unsigned := match t with
    | '+' :: rest | '-' :: rest => rest
    | _ => t
  return (unsigned.takeWhile isWholeChar).length < (fractionChars unsigned).length

/-- Whether what is left begins with a number: with its first character, with a word for a float or
with a byte that is written as a character. -/
def looksNumeric : Scan Bool := do
  let here ← get
  let isWord := ((wordOf floatWords).run here).isSome
  match here with
  | 'b' :: '\'' :: _ => return true
  | c :: _ => return isWord || Char.isDigit c || c == '+' || c == '-' || c == '.'
  | [] => return false

/-- Reads a number. Whole numbers that are too large are read as fractions. -/
def number : Scan Scalar := do
  match ← get with
  | 'b' :: '\'' :: rest =>
    set rest
    return .signed (← byteRest).toNat
  | _ =>
    if ← looksFractional then fraction
    else whole <|> fraction

/-- Reads the mark of a range and its end, if it has one, and gives the ends as a table. A range
without ends is nothing. -/
def rangeRest (start : Fields) : Scan Value := do
  literal ['.', '.']
  let closed ← accept '='
  let ended ← looksNumeric
  if closed || ended then
    return .table none (start ++ [("end".toList, .scalar none (← number))])
  else if start.isEmpty then return .null
  else return .table none start

def numbers : Scan Value := do
  if ← looksAt ['.', '.'] then rangeRest []
  else
    let n : Value := .scalar none (← number)
    if ← looksAt ['.', '.'] then rangeRest [("start".toList, n)] else return n

def looksNamed (fuel : Nat) : Scan Bool := do
  let here ← get
  let named ← option do
    let _ ← name
    skipBlank fuel
    char ':'
  set here
  return named.isSome

def words : List (Text × Value) :=
  [("true".toList, .scalar none (.bool true)), ("false".toList, .scalar none (.bool false)),
    ("None".toList, .null)]

/-- How the key of a map is written. -/
inductive KeyForm where
  | char
  | text
  | bytes
  deriving DecidableEq

def key : Scan (KeyForm × Text) := do
  match ← get with
  | '"' :: rest =>
    set rest
    return (.text, ← stringRest (rest.length + 1))
  | '\'' :: rest =>
    set rest
    return (.char, [← charRest])
  | 'b' :: '"' :: rest =>
    set rest
    return (.bytes, ← StateT.lift (textOfBytes? (← bytesRest (rest.length + 1))))
  | 'b' :: 'r' :: rest =>
    if !(← looksQuoted) then failure
    set rest
    return (.bytes, ← rawString)
  | 'r' :: rest =>
    if !isRawString rest then failure
    set rest
    return (.text, ← rawString)
  | _ => failure

/-- The fields that the members of a map make up. Of equal keys the last one counts, and one that is
written as bytes before all texts, and a text before a character. -/
def fieldsOf (members : List (KeyForm × Text × Value)) : Fields :=
  let ofForm (form : KeyForm) : List (KeyForm × Text × Value) :=
    members.filter (·.1 = form)
  (ofForm .char ++ ofForm .text ++ ofForm .bytes).foldl (fun fs (_, k, v) => fs.set k v) []

/-- Which extensions are turned on that say how the values of options are written: an option without
its mark behind the name, and a record or a sequence in it without parentheses of its own. -/
structure Extensions where
  bareOptions : Bool
  bareRecords : Bool

/-- How deep values may stand in one another; a container and each of its parts count one. -/
def maxDepth : Nat := 128

mutual

/-- Reads a value in which others may stand so deep; `fuel` bounds the work. -/
def value (exts : Extensions) : Nat → Nat → Scan Value
  | 0, _ => failure
  | fuel + 1, room => do
    skipBlank fuel
    if let some v ← option (wordOf words) then return v
    if (← option (word "Some".toList)).isSome then
      skipBlank fuel
      if ← accept '(' then return ← optional exts fuel room
      match exts.bareOptions, room with
      | true, room + 1 => return ← value exts fuel room
      | _, _ => failure
    if ← looksAt ['(', ')'] then
      literal ['(', ')']
      return .null
    match ← get with
    | '(' :: rest =>
      set rest
      record exts fuel room
    | '[' :: rest =>
      set rest
      match room with
      | 0 => failure
      | room + 1 => return .array none (← items exts ']' fuel room)
    | '{' :: rest =>
      set rest
      match room with
      | 0 => failure
      | room + 1 => return .table none (fieldsOf (← members exts fuel room))
    | '"' :: rest =>
      set rest
      return .text (← stringRest (rest.length + 1))
    | '\'' :: rest =>
      set rest
      return .text [← charRest]
    | t =>
      if ← looksNumeric then numbers
      else if t.head? = some 'r' && isRawString (t.drop 1) then
        set (t.drop 1)
        return .text (← rawString)
      else
        let _ ← name
        skipBlank fuel
        if ← accept '(' then record exts fuel room else return .null

def optional (exts : Extensions) : Nat → Nat → Scan Value
  | 0, _ => failure
  | _, 0 => failure
  | fuel + 1, room + 1 => do
    skipBlank fuel
    if exts.bareRecords then
      if ← accept ')' then return .null
      match ← looksNamed fuel, room with
      | true, 0 => failure
      | true, room + 1 => return .table none (← fields exts fuel room [])
      | false, _ => pure ()
    let here ← get
    let v ← value exts fuel room
    skipBlank fuel
    let more ← accept ','
    skipBlank fuel
    if ← accept ')' then return v
    match exts.bareRecords && more, room with
    | true, room + 1 =>
      set here
      return .array none (← items exts ')' fuel room)
    | _, _ => failure

def record (exts : Extensions) : Nat → Nat → Scan Value
  | 0, _ => failure
  | _, 0 => failure
  | fuel + 1, room + 1 => do
    skipBlank fuel
    if ← looksNamed fuel then return .table none (← fields exts fuel room [])
    else return .array none (← items exts ')' fuel room)

def fields (exts : Extensions) : Nat → Nat → Fields → Scan Fields
  | 0, _, _ => failure
  | fuel + 1, room, fs => do
    skipBlank fuel
    if ← accept ')' then return fs
    match room with
    | 0 => failure
    | room + 1 =>
      let key ← name
      skipBlank fuel
      char ':'
      let fs := fs.set key (← value exts fuel room)
      skipBlank fuel
      if ← accept ',' then fields exts fuel (room + 1) fs
      else
        char ')'
        return fs

def members (exts : Extensions) : Nat → Nat → Scan (List (KeyForm × Text × Value))
  | 0, _ => failure
  | fuel + 1, room => do
    skipBlank fuel
    if ← accept '}' then return []
    match room with
    | 0 => failure
    | room + 1 =>
      let (form, key) ← key
      skipBlank fuel
      char ':'
      let v ← value exts fuel room
      skipBlank fuel
      if ← accept ',' then return (form, key, v) :: (← members exts fuel (room + 1))
      char '}'
      return [(form, key, v)]

def items (exts : Extensions) (close : Char) : Nat → Nat → Scan (List Value)
  | 0, _ => failure
  | fuel + 1, room => do
    skipBlank fuel
    if ← accept close then return []
    match room with
    | 0 => failure
    | room + 1 =>
      let v ← value exts fuel room
      skipBlank fuel
      if ← accept ',' then return v :: (← items exts close fuel (room + 1))
      char close
      return [v]

end

def extensions : List Text :=
  ["unwrap_newtypes", "implicit_some", "unwrap_variant_newtypes", "explicit_struct_names"].map
    String.toList

def tokens (fuel : Nat) : List String → Scan Unit
  | [] => return ()
  | t :: rest => do
    literal t.toList
    skipBlank fuel
    tokens fuel rest

def extensionNames : Nat → Scan (List Text)
  | 0 => failure
  | fuel + 1 => do
    let extension ← name
    if !extensions.contains extension then failure
    skipBlank fuel
    if ← accept ',' then
      skipBlank fuel
      if (← peek?).any Text.continuesIdentifier then
        return extension :: (← extensionNames fuel)
    return [extension]

def note (fuel : Nat) : Scan Unit := do
  word "type".toList <|> word "schema".toList
  skipBlank fuel
  tokens fuel ["="]
  match ← get with
  | '"' :: rest =>
    set rest
    let _ ← stringRest (rest.length + 1)
  | 'r' :: rest =>
    set rest
    let _ ← rawString
  | _ => failure

def attributes : Nat → Scan (List Text)
  | 0 => return []
  | fuel + 1 => do
    skipBlank fuel
    if !(← looksAt ['#']) then return []
    tokens fuel ["#", "!", "["]
    if ← looksAt "enable".toList then
      tokens fuel ["enable", "("]
      let names ← extensionNames fuel
      tokens fuel [")", "]"]
      return names ++ (← attributes fuel)
    else
      note fuel
      skipBlank fuel
      tokens fuel ["]"]
      attributes fuel

def file (fuel : Nat) : Scan Value := do
  let names ← attributes fuel
  let exts : Extensions :=
    { bareOptions := names.contains "implicit_some".toList
      bareRecords := names.contains "unwrap_variant_newtypes".toList }
  let v ← value exts fuel maxDepth
  skipBlank fuel
  return v

def read? (t : Text) : Option Value :=
  readAll? (file (2 * t.length + 2)) t

end PathGlob.Config.Ron
