import PathGlob.Config.Scan
import PathGlob.Config.Value
import PathGlob.Decimal.Reading
import PathGlob.Text.Diacritic
import PathGlob.Text.Identifier

namespace PathGlob.Config.Json5

open Scan

def isLineEnd (c : Char) : Bool :=
  c == '\n' || c == '\r' || c == '\u2028' || c == '\u2029'

def isBlank (c : Char) : Bool :=
  isLineEnd c || [' ', '\t', '\x0b', '\x0c', '\u00a0', '\ufeff', '\u1680', '\u202f', '\u205f',
    '\u3000'].contains c || (0x2000 ≤ c.toNat && c.toNat ≤ 0x200a)

/-- What follows the end of a comment of several lines. -/
def afterComment? : Text → Option Text
  | [] => none
  | '*' :: '/' :: rest => some rest
  | _ :: rest => afterComment? rest

def skipBlank : Nat → Scan Unit
  | 0 => return ()
  | fuel + 1 => do
    skipWhile isBlank
    match ← get with
    | '/' :: '/' :: rest =>
      set (rest.dropWhile (!isLineEnd ·))
      skipBlank fuel
    | '/' :: '*' :: rest =>
      match afterComment? rest with
      | some rest =>
        set rest
        skipBlank fuel
      | none => failure
    | _ => return ()

def unicodeEscape : Scan Char := do
  let hi := numberOf 16 (← hexDigits 4)
  let code ←
    if 0xd800 ≤ hi && hi < 0xdc00 then do
      literal ['\\', 'u']
      let lo := numberOf 16 (← hexDigits 4)
      if 0xdc00 ≤ lo && lo < 0xe000 then pure (0x10000 + (hi - 0xd800) * 0x400 + (lo - 0xdc00))
      else failure
    else pure hi
  match charOf? code with
  | some c => return c
  | none => failure

/-- Reads what follows a backslash; nothing stands for the end of a line. -/
def escape : Scan Text := do
  match ← any with
  | 'b' => return ['\x08']
  | 'f' => return ['\x0c']
  | 'n' => return ['\n']
  | 'r' => return ['\r']
  | 't' => return ['\t']
  | 'v' => return ['\x0b']
  | '0' => return ['\x00']
  | 'x' => return [← hexChar 2]
  | 'u' => return [← unicodeEscape]
  | '\r' =>
    let _ ← accept '\n'
    return []
  | c =>
    if isLineEnd c then return []
    if Char.isDigit c then failure
    return [c]

def stringRest (quote : Char) : Nat → Scan Text
  | 0 => failure
  | fuel + 1 => do
    let c ← any
    if c = quote then return []
    if c = '\\' then return (← escape) ++ (← stringRest quote fuel)
    if isLineEnd c then failure
    return c :: (← stringRest quote fuel)

def beginsName (c : Char) : Bool :=
  Text.isLetter c || c == '$' || c == '_'

def continuesName (c : Char) : Bool :=
  beginsName c || Text.isNonspacingMark c || Text.isDiacritic c || Text.isDecimalDigit c ||
    Text.isConnector c || c == '\u200c' || c == '\u200d'

/-- Reads one character of a name, which may be any character if it is given by its code. -/
def nameChar (p : Char → Bool) : Scan Char := do
  if ← looksAt ['\\', 'u'] then
    literal ['\\', 'u']
    unicodeEscape
  else satisfy p

def nameRest : Nat → Scan Text
  | 0 => return []
  | fuel + 1 => do
    match ← option (nameChar continuesName) with
    | some c => return c :: (← nameRest fuel)
    | none => return []

def key : Scan Text := do
  let fuel := (← get).length + 1
  if ← accept '"' then stringRest '"' fuel
  else if ← accept '\'' then stringRest '\'' fuel
  else return (← nameChar beginsName) :: (← nameRest fuel)

def hexNumber : Scan Scalar := do
  let n := numberOf 16 (← takeWhile1 (isDigitOf 16))
  if n < Nat.pow 2 32 then return .signed n else failure

def exponent : Scan (Option Int) := do
  match ← peek? with
  | some 'e' | some 'E' =>
    let _ ← any
    let down ← accept '-'
    if !down then let _ ← accept '+'
    let n := Decimal.number (← takeWhile1 Char.isDigit)
    return some (if down then -n else n)
  | _ => return none

/-- Reads a decimal number behind its sign. Without point and exponent it is a whole number of 64
bits, else it has to be of finite size. -/
def decimalNumber (negative : Bool) : Scan Scalar := do
  let whole ← takeWhile Char.isDigit
  if whole.length > 1 && whole.head? == some '0' then failure
  let pointed ← accept '.'
  let fraction ← if pointed then takeWhile Char.isDigit else pure []
  if whole.isEmpty && fraction.isEmpty then failure
  match pointed, ← exponent with
  | false, none =>
    match Decimal.int64? (if negative then '-' :: whole else whole) with
    | some n => return .signed n
    | none => failure
  | _, e =>
    let x := Decimal.nearestFloat negative (Decimal.number (whole ++ fraction))
      (e.getD 0 - fraction.length)
    if x.isFinite then return .float x else failure

/-- Reads a number. A plus sign stands only before decimal digits and points. -/
def number : Scan Scalar := do
  let plus ← accept '+'
  let minus ← if plus then pure false else accept '-'
  if ← looksAt "Infinity".toList then
    if plus then failure
    literal "Infinity".toList
    return .float (if minus then -1 / 0 else 1 / 0)
  if ← looksAt "NaN".toList then
    if plus then failure
    literal "NaN".toList
    return .float (0 / 0)
  let hex ← option (char '0' *> satisfy fun c => c == 'x' || c == 'X')
  if hex.isSome then
    if plus || minus then failure
    hexNumber
  else decimalNumber minus

mutual

def value : Nat → Scan Value
  | 0 => failure
  | fuel + 1 => do
    skipBlank fuel
    match ← peek? with
    | some '{' =>
      let _ ← any
      return .table none (← members fuel [])
    | some '[' =>
      let _ ← any
      return .array none (← items fuel)
    | some '"' =>
      let _ ← any
      return .text (← stringRest '"' ((← get).length + 1))
    | some '\'' =>
      let _ ← any
      return .text (← stringRest '\'' ((← get).length + 1))
    | some 'n' => literal "null".toList; return .null
    | some 't' => literal "true".toList; return .scalar none (.bool true)
    | some 'f' => literal "false".toList; return .scalar none (.bool false)
    | _ => return .scalar none (← number)

def members : Nat → Fields → Scan Fields
  | 0, _ => failure
  | fuel + 1, fields => do
    skipBlank fuel
    if ← accept '}' then return fields
    let name ← key
    skipBlank fuel
    char ':'
    let v ← value fuel
    let fields := fields.set name v
    skipBlank fuel
    if ← accept ',' then members fuel fields
    else
      char '}'
      return fields

def items : Nat → Scan (List Value)
  | 0 => failure
  | fuel + 1 => do
    skipBlank fuel
    if ← accept ']' then return []
    let v ← value fuel
    skipBlank fuel
    if ← accept ',' then return v :: (← items fuel)
    char ']'
    return [v]

end

def read? (t : Text) : Option Value :=
  let fuel := 2 * t.length + 2
  readAll? (value fuel <* skipBlank fuel) t

end PathGlob.Config.Json5
