import PathGlob.Config.Scan
import PathGlob.Config.Value

namespace PathGlob.Config.Json

open Scan

def isBlank (c : Char) : Bool :=
  c == ' ' || c == '\n' || c == '\t' || c == '\r'

/-- Adds digits to a number as long as it fits 64 bits. The second part counts the digits that are
left over from the first one that does not fit. -/
def accumulate (n : Nat) : Text → Nat × Nat
  | [] => (n, 0)
  | c :: rest =>
    let n' := 10 * n + (c.toNat - '0'.toNat)
    if n' < Nat.pow 2 64 then accumulate n' rest else (n, rest.length + 1)

def powerOfTen (e : Nat) : Float :=
  OfScientific.ofScientific 1 false e

/-- Multiplies or divides by a power of ten; larger divisors are taken in parts of `10 ^ 308`, and
numbers that become too large are refused. -/
def scale? : Nat → Float → Int → Option Float
  | 0, f, _ => some f
  | _ + 1, f, .ofNat e =>
    if f == 0 then some f
    else if e ≤ 308 then
      let r := f * powerOfTen e
      if r.isInf then none else some r
    else none
  | fuel + 1, f, .negSucc e =>
    if e + 1 ≤ 308 then some (f / powerOfTen (e + 1))
    else if f == 0 then some f
    else scale? fuel (f / powerOfTen 308) (.negSucc (e - 308))

def float? (negative : Bool) (significand : Nat) (exponent : Int) : Option Scalar :=
  (scale? 4 significand.toUInt64.toFloat exponent).map fun f => .float (if negative then -f else f)

def number? (negative : Bool) (whole : Text) (fraction : Option Text)
    (exponent : Option (Bool × Text)) : Option Scalar :=
  let (sig, dropped) := accumulate 0 whole
  match fraction, exponent with
  | none, none =>
    if dropped > 0 then float? negative sig dropped
    else if !negative then
      some (if sig < Nat.pow 2 63 then .signed sig else .unsigned sig)
    else if 0 < sig && sig ≤ Nat.pow 2 63 then some (.signed (-sig))
    else float? true sig 0
  | _, _ =>
    let digits := fraction.getD []
    let (sig, rest) := accumulate sig digits
    let places : Int := dropped - (digits.length - rest : Nat)
    match exponent with
    | none => float? negative sig places
    | some (down, es) =>
      let e := numberOf 10 es
      if e ≥ Nat.pow 2 31 then
        if sig ≠ 0 && !down then none else some (.float (if negative then -0.0 else 0.0))
      else float? negative sig (if down then places - e else places + e)

def number : Scan Scalar := do
  let negative ← accept '-'
  let whole ← takeWhile1 Char.isDigit
  if whole.length > 1 && whole.head? == some '0' then failure
  let fraction ← if ← accept '.' then some <$> takeWhile1 Char.isDigit else pure none
  let exponent ←
    if (← peek?).any fun c => c == 'e' || c == 'E' then do
      let _ ← any
      let down ← accept '-'
      if !down then let _ ← accept '+'
      let es ← takeWhile1 Char.isDigit
      pure (some (down, es))
    else pure none
  match number? negative whole fraction exponent with
  | some s => return s
  | none => failure

/-- Reads what follows a backslash. Two units above the basic plane make one character. -/
def escape : Scan Char := do
  match ← any with
  | '"' => return '"'
  | '\\' => return '\\'
  | '/' => return '/'
  | 'b' => return '\x08'
  | 'f' => return '\x0c'
  | 'n' => return '\n'
  | 'r' => return '\r'
  | 't' => return '\t'
  | 'u' =>
    let hi := numberOf 16 (← hexDigits 4)
    let code ←
      if 0xd800 ≤ hi && hi < 0xdc00 then do
        literal ['\\', 'u']
        let lo := numberOf 16 (← hexDigits 4)
        if 0xdc00 ≤ lo && lo < 0xe000 then
          pure (0x10000 + (hi - 0xd800) * 0x400 + (lo - 0xdc00))
        else failure
      else pure hi
    match charOf? code with
    | some c => return c
    | none => failure
  | _ => failure

def stringRest : Nat → Scan Text
  | 0 => failure
  | fuel + 1 => do
    match ← any with
    | '"' => return []
    | '\\' => return (← escape) :: (← stringRest fuel)
    | c => if c.toNat < 0x20 then failure else return c :: (← stringRest fuel)

mutual

/-- Reads a value; `fuel` bounds the work and `depth` the nesting. -/
def value : Nat → Nat → Scan Value
  | 0, _ => failure
  | fuel + 1, depth => do
    skipWhile isBlank
    match ← peek? with
    | some '{' =>
      let _ ← any
      if depth ≤ 1 then failure
      skipWhile isBlank
      if ← accept '}' then return .table none []
      return .table none (← members fuel (depth - 1) [])
    | some '[' =>
      let _ ← any
      if depth ≤ 1 then failure
      skipWhile isBlank
      if ← accept ']' then return .array none []
      return .array none (← items fuel (depth - 1))
    | some '"' =>
      let _ ← any
      return .text (← stringRest ((← get).length + 1))
    | some 'n' => literal ['n', 'u', 'l', 'l']; return .null
    | some 't' => literal ['t', 'r', 'u', 'e']; return .scalar none (.bool true)
    | some 'f' => literal ['f', 'a', 'l', 's', 'e']; return .scalar none (.bool false)
    | _ => return .scalar none (← number)

def members : Nat → Nat → Fields → Scan Fields
  | 0, _, _ => failure
  | fuel + 1, depth, fields => do
    skipWhile isBlank
    char '"'
    let key ← stringRest ((← get).length + 1)
    skipWhile isBlank
    char ':'
    let v ← value fuel depth
    skipWhile isBlank
    let fields := fields.set key v
    if ← accept '}' then return fields
    char ','
    members fuel depth fields

def items : Nat → Nat → Scan (List Value)
  | 0, _ => failure
  | fuel + 1, depth => do
    let v ← value fuel depth
    skipWhile isBlank
    if ← accept ']' then return [v]
    char ','
    return v :: (← items fuel depth)

end

/-- Reads a JSON text, nested less than 128 deep. Of equal keys the last one counts, and whole
numbers stay exact while they fit 64 bits. -/
def read? (t : Text) : Option Value :=
  readAll? (value (2 * t.length + 2) 128 <* skipWhile isBlank) t

end PathGlob.Config.Json
