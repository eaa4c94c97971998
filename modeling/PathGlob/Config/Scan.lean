import PathGlob.Text

namespace PathGlob.Config

/-- Reads the front of a text and leaves the rest, or fails. Alternatives start again where the
failed one began. -/
abbrev Scan := StateT Text Option

namespace Scan

def peek? : Scan (Option Char) :=
  return (← get).head?

/-- Whether what is left begins with a text, which stays unread. -/
def looksAt (lead : Text) : Scan Bool :=
  return lead.isPrefixOf (← get)

def any : Scan Char := do
  match ← get with
  | c :: rest => set rest; return c
  | [] => failure

def satisfy (p : Char → Bool) : Scan Char := do
  let c ← any
  if p c then return c else failure

def char (c : Char) : Scan Unit := do
  let _ ← satisfy (· == c)

def literal (t : Text) : Scan Unit := do
  match Text.after? t (← get) with
  | some rest => set rest
  | none => failure

/-- Reads a fixed character if it is the next one, and tells whether it was. -/
def accept (c : Char) : Scan Bool := do
  match ← get with
  | x :: rest => if x = c then set rest; return true else return false
  | [] => return false

def takeWhile (p : Char → Bool) : Scan Text := do
  let t ← get
  set (t.dropWhile p)
  return t.takeWhile p

def takeWhile1 (p : Char → Bool) : Scan Text := do
  let t ← takeWhile p
  if t.isEmpty then failure else return t

def skipWhile (p : Char → Bool) : Scan Unit := do
  set ((← get).dropWhile p)

def atEnd : Scan Bool :=
  return (← get).isEmpty

def finish : Scan Unit := do
  if ← atEnd then return () else failure

def option {α : Type} (x : Scan α) : Scan (Option α) :=
  (some <$> x) <|> pure none

def readAll? {α : Type} (x : Scan α) (t : Text) : Option α :=
  ((x <* finish).run t).map (·.1)

end Scan

def digitValue? (base : Nat) (c : Char) : Option Nat :=
  let v :=
    if '0' ≤ c && c ≤ '9' then c.toNat - '0'.toNat
    else if 'a' ≤ c && c ≤ 'f' then c.toNat - 'a'.toNat + 10
    else if 'A' ≤ c && c ≤ 'F' then c.toNat - 'A'.toNat + 10
    else base
  if v < base then some v else none

def isDigitOf (base : Nat) (c : Char) : Bool :=
  (digitValue? base c).isSome

def numberOf (base : Nat) (digits : Text) : Nat :=
  digits.foldl (fun n c => n * base + (digitValue? base c).getD 0) 0

def charOf? (code : Nat) : Option Char :=
  if h : code.isValidChar then some (Char.ofNatAux code h) else none

namespace Scan

def hexDigits : Nat → Scan Text
  | 0 => return []
  | n + 1 => return (← satisfy (isDigitOf 16)) :: (← hexDigits n)

/-- Reads the code point of a character in a fixed number of hexadecimal digits. -/
def hexChar (n : Nat) : Scan Char := do
  match charOf? (numberOf 16 (← hexDigits n)) with
  | some c => return c
  | none => failure

end Scan

end PathGlob.Config
