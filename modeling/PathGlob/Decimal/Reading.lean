import PathGlob.Decimal.Natural

namespace PathGlob.Decimal

/-- The double nearest to `digits * 10 ^ exponent`. Exponents far outside the range of doubles are
settled without the arithmetic. -/
def nearestFloat (negative : Bool) (digits : Nat) (exponent : Int) : Float :=
  let size := exponent + (text digits).length
  let magnitude : Float :=
    if digits = 0 || size < -400 then 0
    else if size > 400 then 1 / 0
    else match exponent with
      | .ofNat e => OfScientific.ofScientific digits false e
      | .negSucc e => OfScientific.ofScientific digits true (e + 1)
  if negative then -magnitude else magnitude

/-- The single nearest to `digits * 10 ^ exponent`, as a double. -/
def nearestSingle (negative : Bool) (digits : Nat) (exponent : Int) : Float :=
  let size := exponent + (text digits).length
  let magnitude : Float32 :=
    if digits = 0 || size < -400 then 0
    else if size > 400 then 1 / 0
    else match exponent with
      | .ofNat e => OfScientific.ofScientific digits false e
      | .negSucc e => OfScientific.ofScientific digits true (e + 1)
  (if negative then -magnitude else magnitude).toFloat

/-- Takes a sign off a text and tells whether it was a minus sign. -/
def unsigned : Text → Bool × Text
  | '-' :: t => (true, t)
  | '+' :: t => (false, t)
  | t => (false, t)

def exponent? : Text → Option Int
  | [] => some 0
  | c :: t =>
    if c == 'e' || c == 'E' then
      let (down, digits) := unsigned t
      if !digits.isEmpty && digits.all Char.isDigit then
        let n := number digits
        some (if down then -n else n)
      else none
    else none

/-- The sign, the digits and the exponent of ten of a decimal fraction: a sign, digits with at most
one point among or around them, and an exponent; all but one digit may be missing. -/
def fraction? (t : Text) : Option (Bool × Nat × Int) :=
  let (negative, t) := unsigned t
  let whole := t.takeWhile Char.isDigit
  let rest := t.dropWhile Char.isDigit
  let (fraction, rest) := match rest with
    | '.' :: r => (r.takeWhile Char.isDigit, r.dropWhile Char.isDigit)
    | _ => ([], rest)
  if whole.isEmpty && fraction.isEmpty then none
  else (exponent? rest).map fun e => (negative, number (whole ++ fraction), e - fraction.length)

def float? (t : Text) : Option Float :=
  (fraction? t).map fun (negative, digits, exponent) => nearestFloat negative digits exponent

def single? (t : Text) : Option Float :=
  (fraction? t).map fun (negative, digits, exponent) => nearestSingle negative digits exponent

def int64? (t : Text) : Option Int :=
  let (negative, digits) := unsigned t
  if digits.isEmpty || !digits.all Char.isDigit then none
  else
    let n := number digits
    if negative then if n ≤ Nat.pow 2 63 then some (-n) else none
    else if n < Nat.pow 2 63 then some n else none

end PathGlob.Decimal
