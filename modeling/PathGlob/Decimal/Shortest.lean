import PathGlob.Text

/-!
# Shortest decimals of binary fractions

A finite double stands for all reals that round to it. `Shortest.ofBits` finds, among the decimals
with the fewest digits that lie in that interval, the one nearest to the double itself, and of two
that are equally near the larger one; all steps are exact arithmetic on natural numbers. `floatText`
writes it positionally, never with an exponent.
-/

namespace PathGlob.Decimal

/-- The number `mantissa * 2 ^ exponent`, with `exponent` kept as a difference of two naturals:
multiply by `2 ^ up` and divide by `2 ^ down`. `lowerHalf` tells that the next smaller double is
only half as far away as the next larger one. -/
structure Binary where
  mantissa : Nat
  up : Nat
  down : Nat
  lowerHalf : Bool

def Binary.ofBits (bits : UInt64) : Binary :=
  let fraction := bits.toNat % Nat.pow 2 52
  let biased := bits.toNat / Nat.pow 2 52 % Nat.pow 2 11
  let mantissa := if biased = 0 then fraction else fraction + Nat.pow 2 52
  let scale := max biased 1
  { mantissa, up := scale - 1075, down := 1075 - scale, lowerHalf := fraction == 0 && biased > 1 }

/-- The decimal `digits * 10 ^ (-places)`; `places` counts digits behind the point and may be
negative. -/
structure Digits where
  digits : Nat
  places : Int
  deriving DecidableEq, Repr

/-- Whether a decimal rounds to a binary number, and its distance from it in a common unit. -/
def Binary.distance? (b : Binary) (d : Digits) : Option Nat :=
  -- Everything is multiplied by four times `2 ^ down` and by ten to the number of places.
  let tenUp := Nat.pow 10 (-d.places).toNat
  let tenDown := Nat.pow 10 d.places.toNat
  let exact := 4 * b.mantissa * Nat.pow 2 b.up * tenDown
  let unit := Nat.pow 2 b.up * tenDown
  let given := 4 * d.digits * tenUp * Nat.pow 2 b.down
  let above := 2 * unit
  let below := if b.lowerHalf then unit else 2 * unit
  let closed := b.mantissa % 2 = 0
  let gap := if exact ≤ given then given - exact else exact - given
  let room := if exact ≤ given then above else below
  if gap < room ∨ (closed ∧ gap = room) then some gap else none

/-- The decimals with a number of places on either side of a binary number. -/
def Binary.floor (b : Binary) (places : Int) : Nat :=
  b.mantissa * Nat.pow 2 b.up * Nat.pow 10 places.toNat /
    (Nat.pow 2 b.down * Nat.pow 10 (-places).toNat)

/-- The nearer of the two neighbours with a number of places that round to a binary number, and the
upper one of two that are equally near. -/
def Binary.neighbour? (b : Binary) (places : Int) : Option Digits :=
  let low : Digits := ⟨b.floor places, places⟩
  let high : Digits := ⟨b.floor places + 1, places⟩
  match b.distance? low, b.distance? high with
  | some x, some y => some (if x < y then low else high)
  | some _, none => some low
  | none, some _ => some high
  | none, none => none

/-- Tries more and more places until a decimal rounds to the number. -/
def Binary.search (b : Binary) : Nat → Int → Digits
  | 0, places => ⟨b.floor places, places⟩
  | fuel + 1, places =>
    match b.neighbour? places with
    | some d => d
    | none => b.search fuel (places + 1)

/-- The shortest decimal of a nonzero binary number. No double needs more than 17 digits, and none
has more than 309 digits in front of the point or fewer than 1 in the 324 places behind it. -/
def Binary.shortest (b : Binary) : Digits :=
  b.search 700 (-310)

/-- Digits with a point, and with zeros wherever the digits do not reach it. -/
def Digits.text (d : Digits) : Text :=
  let ds := Nat.toDigits 10 d.digits
  match d.places with
  | .ofNat places =>
    if places = 0 then ds
    else
      let padded := List.replicate (places + 1 - ds.length) '0' ++ ds
      let whole := padded.take (padded.length - places)
      whole ++ '.' :: padded.drop (padded.length - places)
  | .negSucc n => ds ++ List.replicate (n + 1) '0'

def floatText (x : Float) : Text :=
  if x.isNaN then ['N', 'a', 'N']
  else
    let sign : Text := if x.toBits ≥ 0x8000000000000000 then ['-'] else []
    if x.isInf then sign ++ ['i', 'n', 'f']
    else if x == 0 then sign ++ ['0']
    else sign ++ (Binary.ofBits x.toBits).shortest.text

def floatTextPointed (x : Float) : Text :=
  let t := floatText x
  if x.isFinite && !t.contains '.' then t ++ ['.', '0'] else t

end PathGlob.Decimal
