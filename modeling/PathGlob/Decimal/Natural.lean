import PathGlob.Text

namespace PathGlob.Decimal

def text (n : Nat) : Text :=
  Nat.toDigits 10 n

def number (digits : Text) : Nat :=
  Nat.ofDigitChars 10 digits 0

/-- Reads at least one digit, with at most one plus sign in front. -/
def natural? (t : Text) : Option Nat :=
  let digits := match t with
    | '+' :: rest => rest
    | _ => t
  if !digits.isEmpty && digits.all Char.isDigit then some (number digits) else none

theorem number_text (n : Nat) : number (text n) = n :=
  Nat.ofDigitChars_toDigits (by decide) (by decide)

theorem isDigit_of_mem_text {n : Nat} {c : Char} (h : c ∈ text n) : c.isDigit :=
  Nat.isDigit_of_mem_toDigits (by decide) (by decide) h

@[simp] theorem natural?_text (n : Nat) : natural? (text n) = some n := by
  have digits : (text n).all Char.isDigit := List.all_eq_true.2 fun _ h => isDigit_of_mem_text h
  have some_digit : (text n).isEmpty = false := by simp [text]
  unfold natural?
  split
  · next rest h =>
    rw [h] at digits
    cases digits
  · simp [some_digit, digits, number_text]

end PathGlob.Decimal
