import PathGlob.Text

/-!
# Texts as bytes

`Text.bytes` is the UTF-8 form of a text, as long as its size says (`length_bytes`). `Text.ofBytes`
reads bytes back; every part of a sequence that no character begins with is read as one replacement
character, up to the first byte at which it stopped being the start of a character.
-/

namespace PathGlob.Text

def bytes (t : Text) : List UInt8 :=
  t.flatMap String.utf8EncodeChar

@[simp] theorem bytes_nil : bytes [] = [] := rfl

@[simp] theorem bytes_append (s t : Text) : bytes (s ++ t) = bytes s ++ bytes t := by
  simp [bytes]

theorem length_bytes (t : Text) : (bytes t).length = byteSize t := by
  induction t with
  | nil => rfl
  | cons c t ih =>
    simp only [bytes] at ih
    simp [bytes, ih]

def replacement : Char := '\uFFFD'

/-- The bytes that may follow a first byte: how many continuation bytes it asks for, the range of
the first of them, and the bits that the first byte contributes. -/
def lead? (b : UInt8) : Option (Nat × UInt8 × UInt8 × Nat) :=
  if 0xc2 ≤ b && b ≤ 0xdf then some (1, 0x80, 0xbf, b.toNat - 0xc0)
  else if b == 0xe0 then some (2, 0xa0, 0xbf, 0)
  else if b == 0xed then some (2, 0x80, 0x9f, 0xd)
  else if 0xe1 ≤ b && b ≤ 0xef then some (2, 0x80, 0xbf, b.toNat - 0xe0)
  else if b == 0xf0 then some (3, 0x90, 0xbf, 0)
  else if 0xf1 ≤ b && b ≤ 0xf3 then some (3, 0x80, 0xbf, b.toNat - 0xf0)
  else if b == 0xf4 then some (3, 0x80, 0x8f, 4)
  else none

/-- A character that has begun: the continuation bytes still missing, the range of the next one,
and the code point so far. -/
structure Begun where
  missing : Nat
  low : UInt8
  high : UInt8
  code : Nat

/-- Reads bytes with a character possibly begun. -/
def decode : Option Begun → List UInt8 → Text
  | none, [] => []
  | some _, [] => [replacement]
  | none, b :: rest =>
    if b < 0x80 then Char.ofNat b.toNat :: decode none rest
    else match lead? b with
      | some (n, low, high, code) => decode (some ⟨n, low, high, code⟩) rest
      | none => replacement :: decode none rest
  | some p, b :: rest =>
    if p.low ≤ b && b ≤ p.high then
      let code := p.code * 64 + (b.toNat - 0x80)
      if p.missing ≤ 1 then Char.ofNat code :: decode none rest
      else decode (some ⟨p.missing - 1, 0x80, 0xbf, code⟩) rest
    else if b < 0x80 then replacement :: Char.ofNat b.toNat :: decode none rest
    else match lead? b with
      | some (n, low, high, code) => replacement :: decode (some ⟨n, low, high, code⟩) rest
      | none => replacement :: replacement :: decode none rest

def ofBytes (bs : List UInt8) : Text :=
  decode none bs

end PathGlob.Text
