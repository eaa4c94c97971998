import PathGlob.Text
import PathGlob.Text.Extending
import PathGlob.Text.Unprintable

namespace PathGlob.Text

/-- The code point of a character in hexadecimal, without leading zeros. -/
def hexCode (c : Char) : Text :=
  Nat.toDigits 16 c.toNat

/-- A character between quotes, in a backslash form where it does not show on its own. -/
def quotedChar (c : Char) : Text :=
  match c with
  | '\x00' => ['\\', '0']
  | '\t' => ['\\', 't']
  | '\n' => ['\\', 'n']
  | '\r' => ['\\', 'r']
  | '"' => ['\\', '"']
  | '\\' => ['\\', '\\']
  | _ =>
    if 0x20 ≤ c.toNat && c.toNat < 0x7f then [c]
    else if isExtending c || isUnprintable c then ['\\', 'u', '{'] ++ hexCode c ++ ['}']
    else [c]

def quoted (t : Text) : String :=
  String.ofList ('"' :: t.flatMap quotedChar ++ ['"'])

end PathGlob.Text
