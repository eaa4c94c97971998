namespace PathGlob.Text

/-- The ranges of white space (`White_Space`), first and last code point of each. -/
def whiteRanges : List (Nat × Nat) :=
  [(0x9, 0xd), (0x20, 0x20), (0x85, 0x85), (0xa0, 0xa0), (0x1680, 0x1680), (0x2000, 0x200a),
    (0x2028, 0x2029), (0x202f, 0x202f), (0x205f, 0x205f), (0x3000, 0x3000)]

/-- The ranges of what formal languages skip between tokens (`Pattern_White_Space`). -/
def patternWhiteRanges : List (Nat × Nat) :=
  [(0x9, 0xd), (0x20, 0x20), (0x85, 0x85), (0x200e, 0x200f), (0x2028, 0x2029)]

def isWhite (c : Char) : Bool :=
  whiteRanges.any fun (first, last) => first ≤ c.toNat && c.toNat ≤ last

def isPatternWhite (c : Char) : Bool :=
  patternWhiteRanges.any fun (first, last) => first ≤ c.toNat && c.toNat ≤ last

def trimEnd (t : List Char) : List Char :=
  (t.reverse.dropWhile isWhite).reverse

def trim (t : List Char) : List Char :=
  trimEnd (t.dropWhile isWhite)

end PathGlob.Text
