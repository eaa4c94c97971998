import PathGlob.Text.Letter
import PathGlob.Text.Mark

namespace PathGlob.Text

/-- The code points of the digits for zero in all scripts. The other nine follow each of them. -/
def zeros : List Nat :=
  [0x30, 0x660, 0x6f0, 0x7c0, 0x966, 0x9e6, 0xa66, 0xae6, 0xb66, 0xbe6, 0xc66, 0xce6, 0xd66, 0xde6,
    0xe50, 0xed0, 0xf20, 0x1040, 0x1090, 0x17e0, 0x1810, 0x1946, 0x19d0, 0x1a80, 0x1a90, 0x1b50,
    0x1bb0, 0x1c40, 0x1c50, 0xa620, 0xa8d0, 0xa900, 0xa9d0, 0xa9f0, 0xaa50, 0xabf0, 0xff10, 0x104a0,
    0x10d30, 0x10d40, 0x11066, 0x110f0, 0x11136, 0x111d0, 0x112f0, 0x11450, 0x114d0, 0x11650,
    0x116c0, 0x116d0, 0x116da, 0x11730, 0x118e0, 0x11950, 0x11bf0, 0x11c50, 0x11d50, 0x11da0,
    0x11de0, 0x11f50, 0x16130, 0x16a60, 0x16ac0, 0x16b50, 0x16d70, 0x16da0, 0x1ccf0, 0x1d7ce,
    0x1d7d8, 0x1d7e2, 0x1d7ec, 0x1d7f6, 0x1e140, 0x1e2f0, 0x1e4f0, 0x1e5f1, 0x1e950, 0x1fbf0]

def isDecimalDigit (c : Char) : Bool :=
  zeros.any fun first => first ≤ c.toNat && c.toNat < first + 10

def connectorRanges : List (Nat × Nat) :=
  [(0x5f, 0x5f), (0x203f, 0x2040), (0x2054, 0x2054), (0xfe33, 0xfe34), (0xfe4d, 0xfe4f),
    (0xff3f, 0xff3f)]

def isConnector (c : Char) : Bool :=
  connectorRanges.any fun (first, last) => first ≤ c.toNat && c.toNat ≤ last

/-- The ranges of letters that do not begin an identifier. -/
def unfitLetterRanges : List (Nat × Nat) :=
  [(0x37a, 0x37a), (0xe33, 0xe33), (0xeb3, 0xeb3), (0x2e2f, 0x2e2f), (0xfc5e, 0xfc63),
    (0xfdfa, 0xfdfb), (0xfe70, 0xfe70), (0xfe72, 0xfe72), (0xfe74, 0xfe74), (0xfe76, 0xfe76),
    (0xfe78, 0xfe78), (0xfe7a, 0xfe7a), (0xfe7c, 0xfe7c), (0xfe7e, 0xfe7e), (0xff9e, 0xff9f)]

def otherStartRanges : List (Nat × Nat) :=
  [(0x1885, 0x1886), (0x2118, 0x2118), (0x212e, 0x212e)]

/-- The ranges of other characters that stand behind the first one of an identifier. -/
def otherPartRanges : List (Nat × Nat) :=
  [(0xb7, 0xb7), (0x387, 0x387), (0xe33, 0xe33), (0xeb3, 0xeb3), (0x1369, 0x1371),
    (0x19da, 0x19da), (0x200c, 0x200d), (0x30fb, 0x30fb), (0xff65, 0xff65), (0xff9e, 0xff9f)]

/-- Whether a character begins a name that Unicode 18 recommends for formal languages
(`XID_Start`). -/
def beginsIdentifier (c : Char) : Bool :=
  let isIn (ranges : List (Nat × Nat)) : Bool :=
    ranges.any fun (first, last) => first ≤ c.toNat && c.toNat ≤ last
  (isLetter c && !isIn unfitLetterRanges) || isIn otherStartRanges

/-- Whether a character may stand behind the first one of such a name (`XID_Continue`). -/
def continuesIdentifier (c : Char) : Bool :=
  beginsIdentifier c || isNonspacingMark c || isSpacingMark c || isDecimalDigit c ||
    isConnector c || otherPartRanges.any fun (first, last) => first ≤ c.toNat && c.toNat ≤ last

end PathGlob.Text
