import PathGlob.Token

/-!
# Searching for the preferred spelling

Whether tokens spell a text depends only on a tail of the tokens and a tail of the text, so one
row of answers per tail of the tokens, filled from the back, decides it in time proportional to the
product of the two lengths. Reading the rows from the front then gives each wildcard, from the left,
the longest text that still leaves a spelling of the rest.
-/

namespace PathGlob.Search

/-- One answer for each tail of a text, the whole text first and the empty tail last. -/
abbrev Row := List Bool

def Row.first (r : Row) : Bool :=
  r.headD false

/-- The row of no tokens: only the empty tail is spelled. -/
def emptyRow : Text → Row
  | [] => [true]
  | _ :: t => false :: emptyRow t

def litRow (c : Char) : Text → Row → Row
  | [], _ => [false]
  | x :: t, r => (c == x && Row.first r.tail) :: litRow c t r.tail

/-- The row of a wildcard before tokens whose row is given: the wildcard is empty, or it takes one
character and is then as free as before. -/
def wildRow (covers : Char → Bool) : Text → Row → Row
  | [], r => [r.first]
  | x :: t, r =>
    let later := wildRow covers t r.tail
    (r.first || (covers x && later.first)) :: later

/-- The row of some tokens, and for each wildcard among them the row of the tokens after it. -/
structure Table where
  row : Row
  afterWild : List Row

def table (t : Text) : List Token → Table
  | [] => ⟨emptyRow t, []⟩
  | .lit c :: ts =>
    let rest := table t ts
    ⟨litRow c t rest.row, rest.afterWild⟩
  | .one :: ts =>
    let rest := table t ts
    ⟨wildRow Token.one.covers t rest.row, rest.row :: rest.afterWild⟩
  | .many :: ts =>
    let rest := table t ts
    ⟨wildRow Token.many.covers t rest.row, rest.row :: rest.afterWild⟩

/-- How much a wildcard takes at most when the rest has to be spelled by tokens with this row. -/
def longest? (covers : Char → Bool) : Text → Row → Option Nat
  | [], r => if r.first then some 0 else none
  | x :: t, r =>
    match if covers x then longest? covers t r.tail else none with
    | some n => some (n + 1)
    | none => if r.first then some 0 else none

/-- Gives each wildcard in turn as much as it can take. The rows are those after each wildcard,
over the text that is left. -/
def assign? : List Token → Text → List Row → Option (List Text)
  | [], [], _ => some []
  | [], _ :: _, _ => none
  | .lit c :: ts, x :: t, rows => if c = x then assign? ts t (rows.map List.tail) else none
  | .lit _ :: _, [], _ => none
  | tok :: ts, t, row :: rows =>
    match longest? tok.covers t row with
    | some n => (assign? ts (t.drop n) (rows.map (·.drop n))).map (t.take n :: ·)
    | none => none
  | _ :: _, _, [] => none

/-- The texts of the wildcards in the preferred spelling of a text, if there is a spelling. -/
def groups? (ts : List Token) (t : Text) : Option (List Text) :=
  assign? ts t (table t ts).afterWild

def spells (ts : List Token) (t : Text) : Bool :=
  (table t ts).row.first

end PathGlob.Search
