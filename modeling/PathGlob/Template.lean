import PathGlob.Captures
import PathGlob.Decimal.Natural

namespace PathGlob.Template

def isBrace (c : Char) : Bool :=
  c == '{' || c == '}'

/-- A part of a template: a character that stands for itself, or a placeholder. -/
inductive Piece where
  | plain (c : Char)
  | hole (name : Text)
  deriving DecidableEq, Repr

def Piece.text : Piece → Text
  | .plain c => [c]
  | .hole name => '{' :: name ++ ['}']

/-- The parts of a template, from left to right. -/
def pieces : Text → List Piece
  | [] => []
  | c :: rest =>
    if c = '{' then
      match _h : rest.dropWhile (!isBrace ·) with
      | '}' :: after => .hole (rest.takeWhile (!isBrace ·)) :: pieces after
      | _ => .plain c :: pieces rest
    else .plain c :: pieces rest
termination_by t => t.length
decreasing_by
  · have := Text.length_lt_of_dropWhile (by assumption)
    simp; omega
  all_goals simp

/-- What a part is replaced by: a placeholder with a known name gives its value, anything else
itself. -/
def Piece.fill (lookup : Text → Option Text) : Piece → Text
  | .plain c => [c]
  | .hole name => (lookup name).getD (Piece.hole name).text

/-- A template with every known placeholder replaced. Values are not read again. -/
def render (lookup : Text → Option Text) (template : Text) : Text :=
  (pieces template).flatMap (Piece.fill lookup)

/-- The value under a name in a list of names and values; the first of several wins. -/
def lookupPairs (pairs : List (Text × Text)) (name : Text) : Option Text :=
  (pairs.find? (·.1 == name)).map (·.2)

/-- The value that a name stands for among captures, where the name is a position. -/
def lookupCaptures (c : Captures) (name : Text) : Option Text :=
  (Decimal.natural? name).bind c.get?

@[simp] theorem lookupCaptures_text (c : Captures) (i : Nat) :
    lookupCaptures c (Decimal.text i) = c.get? i := by
  rw [lookupCaptures, Decimal.natural?_text, Option.bind_some]

/-- A number behind the last position stands for nothing. -/
theorem lookupCaptures_eq_none {c : Captures} {name : Text}
    (beyond : ∀ k, Decimal.natural? name = some k → c.groups.length < k) :
    lookupCaptures c name = none := by
  rw [lookupCaptures]
  cases number : Decimal.natural? name with
  | none => rfl
  | some k =>
    rw [Option.bind_some, Captures.get?, List.getElem?_eq_none_iff]
    exact beyond k number

def expand (template : Text) (c : Captures) : Text :=
  render (lookupCaptures c) template

theorem flatMap_text_pieces (t : Text) : (pieces t).flatMap Piece.text = t := by
  fun_induction pieces t with
  | case1 => rfl
  | case2 rest after h ih =>
    have := List.takeWhile_append_dropWhile (p := (!isBrace ·)) (l := rest)
    rw [h] at this
    simp only [List.flatMap_cons, ih, Piece.text]
    simpa using this
  | case3 => simp_all [Piece.text]
  | case4 => simp_all [Piece.text]

end PathGlob.Template
