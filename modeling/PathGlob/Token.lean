import PathGlob.Text

/-!
# Tokens of a pattern

A pattern is read from left to right as literal characters and wildcards. `Token.scan` is that
reading; it gives every pattern a meaning, since any text is a pattern. `scan_plain_append` and
`scan_append_plain` say that text without stars and backslashes, at either end, is read as it
stands.
-/

namespace PathGlob

/-- A literal character, a wildcard within a path segment, or a wildcard across segments. -/
inductive Token where
  | lit (c : Char)
  | one
  | many
  deriving DecidableEq, Repr

namespace Token

def separator : Char := '/'

/-- Whether a character may stand in the text of a wildcard. -/
def covers : Token → Char → Bool
  | .lit _, _ => false
  | .one, x => x != separator
  | .many, _ => true

def isWild : Token → Bool
  | .lit _ => false
  | .one | .many => true

/-- A star or a backslash: all else stands for itself in a pattern. -/
def isSpecial (c : Char) : Bool :=
  c == '*' || c == '\\'

/-- The tokens of a pattern. A single `*` is `one` and a longer run of stars is one `many`. A
backslash makes a following `*` or backslash literal; before any other character, and at the end,
it is itself a literal. -/
def scan : Text → List Token
  | [] => []
  | '*' :: rest => if rest.head? = some '*' then .many :: (scan rest).tail else .one :: scan rest
  | ['\\'] => [.lit '\\']
  | '\\' :: c :: rest =>
    if c = '*' ∨ c = '\\' then .lit c :: scan rest else .lit '\\' :: .lit c :: scan rest
  | c :: rest => .lit c :: scan rest

def literals (t : Text) : List Token :=
  t.map .lit

def literalText (ts : List Token) : Text :=
  ts.filterMap fun
    | .lit c => some c
    | _ => none

def wildcards (ts : List Token) : Nat :=
  ts.countP isWild

@[simp] theorem literalText_nil : literalText [] = [] := rfl

@[simp] theorem literalText_lit (c : Char) (ts : List Token) :
    literalText (.lit c :: ts) = c :: literalText ts := rfl

@[simp] theorem literalText_one (ts : List Token) :
    literalText (.one :: ts) = literalText ts := rfl

@[simp] theorem literalText_many (ts : List Token) :
    literalText (.many :: ts) = literalText ts := rfl

@[simp] theorem literalText_append (ts us : List Token) :
    literalText (ts ++ us) = literalText ts ++ literalText us :=
  List.filterMap_append

@[simp] theorem literalText_literals (t : Text) : literalText (literals t) = t := by
  induction t with
  | nil => rfl
  | cons c t ih => exact congrArg (c :: ·) ih

/-! ### Text that stands for itself -/

theorem scan_of_not_special {c : Char} (h : ¬ isSpecial c) (t : Text) :
    scan (c :: t) = .lit c :: scan t := by
  simp only [isSpecial, Bool.or_eq_true, beq_iff_eq, not_or] at h
  rw [scan]
  · exact h.1
  all_goals simp [h.2]

theorem scan_plain_append {lead : Text} (plain : ∀ c ∈ lead, ¬ isSpecial c) (t : Text) :
    scan (lead ++ t) = literals lead ++ scan t := by
  induction lead with
  | nil => rfl
  | cons c lead ih =>
    rw [List.cons_append, scan_of_not_special (plain c (by simp)),
      ih fun d hd => plain d (by simp [hd])]
    rfl

theorem scan_plain {t : Text} (plain : ∀ c ∈ t, ¬ isSpecial c) : scan t = literals t := by
  simpa [scan] using scan_plain_append plain []

/-- A backslash at the end of a text takes no character from plain text behind it: before such a
character it is a literal too. -/
theorem scan_append_plain {trail : Text} (plain : ∀ c ∈ trail, ¬ isSpecial c) (t : Text) :
    scan (t ++ trail) = scan t ++ literals trail := by
  fun_induction scan t with
  | case1 => exact scan_plain plain
  | case2 rest h ih =>
    cases rest with
    | nil => simp at h
    | cons c rest =>
      obtain rfl : c = '*' := by simpa using h
      have : scan ('*' :: rest) ≠ [] := by
        rw [scan]
        split <;> simp
      rw [List.cons_append, scan, ih]
      simp [List.tail_append_of_ne_nil this]
  | case3 rest h ih =>
    have : (rest ++ trail).head? ≠ some '*' := by
      cases rest with
      | nil => exact fun h => plain '*' (List.mem_of_mem_head? h) rfl
      | cons c rest => simpa using h
    rw [List.cons_append, scan, if_neg this, ih]
    rfl
  | case4 =>
    cases trail with
    | nil => rfl
    | cons c trail =>
      have hc := plain c (by simp)
      simp only [isSpecial, Bool.or_eq_true, beq_iff_eq] at hc
      rw [List.singleton_append, scan, if_neg hc, scan_plain fun d hd => plain d (by simp [hd])]
      rfl
  | case5 c rest h ih =>
    rw [List.cons_append, List.cons_append, scan, if_pos h, ih]
    rfl
  | case6 c rest h ih =>
    rw [List.cons_append, List.cons_append, scan, if_neg h, ih]
    rfl
  | case7 c rest not_star not_last not_escape ih =>
    have hc : ¬ isSpecial c := by
      simp only [isSpecial, Bool.or_eq_true, beq_iff_eq, not_or]
      refine ⟨not_star, ?_⟩
      intro e
      cases rest with
      | nil => exact not_last e rfl
      | cons d rest => exact not_escape d rest e rfl
    rw [List.cons_append, scan_of_not_special hc, ih]
    rfl

end Token

end PathGlob
