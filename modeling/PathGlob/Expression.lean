import PathGlob.Token

/-!
# Expressions

The written form in which a pattern's wildcard segment is handed to a matching engine: anchored at
both ends, a group for each wildcard, and a backslash before every literal that the form would
otherwise read as an operator. `ofSegment` writes it and `read?` reads it; `read?_ofSegment` says
that reading gives back the tokens of the segment, so the form is never rejected.
-/

namespace PathGlob.Expression

/-- Characters that mean something else in an expression unless a backslash precedes them. -/
def operators : Text :=
  ['\\', '.', '+', '*', '?', '(', ')', '|', '[', ']', '{', '}', '^', '$', '#', '&', '-', '~']

def isOperator (c : Char) : Bool :=
  operators.contains c

def literal (c : Char) : Text :=
  if isOperator c then ['\\', c] else [c]

def oneGroup : Text :=
  ['(', '[', '^', '/', ']', '*', ')']

def manyGroup : Text :=
  ['(', '(', '?', 's', ':', '.', '*', ')', ')']

/-- The items of a segment, without the anchors. -/
def items : Text → Text
  | [] => []
  | '*' :: rest =>
    if rest.head? = some '*' then manyGroup ++ items (rest.dropWhile (· == '*'))
    else oneGroup ++ items rest
  | ['\\'] => literal '\\'
  | '\\' :: c :: rest =>
    if c = '*' ∨ c = '\\' then literal c ++ items rest
    else literal '\\' ++ literal c ++ items rest
  | c :: rest => literal c ++ items rest
termination_by t => t.length
decreasing_by
  · have := (List.dropWhile_sublist (l := rest) (· == '*')).length_le
    simp; omega
  all_goals (simp only [List.length_cons]; omega)

def ofSegment (segment : Text) : Text :=
  '^' :: items segment ++ ['$']

def item : Token → Text
  | .lit c => literal c
  | .one => oneGroup
  | .many => manyGroup

/-! ### Reading

What follows is read by the syntax of the engine, with no regard to how expressions are written. -/

/-- The characters that the syntax has a use for. -/
def reserved : Text :=
  "#$&()*+-.?[\\]^\x7b|\x7d~".toList

def isReserved (c : Char) : Bool :=
  reserved.contains c

/-- Any text, line breaks included. -/
def anyText : Text :=
  "((?s:.*))".toList

/-- Any text without a slash. -/
def anyName : Text :=
  "([^/]*)".toList

def readLiteral? : Text → Option (Char × Text)
  | '\\' :: c :: rest => if isReserved c then some (c, rest) else none
  | c :: rest => if isReserved c then none else some (c, rest)
  | [] => none

def readItem? (t : Text) : Option (Token × Text) :=
  match Text.after? anyText t with
  | some rest => some (.many, rest)
  | none =>
    match Text.after? anyName t with
    | some rest => some (.one, rest)
    | none => (readLiteral? t).map fun (c, rest) => (.lit c, rest)

theorem readLiteral?_length {t rest : Text} {c : Char} (h : readLiteral? t = some (c, rest)) :
    rest.length < t.length := by
  unfold readLiteral? at h
  split at h <;> grind

theorem readItem?_length {t rest : Text} {tok : Token} (h : readItem? t = some (tok, rest)) :
    rest.length < t.length := by
  unfold readItem? at h
  split at h
  · next r hr =>
    simp only [Option.some.injEq, Prod.mk.injEq] at h
    rw [Text.after?_eq_some_iff.1 hr, ← h.2, List.length_append]
    exact Nat.lt_add_of_pos_left (by decide)
  · split at h
    · next r hr =>
      simp only [Option.some.injEq, Prod.mk.injEq] at h
      rw [Text.after?_eq_some_iff.1 hr, ← h.2, List.length_append]
      exact Nat.lt_add_of_pos_left (by decide)
    · simp only [Option.map_eq_some_iff, Prod.exists, Prod.mk.injEq] at h
      obtain ⟨c, r, hr, -, rfl⟩ := h
      exact readLiteral?_length hr

/-- Reads items up to the closing anchor. -/
def readItems? (t : Text) : Option (List Token) :=
  if t = ['$'] then some []
  else
    match _h : readItem? t with
    | some (tok, rest) => (readItems? rest).map (tok :: ·)
    | none => none
termination_by t.length
decreasing_by exact readItem?_length (by assumption)

def read? : Text → Option (List Token)
  | '^' :: t => readItems? t
  | _ => none

/-! ### Reading inverts writing -/

/-- What is written with a backslash is what has to be. -/
theorem isReserved_eq (c : Char) : isReserved c = isOperator c := by
  have written : operators.all reserved.contains = true := by decide +kernel
  have read : reserved.all operators.contains = true := by decide +kernel
  rw [Bool.eq_iff_iff]
  constructor
  · exact fun h => List.all_eq_true.1 read c (List.contains_iff_mem.1 h)
  · exact fun h => List.all_eq_true.1 written c (List.contains_iff_mem.1 h)

theorem anyText_eq : anyText = manyGroup := rfl

theorem anyName_eq : anyName = oneGroup := rfl

/-- No literal begins like a group. -/
theorem after?_group_literal (lead t : Text) (c : Char) :
    Text.after? ('(' :: lead) (literal c ++ t) = none := by
  by_cases h : isOperator c
  · simp [literal, h, Text.after?]
  · have hc : c ≠ '(' := by rintro rfl; exact h rfl
    simp [literal, h, Text.after?, Ne.symm hc]

theorem readLiteral?_literal (c : Char) (t : Text) :
    readLiteral? (literal c ++ t) = some (c, t) := by
  by_cases h : isOperator c
  · simp [literal, h, readLiteral?, isReserved_eq]
  · have hb : c ≠ '\\' := by rintro rfl; exact h rfl
    simp [literal, h, readLiteral?, hb, isReserved_eq]

theorem readItem?_item (tok : Token) (t : Text) : readItem? (item tok ++ t) = some (tok, t) := by
  cases tok with
  | lit c =>
    have hm : Text.after? manyGroup (literal c ++ t) = none := after?_group_literal _ _ _
    have ho : Text.after? oneGroup (literal c ++ t) = none := after?_group_literal _ _ _
    simp [readItem?, anyText_eq, anyName_eq, item, hm, ho, readLiteral?_literal]
  | one =>
    have hm : Text.after? manyGroup (oneGroup ++ t) = none := by
      simp [manyGroup, oneGroup, Text.after?]
    simp [readItem?, anyText_eq, anyName_eq, item, hm]
  | many => simp [readItem?, anyText_eq, item]

theorem readItems?_item (tok : Token) (t : Text) :
    readItems? (item tok ++ t) = (readItems? t).map (tok :: ·) := by
  have hne : item tok ++ t ≠ ['$'] := by
    cases tok with
    | lit c =>
      by_cases h : isOperator c
      · simp [item, literal, h]
      · have hd : c ≠ '$' := by rintro rfl; exact h rfl
        simp [item, literal, h, hd]
    | one => simp [item, oneGroup]
    | many => simp [item, manyGroup]
  rw [readItems?.eq_def, if_neg hne]
  split
  · next tok' rest h =>
    rw [readItem?_item] at h
    cases h
    rfl
  · next h => rw [readItem?_item] at h; cases h

theorem scan_star_tail (t : Text) :
    (Token.scan ('*' :: t)).tail = Token.scan (t.dropWhile (· == '*')) := by
  induction t with
  | nil => simp [Token.scan]
  | cons c t ih =>
    by_cases h : c = '*'
    · subst h
      rw [Token.scan]
      simpa using ih
    · rw [Token.scan]
      simp [h]

/-- The items of a segment are those of its tokens. -/
theorem items_eq (w : Text) : items w = (Token.scan w).flatMap item := by
  fun_induction items w with
  | case1 => simp [Token.scan]
  | case2 rest h ih =>
    rw [ih, Token.scan]
    cases rest with
    | nil => simp at h
    | cons c rest =>
      obtain rfl : c = '*' := by simpa using h
      simp [scan_star_tail, item]
  | case3 rest h ih =>
    rw [ih, Token.scan]
    simp [h, item]
  | case4 => simp [Token.scan, item]
  | case5 c rest h ih =>
    rw [ih, Token.scan]
    simp [h, item]
  | case6 c rest h ih =>
    rw [ih, Token.scan]
    simp [h, item]
  | case7 c rest h1 h2 h3 ih =>
    rw [ih, Token.scan]
    · simp [item]
    all_goals assumption

theorem readItems?_flatMap (ts : List Token) :
    readItems? (ts.flatMap item ++ ['$']) = some ts := by
  induction ts with
  | nil => rw [readItems?.eq_def]; rfl
  | cons tok ts ih => rw [List.flatMap_cons, List.append_assoc, readItems?_item, ih]; rfl

/-- Reading an expression gives back the tokens of the segment it was written for. -/
theorem read?_ofSegment (segment : Text) :
    read? (ofSegment segment) = some (Token.scan segment) := by
  rw [ofSegment, items_eq]
  exact readItems?_flatMap _

end PathGlob.Expression
