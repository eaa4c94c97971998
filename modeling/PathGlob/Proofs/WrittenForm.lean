import PathGlob.Engine
import PathGlob.Proofs.Reading

/-!
# The written form of a pattern

What is handed to a matching engine is a text in the engine's own language, and has to be one that
the engine takes for what is meant. Two readers look at it here, both by the syntax of the engine
and not by what is written. `Expression.symbols` only tells operators from literals, and finds an
operator nowhere but in the anchors and groups (`symbols_ofSegment`). `Expression.read?` knows a few
forms, and reads what is written and nothing else (`read?_eq_some_iff`), so that segments have the
same expression exactly if they have the same tokens. An engine that takes all that `read?` takes
never rejects a pattern (`Engine.compile?_of_takes`).
-/

namespace PathGlob

namespace Expression

/-! ### Operators and literals -/

/-- A character of an expression, as an operator or as itself. -/
inductive Symbol where
  | operator (c : Char)
  | literal (c : Char)
  deriving DecidableEq, Repr

/-- What the characters of an expression are: a backslash makes the next one a literal. -/
def symbols : Text → List Symbol
  | [] => []
  | '\\' :: c :: t => .literal c :: symbols t
  | c :: t => (if isReserved c then .operator c else .literal c) :: symbols t

/-- The groups that capture: parentheses that no question mark follows. -/
def captureGroups : List Symbol → Nat
  | [] => 0
  | .operator '(' :: .operator '?' :: rest => captureGroups rest
  | .operator '(' :: rest => captureGroups rest + 1
  | _ :: rest => captureGroups rest

/-- The symbols that are written for a token. -/
def meant : Token → List Symbol
  | .lit c => [.literal c]
  | .one => symbols oneGroup
  | .many => symbols manyGroup

theorem symbols_cons {c : Char} (other : c ≠ '\\') (t : Text) :
    symbols (c :: t) = (if isReserved c then .operator c else .literal c) :: symbols t := by
  rw [symbols]
  exact fun _ _ same => absurd same other

theorem symbols_item (tok : Token) (t : Text) :
    symbols (item tok ++ t) = meant tok ++ symbols t := by
  cases tok with
  | lit c =>
    by_cases operator : isOperator c
    · simp [item, literal, operator, meant, symbols]
    · have other : c ≠ '\\' := by
        rintro rfl
        exact operator rfl
      simp [item, literal, operator, meant, symbols_cons other, isReserved_eq]
  | one => simp [item, oneGroup, meant, symbols]
  | many => simp [item, manyGroup, meant, symbols]

theorem symbols_flatMap (ts : List Token) (t : Text) :
    symbols (ts.flatMap item ++ t) = ts.flatMap meant ++ symbols t := by
  induction ts with
  | nil => rfl
  | cons tok ts ih =>
    rw [List.flatMap_cons, List.flatMap_cons, List.append_assoc, List.append_assoc, symbols_item,
      ih]

theorem literal_eq (c : Char) : literal c = if c ∈ operators then ['\\', c] else [c] := by
  simp only [literal, isOperator, List.contains_iff_mem]

theorem ofSegment_eq (w : Text) :
    ofSegment w = '^' :: (Token.scan w).flatMap item ++ ['$'] := by
  rw [ofSegment, items_eq]

/-- In an expression only the anchors and groups are operators. -/
theorem symbols_ofSegment (w : Text) :
    symbols (ofSegment w) =
      .operator '^' :: (Token.scan w).flatMap meant ++ [.operator '$'] := by
  rw [ofSegment_eq, List.cons_append, symbols_cons (by decide), symbols_flatMap]
  rfl

theorem captureGroups_meant (tok : Token) (rest : List Symbol) :
    captureGroups (meant tok ++ rest) = captureGroups rest + if tok.isWild then 1 else 0 := by
  cases tok with
  | lit c => simp [meant, captureGroups, Token.isWild]
  | one =>
    simp [meant, oneGroup, symbols, isReserved_eq, isOperator, operators, captureGroups,
      Token.isWild]
  | many =>
    simp [meant, manyGroup, symbols, isReserved_eq, isOperator, operators, captureGroups,
      Token.isWild]

theorem captureGroups_flatMap (ts : List Token) (rest : List Symbol) :
    captureGroups (ts.flatMap meant ++ rest) = Token.wildcards ts + captureGroups rest := by
  induction ts with
  | nil => simp [Token.wildcards]
  | cons tok ts ih =>
    rw [List.flatMap_cons, List.append_assoc, captureGroups_meant, ih, Token.wildcards,
      Token.wildcards, List.countP_cons]
    omega

theorem captureGroups_ofSegment (w : Text) :
    captureGroups (symbols (ofSegment w)) = Token.wildcards (Token.scan w) := by
  rw [symbols_ofSegment, List.cons_append, captureGroups]
  · exact captureGroups_flatMap _ _
  all_goals simp

/-! ### Reading expressions -/

theorem literal_of_readLiteral? {t rest : Text} {c : Char} (h : readLiteral? t = some (c, rest)) :
    t = literal c ++ rest := by
  unfold readLiteral? at h
  split at h
  · next d r =>
    split at h
    · next operator =>
      cases h
      simp [literal, ← isReserved_eq, operator]
    · cases h
  · next d r _ =>
    split at h
    · cases h
    · next plain =>
      cases h
      simp [literal, ← isReserved_eq, plain]
  · cases h

/-- What is read as a token is its written form. -/
theorem item_of_readItem? {t rest : Text} {tok : Token} (h : readItem? t = some (tok, rest)) :
    t = item tok ++ rest := by
  unfold readItem? at h
  split at h
  · next r many =>
    cases h
    exact Text.after?_eq_some_iff.1 many
  · split at h
    · next r one =>
      cases h
      exact Text.after?_eq_some_iff.1 one
    · obtain ⟨⟨c, r⟩, found, same⟩ := Option.map_eq_some_iff.1 h
      cases same
      exact literal_of_readLiteral? found

theorem flatMap_of_readItems? {t : Text} {ts : List Token} (h : readItems? t = some ts) :
    t = ts.flatMap item ++ ['$'] := by
  fun_induction readItems? t generalizing ts with
  | case1 => cases h; rfl
  | case2 t _ tok rest found ih =>
    obtain ⟨us, later, rfl⟩ := Option.map_eq_some_iff.1 h
    rw [item_of_readItem? found, ih later, List.flatMap_cons, List.append_assoc]
  | case3 => cases h

/-- The expressions that are read are those that are written for tokens. -/
theorem read?_eq_some_iff {t : Text} {ts : List Token} :
    read? t = some ts ↔ t = '^' :: ts.flatMap item ++ ['$'] := by
  constructor
  · intro h
    unfold read? at h
    split at h
    · next rest => rw [flatMap_of_readItems? h, List.cons_append]
    · cases h
  · rintro rfl
    exact readItems?_flatMap ts

/-- Segments have the same expression exactly if they have the same tokens. -/
theorem ofSegment_inj {w v : Text} : ofSegment w = ofSegment v ↔ Token.scan w = Token.scan v := by
  constructor
  · intro same
    have read := congrArg read? same
    rwa [read?_ofSegment, read?_ofSegment, Option.some_inj] at read
  · intro same
    rw [ofSegment_eq, ofSegment_eq, same]

end Expression

namespace Engine

open Expression

variable {Program : Type} {engine : Engine Program}

/-- The engine takes every expression of the written form, within the limits that come with it. -/
def TakesWrittenForm (engine : Engine Program) : Prop :=
  ∀ expression ts, read? expression = some ts →
    ∃ program, engine.build expression = .ok program

theorem compile?_of_takes (takes : engine.TakesWrittenForm) (raw : Text) :
    ∃ p, engine.compile? raw = .ok p := by
  unfold compile?
  split
  · exact ⟨_, rfl⟩
  · next lead segment trail _ =>
    split
    · exact ⟨_, rfl⟩
    · split
      · exact ⟨_, rfl⟩
      · obtain ⟨program, built⟩ := takes _ _ (read?_ofSegment segment)
        rw [built]
        exact ⟨_, rfl⟩

theorem takes_reading : reading.TakesWrittenForm := by
  intro expression ts found
  refine ⟨ts, ?_⟩
  rw [build, reading, found]

/-- Every text is written as an expression: anchors, and between them one item for each token, a
group for a wildcard and the character itself for a literal, behind a backslash if it would be an
operator. The expression says just this. Its only operators are those of the anchors and groups, it
captures once for each wildcard, and it reads as the tokens it was written for, so different tokens
are written differently. The written form is all that can be read. An engine that takes it therefore
rejects no pattern, and neither does the search of this library. -/
theorem written_form (takes : engine.TakesWrittenForm) :
    (∀ w, ∃ ts, (∀ us, Token.Reads w us ↔ us = ts) ∧
      ofSegment w = '^' :: ts.flatMap item ++ ['$'] ∧
      read? (ofSegment w) = some ts ∧
      symbols (ofSegment w) = .operator '^' :: ts.flatMap meant ++ [.operator '$'] ∧
      captureGroups (symbols (ofSegment w)) = Token.wildcards ts) ∧
    (item .one = "([^/]*)".toList ∧ item .many = "((?s:.*))".toList ∧
      ∀ c, item (.lit c) =
        (if c ∈ "\\.+*?()|[]\x7b\x7d^$#&-~".toList then ['\\', c] else [c]) ∧
        meant (.lit c) = [.literal c]) ∧
    (∀ t ts, read? t = some ts ↔ t = '^' :: ts.flatMap item ++ ['$']) ∧
    (∀ w v, ofSegment w = ofSegment v ↔ Token.scan w = Token.scan v) ∧
    (∀ raw, (∃ p, engine.compile? raw = .ok p) ∧ ∃ p, engine.compile raw = .ok p) ∧
    ∀ raw, ∃ p, Pattern.compile? raw = .ok p := by
  refine ⟨fun w => ?_, ⟨rfl, rfl, fun c => ⟨?_, rfl⟩⟩, fun t ts => read?_eq_some_iff,
    fun w v => ofSegment_inj, fun raw => ?_, fun raw => ?_⟩
  · exact ⟨Token.scan w, fun us => Token.reads_iff, ofSegment_eq w, read?_ofSegment w,
      symbols_ofSegment w, captureGroups_ofSegment w⟩
  · exact literal_eq c
  · obtain ⟨p, compiled⟩ := compile?_of_takes takes raw
    refine ⟨⟨p, compiled⟩, p, ?_⟩
    rw [compile, compiled]
  · obtain ⟨p, compiled⟩ := compile?_of_takes takes_reading raw
    exact ⟨p.toPattern, by rw [← compile?_reading, compiled]; rfl⟩

/-- An engine that reads expressions takes a pattern full of operators, and its expression. -/
theorem written_form_reading :
    reading.TakesWrittenForm ∧
      read? "^([^/]*)\\(\\*\\\\\\+$".toList =
        some [.one, .lit '(', .lit '*', .lit '\\', .lit '+'] ∧
      ∃ p, reading.compile "*(\\*\\+".toList = .ok p := by
  exact ⟨takes_reading, ((written_form takes_reading).2.2.1 _ _).2 (by decide),
    ((written_form takes_reading).2.2.2.2.1 _).2⟩

end Engine

end PathGlob
