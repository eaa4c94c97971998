import PathGlob.Captures
import PathGlob.Expression
import PathGlob.Search
import PathGlob.Segment
import PathGlob.Text.Quoted

/-!
# Patterns

A compiled pattern keeps the literal text around its wildcard segment apart, so that most
candidates are decided by looking at their ends. A segment that is one `*` or one `**` needs no
search; any other segment is written as an expression, and the search runs on what that expression
reads as. `compile?_eq_ok` says that every text compiles.
-/

namespace PathGlob

/-- Why an expression was rejected. -/
inductive ExpressionFault where
  | malformed (text : String)
  | tooLarge (limit : Nat)
  deriving DecidableEq, Repr

def ExpressionFault.message : ExpressionFault → String
  | .malformed text => text
  | .tooLarge limit => s!"Compiled regex exceeds size limit of {limit} bytes."

/-- The expression of a pattern was rejected. -/
structure CompileError where
  pattern : Text
  fault : ExpressionFault
  deriving DecidableEq, Repr

def CompileError.message (e : CompileError) : String :=
  s!"pattern {e.pattern.quoted} produced an invalid expression: {e.fault.message}"

/-- How the stretch between the literal ends of a pattern is matched. -/
inductive Core where
  | constant
  | one
  | many
  | tokens (ts : List Token)
  deriving DecidableEq, Repr

/-- The four classes of patterns. -/
inductive Kind where
  | constant
  | singleStar
  | doubleStar
  | complex
  deriving DecidableEq, Repr

def Kind.name : Kind → String
  | .constant => "Constant"
  | .singleStar => "SingleStar"
  | .doubleStar => "DoubleStar"
  | .complex => "Complex"

/-- A compiled pattern. -/
structure Pattern where
  raw : Text
  lead : Text
  trail : Text
  core : Core
  deriving DecidableEq, Repr

namespace Pattern

/-- Compiles a pattern, unless the expression of its segment is rejected. -/
def compile? (raw : Text) : Except CompileError Pattern :=
  match Split.ofPattern? raw with
  | none => .ok ⟨raw, raw, [], .constant⟩
  | some ⟨lead, segment, trail⟩ =>
    if segment = ['*'] then .ok ⟨raw, lead, trail, .one⟩
    else if segment = ['*', '*'] then .ok ⟨raw, lead, trail, .many⟩
    else
      match Expression.read? (Expression.ofSegment segment) with
      | some ts => .ok ⟨raw, lead, trail, .tokens ts⟩
      | none => .error ⟨raw, .malformed "not an expression"⟩

theorem compile?_isOk (raw : Text) : (compile? raw).isOk = true := by
  unfold compile?
  split
  · rfl
  · split
    · rfl
    · split
      · rfl
      · rw [Expression.read?_ofSegment]; rfl

def compile (raw : Text) : Pattern :=
  match h : compile? raw with
  | .ok p => p
  | .error _ => absurd (compile?_isOk raw) (by rw [h]; exact Bool.false_ne_true)

theorem compile?_eq_ok (raw : Text) : compile? raw = .ok (compile raw) := by
  unfold compile
  split
  · assumption
  · next e h => exact absurd (compile?_isOk raw) (by rw [h]; exact Bool.false_ne_true)

theorem raw_compile (raw : Text) : (compile raw).raw = raw := by
  have compiled := compile?_eq_ok raw
  unfold compile? at compiled
  split at compiled
  · rw [← Except.ok.inj compiled]
  · split at compiled
    · rw [← Except.ok.inj compiled]
    · split at compiled
      · rw [← Except.ok.inj compiled]
      · split at compiled
        · rw [← Except.ok.inj compiled]
        · cases compiled

def kind (p : Pattern) : Kind :=
  match p.core with
  | .constant => .constant
  | .one => .singleStar
  | .many => .doubleStar
  | .tokens _ => .complex

/-- The bytes of the literal ends: no shorter text can match. -/
def minLength (p : Pattern) : Nat :=
  p.lead.byteSize + p.trail.byteSize

/-- What stands between the literal ends of a text, if it has them and they do not overlap. -/
def between? (p : Pattern) (t : Text) : Option Text :=
  if t.byteSize < p.minLength then none
  else (Text.after? p.lead t).bind (Text.before? p.trail)

/-- The length never rules out a text that has both ends. -/
theorem between?_eq_some_iff {p : Pattern} {t inner : Text} :
    p.between? t = some inner ↔ t = p.lead ++ inner ++ p.trail := by
  unfold between? minLength
  constructor
  · intro h
    split at h
    · cases h
    · obtain ⟨rest, hrest, hinner⟩ := Option.bind_eq_some_iff.1 h
      rw [Text.after?_eq_some_iff.1 hrest, Text.before?_eq_some_iff.1 hinner, List.append_assoc]
  · rintro rfl
    rw [if_neg (by simp), List.append_assoc, Text.after?_append]
    exact Text.before?_append _ _

def isSingleSegment (t : Text) : Bool :=
  !t.contains Token.separator

def captures (p : Pattern) (t : Text) : Option Captures :=
  match p.between? t with
  | none => none
  | some inner =>
    match p.core with
    | .constant => if inner.isEmpty then some ⟨t, []⟩ else none
    | .one => if isSingleSegment inner then some ⟨t, [inner]⟩ else none
    | .many => some ⟨t, [inner]⟩
    | .tokens ts => (Search.groups? ts inner).map (⟨t, ·⟩)

def isMatch (p : Pattern) (t : Text) : Bool :=
  match p.between? t with
  | none => false
  | some inner =>
    match p.core with
    | .constant => inner.isEmpty
    | .one => isSingleSegment inner
    | .many => true
    | .tokens ts => Search.spells ts inner

/-- Two patterns are the same when they were compiled from the same text. -/
def same (p q : Pattern) : Bool :=
  p.raw == q.raw

end Pattern

end PathGlob
