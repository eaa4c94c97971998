import PathGlob.Pattern

namespace PathGlob

/-- The bytes that an engine may use for a program, and for the automata that it builds while it
searches. -/
structure Limits where
  program : Nat
  automata : Nat
  deriving DecidableEq, Repr

/-- The limits for an expression: so many bytes for each of its own, within what a size can be, and
never less than ten mebibytes. -/
def Limits.of (expression : Text) : Limits :=
  let bytes := Nat.max (Nat.min (expression.byteSize * 4096) (UInt64.size - 1)) 10485760
  ⟨bytes, bytes⟩

/-- An engine makes a program of an expression, unless it rejects the expression. -/
abbrev Engine (Program : Type) :=
  Text → Limits → Except ExpressionFault Program

namespace Engine

variable {Program : Type}

def build (engine : Engine Program) (expression : Text) : Except ExpressionFault Program :=
  engine expression (Limits.of expression)

/-- How the stretch between the literal ends of a pattern is matched with programs of an engine. -/
inductive Core (Program : Type) where
  | constant
  | one
  | many
  | program (p : Program)
  deriving DecidableEq, Repr

/-- A pattern compiled for an engine. -/
structure Compiled (Program : Type) where
  raw : Text
  lead : Text
  trail : Text
  core : Core Program
  deriving DecidableEq, Repr

def compile? (engine : Engine Program) (raw : Text) : Except CompileError (Compiled Program) :=
  match Split.ofPattern? raw with
  | none => .ok ⟨raw, raw, [], .constant⟩
  | some ⟨lead, segment, trail⟩ =>
    if segment = ['*'] then .ok ⟨raw, lead, trail, .one⟩
    else if segment = ['*', '*'] then .ok ⟨raw, lead, trail, .many⟩
    else
      match engine.build (Expression.ofSegment segment) with
      | .ok p => .ok ⟨raw, lead, trail, .program p⟩
      | .error fault => .error ⟨raw, fault⟩

/-- Compiles a pattern that no engine should reject. If it is rejected all the same there is nothing
to go on with, and the wording of the failure is all that is left. -/
def compile (engine : Engine Program) (raw : Text) : Except String (Compiled Program) :=
  match engine.compile? raw with
  | .ok p => .ok p
  | .error e => .error e.message

/-- The engine whose programs are the tokens that an expression reads as. -/
def reading : Engine (List Token) := fun expression _ =>
  match Expression.read? expression with
  | some ts => .ok ts
  | none => .error (.malformed "not an expression")

/-- A pattern compiled for `reading`, as the search of this library takes it. -/
def Compiled.toPattern (p : Compiled (List Token)) : Pattern :=
  ⟨p.raw, p.lead, p.trail,
    match p.core with
    | .constant => .constant
    | .one => .one
    | .many => .many
    | .program ts => .tokens ts⟩

/-- The search of this library is given what `reading` makes of a pattern. -/
theorem compile?_reading (raw : Text) :
    (reading.compile? raw).map Compiled.toPattern = Pattern.compile? raw := by
  unfold compile? Pattern.compile? build reading
  cases Split.ofPattern? raw with
  | none => rfl
  | some s =>
    simp only
    split
    · rfl
    · split
      · rfl
      · cases Expression.read? (Expression.ofSegment s.segment) <;> rfl

end Engine

end PathGlob
