import PathGlob.CommandLine
import PathGlob.Matching
import PathGlob.Sink

namespace PathGlob

namespace Report

def statusMatched : Nat := 0

def statusUnmatched : Nat := 1

def statusFailed : Nat := 2

def exitStatus : Except Error Bool → Nat
  | .ok true => statusMatched
  | .ok false => statusUnmatched
  | .error _ => statusFailed

def joined (separator : Text) (values : List Text) : Text :=
  (values.intersperse separator).flatten

theorem joined_cons (separator first : Text) (rest : List Text) :
    joined separator (first :: rest) = first ++ rest.flatMap (separator ++ ·) := by
  induction rest generalizing first with
  | nil => simp [joined]
  | cons second rest ih =>
    have := ih second
    simp only [joined] at this ⊢
    simp [this]

/-- The line of a match, without its end. -/
def line (o : Options) (found : Captures) : Text :=
  match o.template with
  | some template => Template.expand template found
  | none => joined o.separator found.items

variable {σ : Type} [Writer σ]

/-- The state between candidates: the cache, where output goes, and whether all candidates matched
so far. -/
structure State (σ : Type) where
  cache : Cache
  out : σ
  all : Bool

/-- Matches candidates in order, up to the first failed write. -/
def each (o : Options) (s : State σ) : List Text → Logged (Except Error Bool × σ)
  | [] => return (.ok s.all, s.out)
  | candidate :: rest => do
    match ← s.cache.captures o.pattern candidate with
    | (none, cache) =>
      Logged.report (.unmatched candidate o.pattern)
      each o { s with cache, all := false } rest
    | (some found, cache) =>
      match Writer.writeLine s.out (line o found) with
      | (.error reason, out) => return (.error (.output reason), out)
      | (.ok (), out) => each o { s with cache, out } rest

/-- Flushes the output of a run that got to its end. -/
def finish : Except Error Bool × σ → Except Error Bool × σ
  | (.error e, out) => (.error e, out)
  | (.ok all, out) =>
    match Writer.flush out with
    | (.error reason, out) => (.error (.output reason), out)
    | (.ok (), out) => (.ok all, out)

/-- Matches all candidates of a command line with a new cache. The outcome tells whether every
candidate matched. -/
def run (o : Options) (settings : Settings) (out : σ) : Logged (Except Error Bool × σ) := do
  match ← Cache.ofSettings settings with
  | .error e => return (.error e, out)
  | .ok cache =>
    let written ← each o ⟨cache, out, true⟩ o.candidates
    return finish written

end Report

end PathGlob
