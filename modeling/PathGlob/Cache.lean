import PathGlob.Event

/-!
# Pattern caches

A cache keeps the compiled form of every pattern that was requested since it was last cleared, and
counts how often it compiled one. What it hands out is the kept object itself, numbered by the
compilation that made it, so that two handles can be told apart. `value_get` says what a request
comes to.
-/

namespace PathGlob

/-- A compiled pattern as one object of a cache. -/
structure Shared where
  serial : Nat
  pattern : Pattern
  deriving DecidableEq, Repr

/-- The patterns kept, under the texts they were requested by, and the compilations so far. -/
structure Cache where
  entries : List (Text × Shared)
  compilations : Nat
  deriving Repr

namespace Cache

def empty : Cache :=
  ⟨[], 0⟩

def find? (c : Cache) (raw : Text) : Option Shared :=
  (c.entries.find? (·.1 == raw)).map (·.2)

def contains (c : Cache) (raw : Text) : Bool :=
  (c.find? raw).isSome

def size (c : Cache) : Nat :=
  c.entries.length

def isEmpty (c : Cache) : Bool :=
  c.entries.isEmpty

def keep (c : Cache) (raw : Text) (p : Pattern) : Shared × Cache :=
  let shared : Shared := ⟨c.compilations, p⟩
  (shared, ⟨(raw, shared) :: c.entries, c.compilations + 1⟩)

def get (c : Cache) (raw : Text) : Logged (Shared × Cache) :=
  match c.find? raw with
  | some shared => pure (shared, c)
  | none => do
    Logged.reportAll (Pattern.compileEvents raw)
    let p := Pattern.compile raw
    Logged.report (.compiled raw p.kind)
    return c.keep raw p

/-- The object for a pattern, compiled now if it is not kept. A failed compilation leaves the cache
as it was. -/
def tryGet (c : Cache) (raw : Text) : Logged (Except CompileError Shared × Cache) :=
  match c.find? raw with
  | some shared => pure (.ok shared, c)
  | none => do
    Logged.reportAll (Pattern.compileEvents raw)
    match Pattern.compile? raw with
    | .error e => return (.error e, c)
    | .ok p =>
      Logged.report (.compiled raw p.kind)
      let (shared, c) := c.keep raw p
      return (.ok shared, c)

/-- Forgets every pattern. Compilations stay counted, and objects handed out stay usable. -/
def clear (c : Cache) : Logged Cache := do
  Logged.report .cacheCleared
  return { c with entries := [] }

theorem find?_keep (c : Cache) (raw : Text) (p : Pattern) (other : Text) :
    (c.keep raw p).2.find? other =
      if raw = other then some (c.keep raw p).1 else c.find? other := by
  by_cases h : raw = other <;> simp [keep, find?, h]

@[simp] theorem size_keep (c : Cache) (raw : Text) (p : Pattern) :
    (c.keep raw p).2.size = c.size + 1 := by
  simp [keep, size]

@[simp] theorem compilations_keep (c : Cache) (raw : Text) (p : Pattern) :
    (c.keep raw p).2.compilations = c.compilations + 1 := rfl

/-- A request either finds its pattern or keeps its compiled form. -/
theorem value_get (c : Cache) (raw : Text) :
    (c.get raw).value = match c.find? raw with
      | some shared => (shared, c)
      | none => c.keep raw (Pattern.compile raw) := by
  unfold get
  cases c.find? raw <;> rfl

@[simp] theorem find?_clear (c : Cache) (raw : Text) : c.clear.value.find? raw = none := rfl

@[simp] theorem size_clear (c : Cache) : c.clear.value.size = 0 := rfl

@[simp] theorem compilations_clear (c : Cache) :
    c.clear.value.compilations = c.compilations := rfl

/-- Since every pattern compiles, asking with and without a guard comes to the same. -/
theorem tryGet_eq (c : Cache) (raw : Text) :
    (c.tryGet raw).value = (.ok (c.get raw).value.1, (c.get raw).value.2) := by
  unfold tryGet get
  cases c.find? raw with
  | some shared => rfl
  | none => simp [Pattern.compile?_eq_ok]

end Cache

end PathGlob
