import PathGlob.Cache

namespace PathGlob

/-- A cache and the patterns kept from it, the latest first. -/
structure Shelf where
  cache : Cache
  kept : List (Text × Shared)
  deriving Repr

namespace Shelf

/-- A request to a cache or about kept patterns. -/
inductive Step where
  | get (raw : Text) (name : Option Text)
  | tryGet (raw : Text) (name : Option Text)
  | contains (raw : Text)
  | isEmpty
  | clear
  | same (a b : Text)
  | equal (a b : Text)
  | captures (name candidate : Text)
  deriving DecidableEq, Repr

/-- What a request answers. -/
inductive Answer where
  | kind (k : Kind)
  | failed (e : CompileError)
  | flag (b : Bool)
  | done
  | captures (found : Option Captures)
  | unknownName
  deriving DecidableEq, Repr

def empty : Shelf :=
  ⟨Cache.empty, []⟩

def find? (s : Shelf) (name : Text) : Option Shared :=
  (s.kept.find? (·.1 == name)).map (·.2)

def keep (s : Shelf) (name : Option Text) (shared : Shared) : Shelf :=
  match name with
  | some n => { s with kept := (n, shared) :: s.kept }
  | none => s

def compare (s : Shelf) (a b : Text) (test : Shared → Shared → Bool) : Answer :=
  match s.find? a, s.find? b with
  | some x, some y => .flag (test x y)
  | _, _ => .unknownName

def step (s : Shelf) : Step → Logged (Answer × Shelf)
  | .get raw name => do
    let (shared, cache) ← s.cache.get raw
    return (.kind shared.pattern.kind, { s with cache }.keep name shared)
  | .tryGet raw name => do
    match ← s.cache.tryGet raw with
    | (.ok shared, cache) => return (.kind shared.pattern.kind, { s with cache }.keep name shared)
    | (.error e, cache) => return (.failed e, { s with cache })
  | .contains raw => return (.flag (s.cache.contains raw), s)
  | .isEmpty => return (.flag s.cache.isEmpty, s)
  | .clear => do
    let cache ← s.cache.clear
    return (.done, { s with cache })
  | .same a b => return (s.compare a b fun x y => x.serial == y.serial, s)
  | .equal a b => return (s.compare a b fun x y => x.pattern.same y.pattern, s)
  | .captures name candidate =>
    match s.find? name with
    | some shared => return (.captures (shared.pattern.captures candidate), s)
    | none => return (.unknownName, s)

/-- Carries out requests in order; each answer comes with the cache after it. -/
def run (s : Shelf) : List Step → Logged (List (Answer × Cache) × Shelf)
  | [] => return ([], s)
  | r :: rest => do
    let (answer, s) ← s.step r
    let (answers, last) ← s.run rest
    return ((answer, s.cache) :: answers, last)

end Shelf

end PathGlob
