import PathGlob.Matching

namespace PathGlob

/-- A compiled pattern as one object among all caches of a pool. -/
structure Handle where
  cache : Nat
  shared : Shared
  deriving DecidableEq, Repr

def Handle.sameObject (a b : Handle) : Bool :=
  a.cache == b.cache && a.shared.serial == b.shared.serial

/-- The caches in the order of their making, the cache of each matcher and the handles kept, the
latest first. -/
structure Pool where
  caches : List Cache
  matchers : List (Text × Nat)
  kept : List (Text × Handle)
  deriving Repr

namespace Pool

/-- A request to one matcher. -/
inductive Request where
  | captures (raw candidate : Text)
  | isMatch (raw candidate : Text)
  | expand (raw candidate template : Text)
  | pattern (raw : Text) (name : Option Text)
  | contains (raw : Text)
  | clear
  deriving DecidableEq, Repr

/-- A step of a run over named matchers. -/
inductive Step where
  /-- Makes a matcher with a cache of its own. -/
  | create (name : Text)
  /-- Makes a matcher with a cache of its own that starts with the patterns of some settings. -/
  | configure (name : Text) (settings : Settings)
  /-- Makes a matcher that shares the cache of another one. A name that is used again only changes
  what it stands for. -/
  | share (name source : Text)
  /-- Puts a request to a matcher. -/
  | ask (name : Text) (request : Request)
  /-- Asks whether two matchers share a cache. -/
  | sharesCache (a b : Text)
  /-- Asks whether two kept handles are the same object. -/
  | sameObject (a b : Text)
  deriving DecidableEq, Repr

/-- What a step answers. -/
inductive Answer where
  | done
  | failed (e : Error)
  | captures (found : Option Captures)
  | flag (b : Bool)
  | rendered (found : Option Text)
  | pattern (p : Pattern)
  | unknownName
  deriving Repr

def empty : Pool :=
  ⟨[], [], []⟩

/-- The cache of a matcher, by its number. -/
def cacheId? (p : Pool) (name : Text) : Option Nat :=
  (p.matchers.find? (·.1 == name)).map (·.2)

def cache? (p : Pool) (name : Text) : Option Cache :=
  (p.cacheId? name).bind (p.caches[·]?)

def handle? (p : Pool) (name : Text) : Option Handle :=
  (p.kept.find? (·.1 == name)).map (·.2)

def bindNew (p : Pool) (name : Text) (cache : Cache) : Pool :=
  { p with caches := p.caches ++ [cache], matchers := (name, p.caches.length) :: p.matchers }

def setCache (p : Pool) (id : Nat) (cache : Cache) : Pool :=
  { p with caches := p.caches.set id cache }

def keep (p : Pool) (name : Option Text) (h : Handle) : Pool :=
  match name with
  | some n => { p with kept := (n, h) :: p.kept }
  | none => p

def answer (p : Pool) (id : Nat) (cache : Cache) : Request → Logged (Answer × Pool)
  | .captures raw candidate => do
    let (found, cache) ← cache.captures raw candidate
    return (.captures found, p.setCache id cache)
  | .isMatch raw candidate => do
    let (found, cache) ← cache.isMatch raw candidate
    return (.flag found, p.setCache id cache)
  | .expand raw candidate template => do
    let (found, cache) ← cache.expand raw candidate template
    return (.rendered found, p.setCache id cache)
  | .pattern raw name => do
    let (shared, cache) ← cache.get raw
    return (.pattern shared.pattern, (p.setCache id cache).keep name ⟨id, shared⟩)
  | .contains raw => return (.flag (cache.contains raw), p)
  | .clear => do
    let cache ← cache.clear
    return (.done, p.setCache id cache)

def step (p : Pool) : Step → Logged (Answer × Pool)
  | .create name => return (.done, p.bindNew name Cache.empty)
  | .configure name settings => do
    match ← Cache.ofSettings settings with
    | .ok cache => return (.done, p.bindNew name cache)
    | .error e => return (.failed e, p)
  | .share name source =>
    match p.cacheId? source with
    | some id => return (.done, { p with matchers := (name, id) :: p.matchers })
    | none => return (.unknownName, p)
  | .ask name request =>
    match p.cacheId? name with
    | none => return (.unknownName, p)
    | some id =>
      match p.caches[id]? with
      | some cache => p.answer id cache request
      | none => return (.unknownName, p)
  | .sharesCache a b =>
    match p.cacheId? a, p.cacheId? b with
    | some i, some j => return (.flag (i == j), p)
    | _, _ => return (.unknownName, p)
  | .sameObject a b =>
    match p.handle? a, p.handle? b with
    | some x, some y => return (.flag (x.sameObject y), p)
    | _, _ => return (.unknownName, p)

/-- Carries out steps in order; each answer comes with the pool after it. -/
def run (p : Pool) : List Step → Logged (List (Answer × Pool) × Pool)
  | [] => return ([], p)
  | s :: rest => do
    let (answer, p) ← p.step s
    let (answers, last) ← p.run rest
    return ((answer, p) :: answers, last)

end Pool

end PathGlob
