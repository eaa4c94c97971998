import Mathlib.Data.List.Induction
import PathGlob.Proofs.Transparency

/-!
# Where caches come from

A matcher descends from the step that made its cache, however many names lie between. `origin?`
finds that step in the steps of a run, and `history` collects what was done, through all the names
there were, to the cache it made. Both know nothing of pools, and a pool follows them: two matchers
are on one cache if and only if they have one origin, and a cache is what its history makes of it
(`Follows`, `cache?_after`).
-/

namespace PathGlob.Pool

open Cache (Operation)

/-- Whether a step makes a cache. -/
def Step.makes : Step → Bool
  | .create _ | .configure .. => true
  | .share .. | .ask .. | .sharesCache .. | .sameObject .. => false

/-- The creating step that a name descends from, by its position. The steps are given the latest
first. -/
def originOf : List Step → Text → Option Nat
  | [], _ => none
  | s :: before, name =>
    match s with
    | .create new | .configure new _ =>
      if new = name then some before.length else originOf before name
    | .share new source =>
      if new = name then (originOf before source).or (originOf before name)
      else originOf before name
    | .ask .. | .sharesCache .. | .sameObject .. => originOf before name

/-- The position of the creating step that a name descends from after some steps. -/
def origin? (steps : List Step) (name : Text) : Option Nat :=
  originOf steps.reverse name

/-- What a step does to the cache made at a position. -/
def put (before : List Step) (s : Step) (i : Nat) : List Operation :=
  match s with
  | .configure _ settings => if before.length = i then [.preload settings.preload] else []
  | .ask name request => if origin? before name = some i then [request.operation] else []
  | .create _ | .share .. | .sharesCache .. | .sameObject .. => []

/-- What further steps do to the cache made at a position. -/
def historyFrom (before : List Step) : List Step → Nat → List Operation
  | [], _ => []
  | s :: steps, i => put before s i ++ historyFrom (before ++ [s]) steps i

/-- What is in the cache made at a position after some steps. -/
def contents (steps : List Step) (i : Nat) : Cache :=
  (historyFrom [] steps i).foldl Cache.perform Cache.empty

/-- The pool after some steps. -/
def after (steps : List Step) : Pool :=
  (empty.run steps).value.2

/-- The number of the cache made at a position. -/
def number (steps : List Step) (i : Nat) : Nat :=
  (steps.take i).countP Step.makes

theorem after_append (steps later : List Step) :
    after (steps ++ later) = ((after steps).run later).value.2 := by
  rw [after, run_append, after]

theorem after_concat (steps : List Step) (s : Step) :
    after (steps ++ [s]) = ((after steps).step s).value.2 := by
  rw [after_append, run_cons]
  rfl

/-! ### Origins -/

theorem origin?_concat (steps : List Step) (s : Step) (name : Text) :
    origin? (steps ++ [s]) name =
      match s with
      | .create new | .configure new _ =>
        if new = name then some steps.length else origin? steps name
      | .share new source =>
        if new = name then (origin? steps source).or (origin? steps name) else origin? steps name
      | .ask .. | .sharesCache .. | .sameObject .. => origin? steps name := by
  rw [origin?, List.reverse_concat]
  cases s <;> simp [originOf, origin?]

example : origin? [.create ['a'], .share ['b'] ['a'], .create ['a']] ['b'] = some 0 := rfl

/-- An origin is a creating step. -/
theorem makes_of_origin? {steps : List Step} {name : Text} {i : Nat}
    (h : origin? steps name = some i) : ∃ s, steps[i]? = some s ∧ s.makes = true := by
  induction steps using List.reverseRecOn generalizing name with
  | nil => cases h
  | append_singleton steps s ih =>
    have earlier : ∀ {name}, origin? steps name = some i →
        ∃ s', (steps ++ [s])[i]? = some s' ∧ s'.makes = true := by
      intro name h
      obtain ⟨s', found, makes⟩ := ih h
      exact ⟨s', by rw [List.getElem?_append_left (List.getElem?_eq_some_iff.1 found).1, found],
        makes⟩
    rw [origin?_concat] at h
    cases s with
    | create | configure =>
      dsimp only at h
      split at h
      · cases h
        exact ⟨_, List.getElem?_concat_length, rfl⟩
      · exact earlier h
    | share new source =>
      dsimp only at h
      split at h
      · rcases Option.or_eq_some_iff.1 h with h | ⟨-, h⟩ <;> exact earlier h
      · exact earlier h
    | ask | sharesCache | sameObject => exact earlier h

theorem origin?_lt {steps : List Step} {name : Text} {i : Nat}
    (h : origin? steps name = some i) : i < steps.length := by
  obtain ⟨s, found, -⟩ := makes_of_origin? h
  exact (List.getElem?_eq_some_iff.1 found).1

/-! ### Histories -/

theorem historyFrom_append (before steps later : List Step) (i : Nat) :
    historyFrom before (steps ++ later) i =
      historyFrom before steps i ++ historyFrom (before ++ steps) later i := by
  induction steps generalizing before with
  | nil => simp [historyFrom]
  | cons s steps ih => simp [historyFrom, ih]

theorem contents_concat (steps : List Step) (s : Step) (i : Nat) :
    contents (steps ++ [s]) i = (put steps s i).foldl Cache.perform (contents steps i) := by
  simp [contents, historyFrom_append, historyFrom]

theorem mem_historyFrom {before steps : List Step} {i : Nat} {op : Operation} :
    op ∈ historyFrom before steps i ↔
      ∃ q s, steps[q]? = some s ∧ op ∈ put (before ++ steps.take q) s i := by
  induction steps generalizing before with
  | nil => simp [historyFrom]
  | cons s steps ih =>
    rw [historyFrom, List.mem_append, ih]
    constructor
    · rintro (now | ⟨q, s', found, mem⟩)
      · exact ⟨0, s, rfl, by simpa using now⟩
      · exact ⟨q + 1, s', found, by simpa using mem⟩
    · rintro ⟨_ | q, s', found, mem⟩
      · cases found
        exact .inl (by simpa using mem)
      · exact .inr ⟨q, s', found, by simpa using mem⟩

/-- Nothing was done to a cache before it was made. -/
theorem contents_length (steps : List Step) : contents steps steps.length = Cache.empty := by
  have none : historyFrom [] steps steps.length = [] := by
    refine List.eq_nil_iff_forall_not_mem.2 fun op mem => ?_
    obtain ⟨q, s, found, mem⟩ := mem_historyFrom.1 mem
    have bound := (List.getElem?_eq_some_iff.1 found).1
    have length : (steps.take q).length = q := List.length_take_of_le (Nat.le_of_lt bound)
    cases s with
    | configure name settings =>
      simp only [put, List.nil_append, length] at mem
      rw [if_neg (Nat.ne_of_lt bound)] at mem
      cases mem
    | ask name request =>
      simp only [put, List.nil_append] at mem
      split at mem
      · next same =>
        have := origin?_lt same
        omega
      · cases mem
    | create | share | sharesCache | sameObject => cases mem
  rw [contents, none]
  rfl

/-! ### Numbers -/

theorem number_append (steps later : List Step) {i : Nat} (h : i ≤ steps.length) :
    number (steps ++ later) i = number steps i := by
  rw [number, List.take_append_of_le_length h, number]

theorem number_length (steps : List Step) :
    number steps steps.length = steps.countP Step.makes := by
  rw [number, List.take_length]

theorem number_lt {steps : List Step} {i j : Nat} {s : Step} (found : steps[i]? = some s)
    (makes : s.makes = true) (h : i < j) : number steps i < number steps j := by
  have next : number steps (i + 1) = number steps i + 1 := by
    rw [number, List.take_add_one, found, List.countP_append, number]
    simp [makes]
  have grown : number steps (i + 1) ≤ number steps j :=
    (List.take_sublist_take_left h).countP_le
  omega

/-- No two creating steps make the same cache. -/
theorem number_eq_iff {steps : List Step} {i j : Nat} {s s' : Step}
    (found : steps[i]? = some s) (makes : s.makes = true)
    (found' : steps[j]? = some s') (makes' : s'.makes = true) :
    number steps i = number steps j ↔ i = j := by
  constructor
  · intro same
    rcases Nat.lt_trichotomy i j with h | h | h
    · exact absurd same (Nat.ne_of_lt (number_lt found makes h))
    · exact h
    · exact absurd same (Nat.ne_of_gt (number_lt found' makes' h))
  · rintro rfl
    rfl

/-! ### Pools -/

/-- A pool has the caches that some steps made, each with what was done to it, and its matchers are
on the caches they descend from. -/
structure Follows (p : Pool) (steps : List Step) : Prop where
  made : p.caches.length = steps.countP Step.makes
  matchers : ∀ name, p.cacheId? name = (origin? steps name).map (number steps)
  caches : ∀ i s, steps[i]? = some s → s.makes = true →
    p.caches[number steps i]? = some (contents steps i)

namespace Follows

variable {p : Pool} {steps : List Step}

theorem origin_of_cacheId? (h : Follows p steps) {name : Text} {id : Nat}
    (found : p.cacheId? name = some id) :
    ∃ i, origin? steps name = some i ∧ number steps i = id := by
  rw [h.matchers] at found
  exact Option.map_eq_some_iff.1 found

theorem cache_of_origin? (h : Follows p steps) {name : Text} {i : Nat}
    (found : origin? steps name = some i) :
    p.cacheId? name = some (number steps i) ∧
      p.caches[number steps i]? = some (contents steps i) := by
  obtain ⟨s, here, makes⟩ := makes_of_origin? found
  exact ⟨by rw [h.matchers, found]; rfl, h.caches i s here makes⟩

/-- Matchers are on one cache exactly when they have one origin. -/
theorem cacheId?_eq_iff (h : Follows p steps) {a b : Text} {i j : Nat}
    (ha : origin? steps a = some i) (hb : origin? steps b = some j) :
    p.cacheId? a = p.cacheId? b ↔ i = j := by
  obtain ⟨s, found, makes⟩ := makes_of_origin? ha
  obtain ⟨s', found', makes'⟩ := makes_of_origin? hb
  rw [h.matchers, h.matchers, ha, hb, Option.map_some, Option.map_some, Option.some.injEq]
  exact number_eq_iff found makes found' makes'

/-- A new cache is under the number of the step that makes it. -/
theorem bindNew (h : Follows p steps) {s : Step} {name : Text} {c : Cache} (makes : s.makes = true)
    (origins : ∀ other, origin? (steps ++ [s]) other =
      if name = other then some steps.length else origin? steps other)
    (new : contents (steps ++ [s]) steps.length = c)
    (old : ∀ i < steps.length, contents (steps ++ [s]) i = contents steps i) :
    Follows (p.bindNew name c) (steps ++ [s]) := by
  constructor
  · simp [Pool.bindNew, h.made, makes]
  · intro other
    rw [origins]
    split
    · next same =>
      rw [Option.map_some, number_append steps [s] (Nat.le_refl _), number_length, ← h.made]
      simp [Pool.bindNew, cacheId?, same]
    · next different =>
      have : (p.bindNew name c).cacheId? other = p.cacheId? other := by
        simp [Pool.bindNew, cacheId?, different]
      rw [this, h.matchers]
      refine Option.map_congr fun i found => ?_
      rw [number_append steps [s] (Nat.le_of_lt (origin?_lt found))]
  · intro i s' found makes'
    rcases Nat.lt_or_ge i steps.length with below | above
    · rw [List.getElem?_append_left below] at found
      have held := h.caches i s' found makes'
      rw [number_append steps [s] (Nat.le_of_lt below), old i below, Pool.bindNew,
        List.getElem?_append_left (List.getElem?_eq_some_iff.1 held).1, held]
    · have bound := (List.getElem?_eq_some_iff.1 found).1
      obtain rfl : i = steps.length := by
        rw [List.length_append, List.length_singleton] at bound
        omega
      rw [number_append steps [s] (Nat.le_refl _), number_length, ← h.made, new, Pool.bindNew,
        List.getElem?_concat_length]

/-- A step that makes no cache leaves as many as there were, under the same numbers. -/
theorem keep (h : Follows p steps) {q : Pool} {s : Step} (makes : s.makes = false)
    (length : q.caches.length = p.caches.length)
    (matchers : ∀ name, q.cacheId? name = (origin? (steps ++ [s]) name).map (number steps))
    (caches : ∀ i s', steps[i]? = some s' → s'.makes = true →
      q.caches[number steps i]? = some (contents (steps ++ [s]) i)) :
    Follows q (steps ++ [s]) := by
  have earlier : ∀ {i s'}, (steps ++ [s])[i]? = some s' → s'.makes = true →
      i < steps.length ∧ steps[i]? = some s' := by
    intro i s' found makes'
    rcases Nat.lt_or_ge i steps.length with below | above
    · exact ⟨below, by rwa [List.getElem?_append_left below] at found⟩
    · rw [List.getElem?_append_right above, List.getElem?_singleton] at found
      split at found
      · cases found
        rw [makes] at makes'
        cases makes'
      · cases found
  constructor
  · simp [length, h.made, makes]
  · intro name
    rw [matchers]
    refine Option.map_congr fun i found => ?_
    obtain ⟨s', found, makes'⟩ := makes_of_origin? found
    rw [number_append steps [s] (Nat.le_of_lt (earlier found makes').1)]
  · intro i s' found makes'
    obtain ⟨below, found⟩ := earlier found makes'
    rw [number_append steps [s] (Nat.le_of_lt below)]
    exact caches i s' found makes'

/-- A step that touches neither matchers nor caches. -/
theorem idle (h : Follows p steps) {s : Step} (makes : s.makes = false)
    (origins : ∀ name, origin? (steps ++ [s]) name = origin? steps name)
    (put : ∀ i, put steps s i = []) : Follows p (steps ++ [s]) := by
  refine h.keep makes rfl (fun name => by rw [origins, h.matchers]) fun i s' found makes' => ?_
  rw [contents_concat, put]
  exact h.caches i s' found makes'

/-- A request is done to the cache of its matcher and to no other. -/
theorem answer (h : Follows p steps) {name : Text} {i : Nat} (origin : origin? steps name = some i)
    (request : Request) :
    Follows (p.answer (number steps i) (contents steps i) request).value.2
      (steps ++ [.ask name request]) := by
  have held := (h.cache_of_origin? origin).2
  obtain ⟨s, found, makes⟩ := makes_of_origin? origin
  rw [pool_answer p held]
  refine h.keep rfl (by simp) (fun other => ?_) fun j s' found' makes' => ?_
  · rw [origin?_concat]
    exact h.matchers other
  · by_cases same : i = j
    · subst same
      rw [contents_concat, put, if_pos origin]
      exact List.getElem?_set_self (List.getElem?_eq_some_iff.1 held).1
    · have apart : number steps i ≠ number steps j :=
        mt (number_eq_iff found makes found' makes').1 same
      have other : origin? steps name ≠ some j := by rwa [origin, Ne, Option.some.injEq]
      rw [contents_concat, put, if_neg other, List.getElem?_set_ne apart]
      exact h.caches j s' found' makes'

end Follows

theorem follows_empty : Follows empty [] :=
  ⟨rfl, fun _ => rfl, fun _ _ found => by cases found⟩

/-- A pool that follows some steps follows one more. -/
theorem Follows.step {p : Pool} {steps : List Step} (h : Follows p steps) (s : Step) :
    Follows (p.step s).value.2 (steps ++ [s]) := by
  cases s with
  | create name =>
    refine h.bindNew rfl (fun other => origin?_concat steps _ other) ?_ fun i _ => ?_
    · rw [contents_concat, contents_length]
      rfl
    · rw [contents_concat]
      rfl
  | configure name settings =>
    have made : (p.step (.configure name settings)).value.2 =
        p.bindNew name (Cache.empty.perform (.preload settings.preload)) := by
      rw [Pool.step, Logged.value_bind, Cache.ofSettings_eq]
      rfl
    rw [made]
    refine h.bindNew rfl (fun other => origin?_concat steps _ other) ?_ fun i below => ?_
    · rw [contents_concat, contents_length, put, if_pos rfl]
      rfl
    · rw [contents_concat, put, if_neg (Nat.ne_of_gt below)]
      rfl
  | share name source =>
    cases origin : origin? steps source with
    | none =>
      have unknown : p.cacheId? source = none := by rw [h.matchers, origin]; rfl
      simp only [Pool.step, unknown]
      refine h.idle rfl (fun other => ?_) fun _ => rfl
      rw [origin?_concat]
      simp [origin]
    | some i =>
      obtain ⟨known, -⟩ := h.cache_of_origin? origin
      simp only [Pool.step, known]
      refine h.keep rfl rfl (fun other => ?_) fun j s' found makes => ?_
      · rw [origin?_concat]
        by_cases same : name = other
        · simp [cacheId?, same, origin]
        · simpa [cacheId?, same] using h.matchers other
      · rw [contents_concat]
        exact h.caches j s' found makes
  | ask name request =>
    cases origin : origin? steps name with
    | none =>
      have unknown : p.cacheId? name = none := by rw [h.matchers, origin]; rfl
      simp only [Pool.step, unknown]
      refine h.idle rfl (fun other => origin?_concat steps _ other) fun i => ?_
      simp [put, origin]
    | some i =>
      obtain ⟨known, held⟩ := h.cache_of_origin? origin
      simp only [Pool.step, known, held]
      exact h.answer origin request
  | sharesCache a b =>
    have same : (p.step (.sharesCache a b)).value.2 = p := by
      simp only [Pool.step]
      split <;> rfl
    rw [same]
    exact h.idle rfl (fun other => origin?_concat steps _ other) fun _ => rfl
  | sameObject a b =>
    have same : (p.step (.sameObject a b)).value.2 = p := by
      simp only [Pool.step]
      split <;> rfl
    rw [same]
    exact h.idle rfl (fun other => origin?_concat steps _ other) fun _ => rfl

theorem follows_after (steps : List Step) : Follows (after steps) steps := by
  induction steps using List.reverseRecOn with
  | nil => exact follows_empty
  | append_singleton steps s ih =>
    rw [after_concat]
    exact ih.step s

/-- A matcher's cache is what was done to it since it was made, through whatever names. -/
theorem cache?_after (steps : List Step) (name : Text) :
    (after steps).cache? name = (origin? steps name).map (contents steps) := by
  have h := follows_after steps
  cases origin : origin? steps name with
  | none => rw [cache?, h.matchers, origin]; rfl
  | some i =>
    obtain ⟨known, held⟩ := h.cache_of_origin? origin
    rw [cache?, known]
    exact held

end PathGlob.Pool
