import PathGlob.Proofs.Identity
import PathGlob.Proofs.Origins

/-!
# Sharing caches and objects

Matchers share a cache when they descend from one creating step. What is asked through one of them
all of them see, and nobody else sees anything. The objects handed out along the way are told apart
by three things: the cache, the text, and whether the cache was cleared in between.

`Pool.Follows` reduces this to the history of one cache. `contents_since` cuts that history at a
request, and `Cache.serial_eq_iff` says what comes of a second one.
-/

namespace PathGlob

namespace Pool

open Cache (Operation)

/-- `Asked steps k i request`: step `k` puts a request to a matcher on the cache made at `i`. -/
def Asked (steps : List Step) (k i : Nat) (request : Request) : Prop :=
  ∃ name, steps[k]? = some (.ask name request) ∧ origin? (steps.take k) name = some i

/-- The handle that a step hands out. -/
def handed? (p : Pool) : Step → Option Handle
  | .ask name (.pattern raw _) =>
    (p.cacheId? name).bind fun id => (p.caches[id]?).map fun c => ⟨id, (c.get raw).value.1⟩
  | .create _ | .configure .. | .share .. | .ask .. | .sharesCache .. | .sameObject .. => none

def handleAt (steps : List Step) (k : Nat) : Option Handle :=
  (steps[k]?).bind (after (steps.take k)).handed?

/-- The name that a step keeps its handle under. -/
def slot? (before : List Step) : Step → Option Text
  | .ask name (.pattern _ slot) => if (origin? before name).isSome then slot else none
  | .create _ | .configure .. | .share .. | .ask .. | .sharesCache .. | .sameObject .. => none

/-- The step whose handle is kept under a name, by its position. The steps are given the latest
first. -/
def heldOf : List Step → Text → Option Nat
  | [], _ => none
  | s :: before, name =>
    if slot? before.reverse s = some name then some before.length else heldOf before name

/-- The position of the step whose handle is kept under a name after some steps. -/
def held? (steps : List Step) (name : Text) : Option Nat :=
  heldOf steps.reverse name

/-- The name that a step makes stand for a matcher. -/
def Step.binds? : Step → Option Text
  | .create name | .configure name _ | .share name _ => some name
  | .ask .. | .sharesCache .. | .sameObject .. => none

def Step.preloads : Step → List Text
  | .configure _ settings => settings.preload
  | .create _ | .share .. | .ask .. | .sharesCache .. | .sameObject .. => []

/-! ### Caches -/

theorem sharesCache_iff (steps : List Step) (a b : Text) :
    ((after steps).step (.sharesCache a b)).value.1 = .flag true ↔
      ∃ i, origin? steps a = some i ∧ origin? steps b = some i := by
  have h := follows_after steps
  simp only [step]
  split
  · next i j ha hb =>
    obtain ⟨k, originA, rfl⟩ := h.origin_of_cacheId? ha
    obtain ⟨l, originB, rfl⟩ := h.origin_of_cacheId? hb
    have same := h.cacheId?_eq_iff originA originB
    rw [ha, hb, Option.some.injEq] at same
    rw [originA, originB]
    constructor
    · intro equal
      have equal := beq_iff_eq.1 (Answer.flag.inj equal)
      exact ⟨k, rfl, by rw [same.1 equal]⟩
    · rintro ⟨_, ⟨⟩, sameOrigin⟩
      rw [same.2 (Option.some.inj sameOrigin).symm]
      exact congrArg Answer.flag (beq_self_eq_true _)
  · next unknown =>
    constructor
    · intro impossible
      cases impossible
    · rintro ⟨i, ha, hb⟩
      exact absurd (h.cache_of_origin? hb).1 (unknown _ _ (h.cache_of_origin? ha).1)

/-- All matchers on one cache see the same change of it. -/
theorem cache?_ask_shared {steps : List Step} {m n : Text}
    (shared : origin? steps n = origin? steps m) (request : Request) :
    (after steps).cache? n = (after steps).cache? m ∧
      (after (steps ++ [.ask m request])).cache? n =
        ((after steps).cache? m).map (·.perform request.operation) := by
  simp only [cache?_after, origin?_concat, shared, Option.map_map, true_and]
  refine Option.map_congr fun i origin => ?_
  rw [contents_concat, put, if_pos origin]
  rfl

/-- Matchers on other caches see nothing of it. -/
theorem cache?_ask_apart {steps : List Step} {m n : Text}
    (apart : origin? steps n ≠ origin? steps m) (request : Request) :
    (after (steps ++ [.ask m request])).cache? n = (after steps).cache? n := by
  simp only [cache?_after, origin?_concat]
  refine Option.map_congr fun i origin => ?_
  rw [contents_concat, put, if_neg]
  · rfl
  · rw [← origin]
    exact apart.symm

/-- A name that is bound changes only what that name stands for. -/
theorem cache?_bind {steps : List Step} {s : Step} {name other : Text}
    (binds : s.binds? = some name) (different : other ≠ name) :
    origin? (steps ++ [s]) other = origin? steps other ∧
      (after (steps ++ [s])).cache? other = (after steps).cache? other := by
  have origins : origin? (steps ++ [s]) other = origin? steps other := by
    rw [origin?_concat]
    cases s <;> cases binds <;> simp [different.symm]
  refine ⟨origins, ?_⟩
  rw [cache?_after, cache?_after, origins]
  refine Option.map_congr fun i origin => ?_
  have before := origin?_lt origin
  rw [contents_concat]
  cases s with
  | create | share => rfl
  | configure =>
    rw [put, if_neg (Nat.ne_of_gt before)]
    rfl
  | ask | sharesCache | sameObject => cases binds

/-- A matcher that is made has a cache of its own, with the patterns it was made with. -/
theorem cache?_make {steps : List Step} {s : Step} {name : Text} (makes : s.makes = true)
    (binds : s.binds? = some name) :
    (after (steps ++ [s])).cache? name = some (s.preloads.foldl Cache.request Cache.empty) ∧
      ∀ other, other ≠ name →
        ((after (steps ++ [s])).step (.sharesCache name other)).value.1 ≠ .flag true := by
  have origin : origin? (steps ++ [s]) name = some steps.length := by
    rw [origin?_concat]
    cases s with
    | create | configure =>
      cases binds
      exact if_pos rfl
    | share | ask | sharesCache | sameObject => cases makes
  constructor
  · rw [cache?_after, origin, Option.map_some, contents_concat, contents_length]
    cases s with
    | create => rfl
    | configure name settings =>
      rw [put, if_pos rfl, List.foldl_cons, List.foldl_nil, Cache.perform_eq _ (by simp)]
      rfl
    | share | ask | sharesCache | sameObject => cases makes
  · intro other different shared
    obtain ⟨i, here, there⟩ := (sharesCache_iff (steps ++ [s]) name other).1 shared
    rw [origin] at here
    cases here
    rw [(cache?_bind binds different).1] at there
    exact Nat.lt_irrefl _ (origin?_lt there)

/-! ### Objects -/

theorem asked_take {steps : List Step} {l k i : Nat} {request : Request} :
    Asked (steps.take l) k i request ↔ k < l ∧ Asked steps k i request := by
  unfold Asked
  by_cases before : k < l
  · rw [List.getElem?_take_of_lt before, List.take_take, Nat.min_eq_left (Nat.le_of_lt before),
      and_iff_right before]
  · constructor
    · rintro ⟨name, found, -⟩
      rw [List.getElem?_take, if_neg before] at found
      cases found
    · rintro ⟨within, -⟩
      exact absurd within before

theorem clear_mem_put {before : List Step} {s : Step} {i : Nat} :
    .clear ∈ put before s i ↔ ∃ name, s = .ask name .clear ∧ origin? before name = some i := by
  cases s with
  | create | share | sharesCache | sameObject => simp [put]
  | configure =>
    simp only [put]
    split <;> simp
  | ask name request =>
    have clears : .clear = request.operation ↔ request = .clear := by
      cases request <;> simp [Request.operation]
    by_cases origin : origin? before name = some i
    · rw [put, if_pos origin, List.mem_singleton, clears]
      constructor
      · rintro rfl
        exact ⟨name, rfl, origin⟩
      · rintro ⟨_, ⟨⟩, -⟩
        rfl
    · rw [put, if_neg origin]
      constructor
      · rintro ⟨⟩
      · rintro ⟨_, ⟨⟩, same⟩
        exact absurd same origin

/-- After a request, a cache is what further steps made of it. -/
theorem contents_since {steps : List Step} {k i : Nat} {raw : Text} {slot : Option Text}
    (asked : Asked steps k i (.pattern raw slot)) :
    ∃ between : List Operation,
      contents steps i = between.foldl Cache.perform ((contents (steps.take k) i).request raw) ∧
        (.clear ∈ between ↔ ∃ q, k < q ∧ Asked steps q i .clear) := by
  obtain ⟨name, found, origin⟩ := asked
  have parts : steps.take k ++ [.ask name (.pattern raw slot)] = steps.take (k + 1) := by
    rw [List.take_add_one, found]
    rfl
  refine ⟨historyFrom (steps.take (k + 1)) (steps.drop (k + 1)) i, ?_, ?_⟩
  · have request : contents (steps.take (k + 1)) i = (contents (steps.take k) i).request raw := by
      rw [← parts, contents_concat, put, if_pos origin]
      rfl
    rw [← request]
    conv => lhs; rw [← List.take_append_drop (k + 1) steps]
    rw [contents, historyFrom_append, List.foldl_append, contents, List.nil_append]
  · rw [mem_historyFrom]
    constructor
    · rintro ⟨q, s, here, mem⟩
      obtain ⟨name, rfl, origin⟩ := clear_mem_put.1 mem
      rw [List.getElem?_drop] at here
      rw [← List.take_add] at origin
      exact ⟨k + 1 + q, by omega, name, here, origin⟩
    · rintro ⟨q, later, name, here, origin⟩
      obtain ⟨d, rfl⟩ : ∃ d, q = k + 1 + d := ⟨q - (k + 1), by omega⟩
      refine ⟨d, _, by rw [List.getElem?_drop]; exact here, clear_mem_put.2 ⟨name, rfl, ?_⟩⟩
      rw [← List.take_add]
      exact origin

theorem Asked.makes {steps : List Step} {k i : Nat} {request : Request}
    (asked : Asked steps k i request) : ∃ s, steps[i]? = some s ∧ s.makes = true := by
  obtain ⟨name, -, origin⟩ := asked
  obtain ⟨s, here, makes⟩ := makes_of_origin? origin
  have before : i < k := by
    have := origin?_lt origin
    rw [List.length_take] at this
    omega
  exact ⟨s, by rwa [List.getElem?_take_of_lt before] at here, makes⟩

/-- A request hands out the object that the cache has for its text. -/
theorem handleAt_of_asked {steps : List Step} {k i : Nat} {raw : Text} {slot : Option Text}
    (asked : Asked steps k i (.pattern raw slot)) :
    handleAt steps k = some ⟨number steps i, ((contents (steps.take k) i).get raw).value.1⟩ := by
  obtain ⟨name, found, origin⟩ := asked
  obtain ⟨known, held⟩ := (follows_after (steps.take k)).cache_of_origin? origin
  have same : number (steps.take k) i = number steps i := by
    conv => rhs; rw [← List.take_append_drop k steps]
    exact (number_append _ _ (Nat.le_of_lt (origin?_lt origin))).symm
  rw [handleAt, found, Option.bind_some, handed?, known, Option.bind_some, held, same]
  rfl

/-- A request is answered with the pattern that it is for, which is also that of its handle. -/
theorem answer_of_asked {steps : List Step} {k i : Nat} {raw : Text} {slot : Option Text}
    (asked : Asked steps k i (.pattern raw slot)) :
    ∃ x, handleAt steps k = some x ∧ x.shared.pattern = Pattern.compile raw ∧
      ((empty.run steps).value.1[k]?).map (·.1) = some (.pattern x.shared.pattern) := by
  refine ⟨_, handleAt_of_asked asked, ?_, ?_⟩
  · exact (Cache.sound_empty.history _).pattern_get raw
  obtain ⟨name, found, origin⟩ := asked
  obtain ⟨known, held⟩ := (follows_after (steps.take k)).cache_of_origin? origin
  obtain ⟨bound, here⟩ := List.getElem?_eq_some_iff.1 found
  have parts : steps.take k ++ .ask name (.pattern raw slot) :: steps.drop (k + 1) = steps := by
    rw [← here, ← List.drop_eq_getElem_cons bound, List.take_append_drop]
  have answered := getElem?_run empty (steps.take k) (.ask name (.pattern raw slot))
    (steps.drop (k + 1))
  rw [parts, List.length_take_of_le (Nat.le_of_lt bound), ← after] at answered
  rw [answered]
  simp only [step, known, held]
  rfl

/-- The objects of two requests are one object exactly when they are from one cache, for one text,
and the cache was not cleared between the requests. -/
theorem sameObject_iff {steps : List Step} {k l i j : Nat} {raw other : Text}
    {slot slot' : Option Text} (order : k ≤ l) (first : Asked steps k i (.pattern raw slot))
    (second : Asked steps l j (.pattern other slot')) :
    ∃ x y, handleAt steps k = some x ∧ handleAt steps l = some y ∧
      (x.sameObject y = true ↔
        i = j ∧ raw = other ∧ ∀ q, k < q → q < l → ¬ Asked steps q i .clear) := by
  refine ⟨_, _, handleAt_of_asked first, handleAt_of_asked second, ?_⟩
  obtain ⟨s, here, makes⟩ := first.makes
  obtain ⟨s', here', makes'⟩ := second.makes
  have numbers := number_eq_iff here makes here' makes'
  simp only [Handle.sameObject, Bool.and_eq_true, beq_iff_eq, numbers]
  refine and_congr_right fun same => ?_
  subst same
  rcases Nat.eq_or_lt_of_le order with rfl | before
  · obtain ⟨name, found, -⟩ := first
    obtain ⟨name', found', -⟩ := second
    rw [found] at found'
    cases found'
    simp only [true_and, true_iff]
    omega
  · obtain ⟨since, -, numbered, -⟩ :=
      Cache.numbered_empty.history (historyFrom [] (steps.take k) i)
    rw [← contents] at numbered
    obtain ⟨between, later, cleared⟩ := contents_since (asked_take.2 ⟨before, first⟩)
    rw [List.take_take, Nat.min_eq_left order] at later
    rw [later, Cache.serial_eq_iff numbered, cleared]
    simp only [asked_take, not_exists, not_and]

/-! ### Objects under names -/

theorem held?_concat (steps : List Step) (s : Step) (name : Text) :
    held? (steps ++ [s]) name =
      if slot? steps s = some name then some steps.length else held? steps name := by
  simp [held?, heldOf]

theorem held?_lt {steps : List Step} {name : Text} {k : Nat} (h : held? steps name = some k) :
    k < steps.length := by
  induction steps using List.reverseRecOn with
  | nil => cases h
  | append_singleton steps s ih =>
    rw [held?_concat] at h
    rw [List.length_append, List.length_singleton]
    split at h
    · cases h
      exact Nat.lt_succ_self _
    · exact Nat.lt_succ_of_lt (ih h)

/-- A step keeps the handle it hands out, if it has a name for it. -/
theorem kept_concat (steps : List Step) (s : Step) :
    (slot? steps s = none ∧ (after (steps ++ [s])).kept = (after steps).kept) ∨
      ∃ slot h, slot? steps s = some slot ∧ (after steps).handed? s = some h ∧
        (after (steps ++ [s])).kept = (slot, h) :: (after steps).kept := by
  have h := follows_after steps
  rw [after_concat]
  cases s with
  | create => exact .inl ⟨rfl, rfl⟩
  | configure | share | sharesCache | sameObject =>
    refine .inl ⟨rfl, ?_⟩
    simp only [step, Logged.value_bind]
    split <;> rfl
  | ask name request =>
    cases origin : origin? steps name with
    | none =>
      have unknown : (after steps).cacheId? name = none := by rw [h.matchers, origin]; rfl
      simp only [step, unknown]
      refine .inl ⟨?_, rfl⟩
      cases request <;> simp [slot?, origin]
    | some i =>
      obtain ⟨known, held⟩ := h.cache_of_origin? origin
      simp only [step, known, held]
      rw [pool_answer _ held]
      cases request with
      | captures | isMatch | expand | contains | clear => exact .inl ⟨rfl, rfl⟩
      | pattern raw slot =>
        cases slot with
        | none => exact .inl ⟨by simp [slot?], rfl⟩
        | some slot =>
          exact .inr ⟨slot, _, by simp [slot?, origin], by simp [handed?, known, held], rfl⟩

theorem handleAt_append {steps : List Step} {k : Nat} (bound : k < steps.length)
    (later : List Step) : handleAt (steps ++ later) k = handleAt steps k := by
  rw [handleAt, List.getElem?_append_left bound,
    List.take_append_of_le_length (Nat.le_of_lt bound), handleAt]

theorem handleAt_length (steps : List Step) (s : Step) :
    handleAt (steps ++ [s]) steps.length = (after steps).handed? s := by
  rw [handleAt, List.getElem?_concat_length, List.take_left, Option.bind_some]

/-- What is kept under a name is the handle of the last step that keeps one there. -/
theorem handle?_after (steps : List Step) (name : Text) :
    (after steps).handle? name = (held? steps name).bind (handleAt steps) := by
  induction steps using List.reverseRecOn with
  | nil => rfl
  | append_singleton steps s ih =>
    have before :
        (held? steps name).bind (handleAt (steps ++ [s])) = (after steps).handle? name := by
      rw [ih]
      exact Option.bind_congr fun k held => handleAt_append (held?_lt held) [s]
    rw [held?_concat, handle?]
    rcases kept_concat steps s with ⟨unnamed, kept⟩ | ⟨slot, h, named, handed, kept⟩
    · rw [if_neg (by simp [unnamed]), before, kept, handle?]
    · rw [kept, named]
      by_cases same : slot = name
      · rw [if_pos (congrArg some same), Option.bind_some, handleAt_length, handed]
        simp [same]
      · rw [if_neg (by simpa using same), before, handle?]
        simp [same]

/-- The answer about two names under which handles are kept. -/
theorem sameObject_held {steps : List Step} {a b : Text} {k l : Nat}
    (heldA : held? steps a = some k) (heldB : held? steps b = some l) {x y : Handle}
    (first : handleAt steps k = some x) (second : handleAt steps l = some y) :
    ((after steps).step (.sameObject a b)).value.1 = .flag (x.sameObject y) := by
  have hx : (after steps).handle? a = some x := by rw [handle?_after, heldA]; exact first
  have hy : (after steps).handle? b = some y := by rw [handle?_after, heldB]; exact second
  simp only [step, hx, hy]
  rfl

/-- What sharing means at any point of any run. -/
theorem run_sharing (steps : List Step) :
    -- Two matchers share a cache exactly when they descend from one creating step.
    (∀ a b, ((after steps).step (.sharesCache a b)).value.1 = .flag true ↔
      ∃ i, origin? steps a = some i ∧ origin? steps b = some i) ∧
    -- A matcher that is made now has a cache that no other one has.
    (∀ s name, s.makes = true → s.binds? = some name →
      (after (steps ++ [s])).cache? name = some (s.preloads.foldl Cache.request Cache.empty) ∧
      ∀ other, other ≠ name →
        ((after (steps ++ [s])).step (.sharesCache name other)).value.1 ≠ .flag true) ∧
    -- Binding a name changes nothing for the other ones.
    (∀ s name other, s.binds? = some name → other ≠ name →
      origin? (steps ++ [s]) other = origin? steps other ∧
      (after (steps ++ [s])).cache? other = (after steps).cache? other) ∧
    -- All who share a cache see the same change of it, and nobody else sees any.
    (∀ m n request, origin? steps n = origin? steps m →
      (after steps).cache? n = (after steps).cache? m ∧
      (after (steps ++ [.ask m request])).cache? n =
        ((after steps).cache? m).map (·.perform request.operation)) ∧
    (∀ m n request, origin? steps n ≠ origin? steps m →
      (after (steps ++ [.ask m request])).cache? n = (after steps).cache? n) ∧
    -- Objects are one by cache, text and clearings, and equal by text alone.
    (∀ k l i j raw other slot slot', k ≤ l → Asked steps k i (.pattern raw slot) →
      Asked steps l j (.pattern other slot') →
      ∃ x y, handleAt steps k = some x ∧ handleAt steps l = some y ∧
        (x.sameObject y = true ↔
          i = j ∧ raw = other ∧ ∀ q, k < q → q < l → ¬ Asked steps q i .clear) ∧
        (x.shared.pattern.same y.shared.pattern = true ↔ raw = other)) ∧
    -- They are the objects that the run answers with, and answers about.
    (∀ k i raw slot, Asked steps k i (.pattern raw slot) →
      ((empty.run steps).value.1[k]?).map (·.1) =
        (handleAt steps k).map (.pattern ·.shared.pattern)) ∧
    (∀ a b k l x y, held? steps a = some k → held? steps b = some l →
      handleAt steps k = some x → handleAt steps l = some y →
      ((after steps).step (.sameObject a b)).value.1 = .flag (x.sameObject y)) := by
  refine ⟨sharesCache_iff steps, fun s name => cache?_make, fun s name other => cache?_bind,
    fun m n request shared => cache?_ask_shared shared request,
    fun m n request apart => cache?_ask_apart apart request, ?_, ?_,
    fun a b k l x y heldA heldB => sameObject_held heldA heldB⟩
  · intro k l i j raw other slot slot' order first second
    obtain ⟨x, y, hx, hy, same⟩ := sameObject_iff order first second
    obtain ⟨x', hx', px, -⟩ := answer_of_asked first
    obtain ⟨y', hy', py, -⟩ := answer_of_asked second
    rw [hx, Option.some.injEq] at hx'
    rw [hy, Option.some.injEq] at hy'
    refine ⟨x, y, hx, hy, same, ?_⟩
    rw [hx', hy', px, py, Pattern.same, Pattern.raw_compile, Pattern.raw_compile, beq_iff_eq]
  · intro k i raw slot asked
    obtain ⟨x, handed, -, answered⟩ := answer_of_asked asked
    rw [answered, handed]
    rfl

/-- A run in which two names share a cache, which is cleared through one of them. -/
def aliased : List Step :=
  [.create ['a'], .create ['b'], .share ['c'] ['a'], .ask ['a'] (.pattern ['x'] none),
    .ask ['c'] (.pattern ['x'] (some ['h'])), .ask ['b'] (.pattern ['x'] none),
    .ask ['c'] .clear, .ask ['a'] (.pattern ['x'] (some ['g']))]

theorem run_sharing_aliased :
    (∃ x y z w, handleAt aliased 3 = some x ∧ handleAt aliased 4 = some y ∧
      handleAt aliased 5 = some z ∧ handleAt aliased 7 = some w ∧
      x.sameObject y = true ∧ x.sameObject z = false ∧ y.sameObject w = false ∧
      y.shared.pattern.same w.shared.pattern = true ∧
      ((after aliased).step (.sameObject ['h'] ['g'])).value.1 = .flag false) ∧
    ((after (aliased ++ [.create ['a']])).step (.sharesCache ['a'] ['c'])).value.1 ≠ .flag true ∧
    (after (aliased ++ [.create ['a']])).cache? ['c'] = (after aliased).cache? ['c'] ∧
    (after aliased).cache? ['c'] = (after aliased).cache? ['a'] ∧
    (after (aliased ++ [.ask ['a'] .clear])).cache? ['b'] = (after aliased).cache? ['b'] := by
  obtain ⟨-, made, bound, seen, unseen, objects, -, kept⟩ := run_sharing aliased
  have a : Asked aliased 3 0 (.pattern ['x'] none) := ⟨['a'], rfl, rfl⟩
  have c : Asked aliased 4 0 (.pattern ['x'] (some ['h'])) := ⟨['c'], rfl, rfl⟩
  have b : Asked aliased 5 1 (.pattern ['x'] none) := ⟨['b'], rfl, rfl⟩
  have clear : Asked aliased 6 0 .clear := ⟨['c'], rfl, rfl⟩
  have again : Asked aliased 7 0 (.pattern ['x'] (some ['g'])) := ⟨['a'], rfl, rfl⟩
  obtain ⟨x, y, hx, hy, one, -⟩ := objects _ _ _ _ _ _ _ _ (by decide : 3 ≤ 4) a c
  obtain ⟨_, z, hx', hz, two, -⟩ := objects _ _ _ _ _ _ _ _ (by decide : 3 ≤ 5) a b
  obtain ⟨_, w, hy', hw, three, equal⟩ := objects _ _ _ _ _ _ _ _ (by decide : 4 ≤ 7) c again
  cases hx.symm.trans hx'
  cases hy.symm.trans hy'
  have fresh : y.sameObject w = false :=
    Bool.eq_false_iff.2 fun same => (three.1 same).2.2 6 (by decide) (by decide) clear
  have apart : x.sameObject z = false :=
    Bool.eq_false_iff.2 fun same => absurd (two.1 same).1 (by decide)
  refine ⟨⟨x, y, z, w, hx, hy, hz, hw, one.2 ⟨rfl, rfl, by omega⟩, apart, fresh, equal.2 rfl, ?_⟩,
    (made _ ['a'] rfl rfl).2 ['c'] (by decide), (bound _ ['a'] ['c'] rfl (by decide)).2,
    (seen ['a'] ['c'] .clear rfl).1, unseen ['a'] ['b'] .clear (by decide)⟩
  rw [kept ['h'] ['g'] 4 7 y w rfl rfl hy hw, fresh]

end Pool

end PathGlob
