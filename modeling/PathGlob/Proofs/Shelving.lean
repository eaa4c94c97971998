import PathGlob.Proofs.Accounting
import PathGlob.Proofs.Transparency
import PathGlob.Shelf

namespace PathGlob.Shelf

open Cache (Operation)

variable {s : Shelf} {before : List Step}

/-- What a request does to the cache. -/
def Step.operations : Step → List Operation
  | .get raw _ => [.get raw]
  | .tryGet raw _ => [.tryGet raw]
  | .contains raw => [.contains raw]
  | .isEmpty => [.isEmpty]
  | .clear => [.clear]
  | .same .. | .equal .. | .captures .. => []

/-- What a request keeps: a name and the text of the pattern. -/
def Step.keeps : Step → List (Text × Text)
  | .get raw name | .tryGet raw name => (name.map (·, raw)).toList
  | .contains _ | .isEmpty | .clear | .same .. | .equal .. | .captures .. => []

def history (steps : List Step) : List Operation :=
  steps.flatMap Step.operations

/-- The texts of the patterns kept after some requests, the latest first. -/
def asked (steps : List Step) : List (Text × Text) :=
  steps.foldl (fun entries r => r.keeps ++ entries) []

/-- The text of the pattern kept under a name after some requests. -/
def raw? (steps : List Step) (name : Text) : Option Text :=
  ((asked steps).find? (·.1 == name)).map (·.2)

/-- The shelf is what some requests have made of a new one. -/
structure Follows (s : Shelf) (steps : List Step) : Prop where
  cache : s.cache = (history steps).foldl Cache.perform Cache.empty
  kept : s.kept.map (fun entry => (entry.1, entry.2.pattern)) =
    (asked steps).map fun entry => (entry.1, Pattern.compile entry.2)

def epoch (steps : List Step) : List Text :=
  (Cache.epochs (history steps)).getLastD []

/-- The answer to a request after others, unless it is about objects. -/
def answer? (before : List Step) : Step → Option Answer
  | .get raw _ | .tryGet raw _ => some (.kind (Pattern.compile raw).kind)
  | .contains raw => some (.flag ((epoch before).contains raw))
  | .isEmpty => some (.flag (epoch before).isEmpty)
  | .clear => some .done
  | .same .. => none
  | .equal a b => some <|
    match raw? before a, raw? before b with
    | some x, some y => .flag (x == y)
    | _, _ => .unknownName
  | .captures name candidate => some <|
    match raw? before name with
    | some raw => .captures ((Pattern.compile raw).captures candidate)
    | none => .unknownName

theorem history_concat (before : List Step) (r : Step) :
    history (before ++ [r]) = history before ++ r.operations := by
  simp [history]

theorem asked_concat (before : List Step) (r : Step) :
    asked (before ++ [r]) = r.keeps ++ asked before := by
  simp [asked]

theorem follows_empty : Follows empty [] :=
  ⟨rfl, rfl⟩

namespace Follows

theorem sound (h : Follows s before) : s.cache.Sound := by
  rw [h.cache]
  exact Cache.sound_empty.history _

theorem account (h : Follows s before) :
    Cache.Account s.cache (Cache.epochs (history before)) := by
  rw [h.cache]
  exact Cache.Account.after _

theorem find? (h : Follows s before) (name : Text) :
    (s.find? name).map (·.pattern) = (raw? before name).map Pattern.compile := by
  rw [Shelf.find?, raw?, ← Pool.find?_map_fst (fun shared : Shared => shared.pattern),
    ← Pool.find?_map_fst Pattern.compile, h.kept]

theorem contains (h : Follows s before) (raw : Text) :
    s.cache.contains raw = (epoch before).contains raw := by
  rw [Bool.eq_iff_iff, h.account.contains, List.contains_iff_mem, epoch]

theorem isEmpty (h : Follows s before) : s.cache.isEmpty = (epoch before).isEmpty := by
  rw [Bool.eq_iff_iff, Cache.isEmpty_iff, h.account.size, Cache.distinct, Finset.card_eq_zero,
    List.toFinset_eq_empty_iff, List.isEmpty_iff, epoch]

/-- What a shelf has to show for one more request. -/
theorem concat (h : Follows s before) {r : Step} {t : Shelf}
    (cache : t.cache = r.operations.foldl Cache.perform s.cache)
    (kept : t.kept.map (fun entry => (entry.1, entry.2.pattern)) =
      r.keeps.map (fun entry => (entry.1, Pattern.compile entry.2)) ++
        s.kept.map fun entry => (entry.1, entry.2.pattern)) :
    Follows t (before ++ [r]) := by
  constructor
  · rw [cache, history_concat, List.foldl_append, ← h.cache]
  · rw [kept, asked_concat, List.map_append, h.kept]

/-- A request for a pattern is one to the cache, and what comes of it may be kept. -/
theorem get (h : Follows s before) (raw : Text) (name : Option Text) :
    Follows (s.step (.get raw name)).value.2 (before ++ [.get raw name]) := by
  have pattern := h.sound.pattern_get raw
  cases name with
  | none => exact h.concat rfl rfl
  | some n =>
    refine h.concat rfl ?_
    change (n, (s.cache.get raw).value.1.pattern) :: _ = (n, Pattern.compile raw) :: _
    rw [pattern]
    rfl

end Follows

theorem step_tryGet (s : Shelf) (raw : Text) (name : Option Text) :
    (s.step (.tryGet raw name)).value = (s.step (.get raw name)).value := by
  simp only [step, Logged.value_bind, Cache.tryGet_eq]

theorem Follows.tryGet (h : Follows s before) (raw : Text) (name : Option Text) :
    Follows (s.step (.tryGet raw name)).value.2 (before ++ [.tryGet raw name]) := by
  have operation : s.cache.perform (.tryGet raw) = s.cache.perform (.get raw) :=
    Cache.perform_eq s.cache (by simp)
  obtain ⟨cache, kept⟩ := h.get raw name
  rw [step_tryGet]
  refine ⟨?_, by rw [kept, asked_concat, asked_concat]; rfl⟩
  rw [cache, history_concat, history_concat, List.foldl_append, List.foldl_append, ← h.cache]
  exact operation.symm

/-- Comparing kept patterns is comparing their texts. -/
theorem Follows.compare_same (h : Follows s before) (a b : Text) :
    s.compare a b (fun x y => x.pattern.same y.pattern) =
      match raw? before a, raw? before b with
      | some x, some y => .flag (x == y)
      | _, _ => .unknownName := by
  have first := h.find? a
  have second := h.find? b
  unfold compare
  generalize s.find? a = x, s.find? b = y at first second ⊢
  generalize raw? before a = raw, raw? before b = other at first second ⊢
  cases x <;> cases y <;> cases raw <;> cases other <;>
    simp_all [Pattern.same, Pattern.raw_compile]

/-- Each request is answered as the requests before it say, and joins them. -/
theorem follows_step (h : Follows s before) (r : Step) :
    Follows (s.step r).value.2 (before ++ [r]) ∧
      ∀ required, answer? before r = some required → (s.step r).value.1 = required := by
  have kind (raw : Text) : Answer.kind (s.cache.get raw).value.1.pattern.kind =
      .kind (Pattern.compile raw).kind := by
    rw [h.sound.pattern_get raw]
  cases r with
  | get raw name =>
    refine ⟨h.get raw name, ?_⟩
    rintro _ ⟨⟩
    exact kind raw
  | tryGet raw name =>
    refine ⟨h.tryGet raw name, ?_⟩
    rintro _ ⟨⟩
    rw [step_tryGet]
    exact kind raw
  | contains raw =>
    refine ⟨h.concat rfl rfl, ?_⟩
    rintro _ ⟨⟩
    exact congrArg Answer.flag (h.contains raw)
  | isEmpty =>
    refine ⟨h.concat rfl rfl, ?_⟩
    rintro _ ⟨⟩
    exact congrArg Answer.flag h.isEmpty
  | clear =>
    refine ⟨h.concat rfl rfl, ?_⟩
    rintro _ ⟨⟩
    rfl
  | same a b =>
    refine ⟨h.concat rfl rfl, ?_⟩
    rintro _ ⟨⟩
  | equal a b =>
    refine ⟨h.concat rfl rfl, ?_⟩
    rintro _ ⟨⟩
    exact h.compare_same a b
  | captures name candidate =>
    have found := h.find? name
    simp only [step, answer?]
    cases kept : s.find? name with
    | none =>
      rw [kept] at found
      rw [Option.map_none, eq_comm, Option.map_eq_none_iff] at found
      refine ⟨h.concat rfl rfl, ?_⟩
      rw [found]
      rintro _ ⟨⟩
      rfl
    | some shared =>
      rw [kept] at found
      obtain ⟨raw, asked, compiled⟩ := Option.map_eq_some_iff.1 found.symm
      refine ⟨h.concat rfl rfl, ?_⟩
      rw [asked]
      rintro _ ⟨⟩
      exact congrArg (fun p : Pattern => Answer.captures (p.captures candidate)) compiled.symm

theorem run_cons (s : Shelf) (r : Step) (steps : List Step) :
    (s.run (r :: steps)).value =
      (((s.step r).value.1, (s.step r).value.2.cache) ::
        ((s.step r).value.2.run steps).value.1, ((s.step r).value.2.run steps).value.2) := rfl

/-- In any run, at any step, the answer is the one that patterns compiled for it alone would give,
kept ones too, whatever has become of the cache, and the cache has the account of the requests so
far. -/
theorem run_follows (before : List Step) (r : Step) (later : List Step) :
    ∃ answer cache, (empty.run (before ++ r :: later)).value.1[before.length]? =
        some (answer, cache) ∧
      (∀ required, answer? before r = some required → answer = required) ∧
      Cache.Account cache (Cache.epochs (history (before ++ [r]))) := by
  have general {s : Shelf} {earlier : List Step} (h : Follows s earlier) (steps : List Step) :
      ∃ answer cache, (s.run (steps ++ r :: later)).value.1[steps.length]? =
          some (answer, cache) ∧
        (∀ required, answer? (earlier ++ steps) r = some required → answer = required) ∧
        Cache.Account cache (Cache.epochs (history (earlier ++ steps ++ [r]))) := by
    induction steps generalizing s earlier with
    | nil =>
      obtain ⟨after, answered⟩ := follows_step h r
      exact ⟨_, _, rfl, by simpa using answered, by simpa using after.account⟩
    | cons first steps ih =>
      have after := (follows_step h first).1
      simpa [run_cons] using ih after
  simpa using general follows_empty before

end PathGlob.Shelf
