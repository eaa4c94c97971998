import PathGlob.Pool
import PathGlob.Proofs.Operation

/-!
# Caches cannot be told from their answers

Whatever matchers share caches, and in whatever order they are used, each answer about a pattern is
the answer of its compiled form made afresh. `Roster` is what can be told of a run without looking
into a cache: who is there, and which pattern each handle was asked for. A run is compared with it
answer by answer.

The invariant is `Cache.Sound`: what is kept under a text was compiled from that text. `Agrees`
joins it to the roster, `agrees_step` carries both over a step and `agrees_run` over a run.
-/

namespace PathGlob

namespace Cache

/-- Everything kept is the compiled form of the text it is kept under. -/
def Sound (c : Cache) : Prop :=
  ∀ raw shared, c.find? raw = some shared → shared.pattern = Pattern.compile raw

theorem sound_empty : empty.Sound := by
  intro raw shared found
  cases found

theorem Sound.pattern_get {c : Cache} (sound : c.Sound) (raw : Text) :
    (c.get raw).value.1.pattern = Pattern.compile raw := by
  rw [value_get]
  cases found : c.find? raw with
  | some shared => exact sound raw shared found
  | none => rfl

theorem Sound.request {c : Cache} (sound : c.Sound) (raw : Text) : (c.request raw).Sound := by
  by_cases kept : c.contains raw = true
  · rwa [request_of_contains kept]
  · rw [request_of_not_contains kept]
    intro other shared found
    rw [find?_keep] at found
    split at found
    · next same =>
      cases found
      rw [← same]
      rfl
    · exact sound other shared found

theorem Sound.captures_eq {c : Cache} (sound : c.Sound) (raw candidate : Text) :
    (c.captures raw candidate).value =
      ((Pattern.compile raw).captures candidate, c.request raw) := by
  rw [captures, Logged.value_bind, ← sound.pattern_get raw]
  rfl

theorem Sound.isMatch_eq {c : Cache} (sound : c.Sound) (raw candidate : Text) :
    (c.isMatch raw candidate).value =
      ((Pattern.compile raw).isMatch candidate, c.request raw) := by
  rw [isMatch, Logged.value_bind, ← sound.pattern_get raw]
  rfl

theorem Sound.expand_eq {c : Cache} (sound : c.Sound) (raw candidate template : Text) :
    (c.expand raw candidate template).value =
      (((Pattern.compile raw).captures candidate).map (Template.expand template),
        c.request raw) := by
  rw [expand, Logged.value_bind, sound.captures_eq]
  rfl

theorem Sound.perform {c : Cache} (sound : c.Sound) (op : Operation) : (c.perform op).Sound := by
  by_cases cleared : op = .clear
  · subst cleared
    intro raw shared found
    cases found
  · rw [perform_eq c cleared]
    generalize op.requests = raws
    induction raws generalizing c with
    | nil => exact sound
    | cons raw raws ih => exact ih (sound.request raw)

theorem Sound.history {c : Cache} (sound : c.Sound) (history : List Operation) :
    (history.foldl Cache.perform c).Sound := by
  induction history generalizing c with
  | nil => exact sound
  | cons op history ih => exact ih (sound.perform op)

end Cache

namespace Pool

/-- What can be told of a run without its caches: the names of matchers, and the patterns of the
handles kept, the latest first. -/
structure Roster where
  matchers : List Text
  kept : List (Text × Text)

/-- The handles that a request keeps, by name and pattern. -/
def Request.keeps : Request → List (Text × Text)
  | .pattern raw (some name) => [(name, raw)]
  | .pattern _ none | .captures .. | .isMatch .. | .expand .. | .contains _ | .clear => []

/-- The answer to a request when its pattern is compiled for it alone. What is asked about a cache
and not about a pattern has no such answer. -/
def Request.fresh? : Request → Option Answer
  | .captures raw candidate => some (.captures ((Pattern.compile raw).captures candidate))
  | .isMatch raw candidate => some (.flag ((Pattern.compile raw).isMatch candidate))
  | .expand raw candidate template =>
    some (.rendered (((Pattern.compile raw).captures candidate).map (Template.expand template)))
  | .pattern raw _ => some (.pattern (Pattern.compile raw))
  | .contains _ => none
  | .clear => some .done

/-- What a request does to the cache it is put to. -/
def Request.operation : Request → Cache.Operation
  | .captures raw candidate => .captures raw candidate
  | .isMatch raw candidate => .isMatch raw candidate
  | .expand raw candidate template => .expand raw candidate template
  | .pattern raw _ => .get raw
  | .contains raw => .contains raw
  | .clear => .clear

namespace Roster

def empty : Roster :=
  ⟨[], []⟩

/-- The pattern of the handle kept under a name. -/
def raw? (r : Roster) (name : Text) : Option Text :=
  (r.kept.find? (·.1 == name)).map (·.2)

def step (r : Roster) : Step → Roster
  | .create name | .configure name _ => { r with matchers := name :: r.matchers }
  | .share name source =>
    if source ∈ r.matchers then { r with matchers := name :: r.matchers } else r
  | .ask name request =>
    if name ∈ r.matchers then { r with kept := request.keeps ++ r.kept } else r
  | .sharesCache .. | .sameObject .. => r

/-- The answer to a step, unless it is about caches. -/
def answer? (r : Roster) : Step → Option Answer
  | .create _ | .configure .. => some .done
  | .share _ source => some (if source ∈ r.matchers then .done else .unknownName)
  | .ask name request => if name ∈ r.matchers then request.fresh? else some .unknownName
  | .sharesCache .. | .sameObject .. => none

end Roster

/-- A roster tells the truth about a pool whose caches hold nothing but what belongs there. -/
structure Agrees (r : Roster) (p : Pool) : Prop where
  names : p.matchers.map Prod.fst = r.matchers
  bound : ∀ entry ∈ p.matchers, entry.2 < p.caches.length
  sound : ∀ c ∈ p.caches, c.Sound
  kept : p.kept.map (fun entry => (entry.1, entry.2.shared.pattern)) =
    r.kept.map fun entry => (entry.1, Pattern.compile entry.2)

theorem agrees_empty : Agrees Roster.empty empty :=
  ⟨rfl, by simp [empty], by simp [empty], rfl⟩

theorem find?_map_fst {α β γ : Type} [BEq α] (f : β → γ) (entries : List (α × β)) (name : α) :
    ((entries.map fun entry => (entry.1, f entry.2)).find? (·.1 == name)).map (·.2) =
      ((entries.find? (·.1 == name)).map (·.2)).map f := by
  induction entries with
  | nil => rfl
  | cons entry entries ih =>
    rw [List.map_cons, List.find?_cons, List.find?_cons]
    cases entry.1 == name with
    | true => rfl
    | false => exact ih

namespace Agrees

variable {r : Roster} {p : Pool}

/-- The handle kept under a name has the pattern it was asked for. -/
theorem handle? (h : Agrees r p) (name : Text) :
    (p.handle? name).map (·.shared.pattern) = (r.raw? name).map Pattern.compile := by
  rw [Pool.handle?, Roster.raw?, ← find?_map_fst (fun kept : Handle => kept.shared.pattern),
    ← find?_map_fst Pattern.compile, h.kept]

theorem cacheId?_eq_none (h : Agrees r p) {name : Text} (unknown : name ∉ r.matchers) :
    p.cacheId? name = none := by
  rw [cacheId?, Option.map_eq_none_iff, List.find?_eq_none]
  intro entry mem same
  apply unknown
  rw [← h.names, ← beq_iff_eq.1 same]
  exact List.mem_map_of_mem mem

/-- A known matcher has a cache. -/
theorem cacheId?_eq_some (h : Agrees r p) {name : Text} (known : name ∈ r.matchers) :
    ∃ id c, p.cacheId? name = some id ∧ p.caches[id]? = some c ∧ id < p.caches.length := by
  rw [← h.names] at known
  obtain ⟨entry, mem, same⟩ := List.mem_map.1 known
  have found : (p.matchers.find? (·.1 == name)).isSome := by
    rw [List.find?_isSome]
    exact ⟨entry, mem, by simpa using same⟩
  obtain ⟨first, found⟩ := Option.isSome_iff_exists.1 found
  have bound := h.bound first (List.mem_of_find?_eq_some found)
  exact ⟨first.2, p.caches[first.2], by rw [cacheId?, found]; rfl,
    List.getElem?_eq_getElem bound, bound⟩

end Agrees

/-! ### One step -/

/-- Put to a sound cache, a request about a pattern is answered as by the pattern alone. -/
theorem answer_eq_fresh (p : Pool) (id : Nat) {c : Cache} (sound : c.Sound) (request : Request)
    (a : Answer) (required : request.fresh? = some a) : (p.answer id c request).value.1 = a := by
  cases request with
  | captures raw candidate =>
    cases required
    change Answer.captures (c.captures raw candidate).value.1 = _
    rw [sound.captures_eq]
  | isMatch raw candidate =>
    cases required
    change Answer.flag (c.isMatch raw candidate).value.1 = _
    rw [sound.isMatch_eq]
  | expand raw candidate template =>
    cases required
    change Answer.rendered (c.expand raw candidate template).value.1 = _
    rw [sound.expand_eq]
  | pattern raw name =>
    cases required
    change Answer.pattern (c.get raw).value.1.pattern = _
    rw [sound.pattern_get]
  | contains raw => cases required
  | clear =>
    cases required
    rfl

/-- A request changes the one cache it is put to, and may keep a handle from it. -/
theorem pool_answer (p : Pool) {id : Nat} {c : Cache} (held : p.caches[id]? = some c)
    (request : Request) :
    (p.answer id c request).value.2 =
      { p with
        caches := p.caches.set id (c.perform request.operation)
        kept := request.keeps.map (fun (name, raw) => (name, ⟨id, (c.get raw).value.1⟩)) ++
          p.kept } := by
  cases request with
  | captures | isMatch | expand | clear => rfl
  | pattern raw name => cases name <;> rfl
  | contains raw =>
    obtain ⟨bound, rfl⟩ := List.getElem?_eq_some_iff.1 held
    change p = { p with caches := p.caches.set id p.caches[id], kept := p.kept }
    rw [List.set_getElem_self]

theorem agrees_ask {r : Roster} {p : Pool} (h : Agrees r p) {id : Nat} {c : Cache}
    (held : p.caches[id]? = some c) (request : Request) :
    Agrees { r with kept := request.keeps ++ r.kept } (p.answer id c request).value.2 := by
  have sound : c.Sound := h.sound c (List.mem_of_getElem? held)
  rw [pool_answer p held]
  refine ⟨h.names, ?_, ?_, ?_⟩
  · simpa using h.bound
  · intro other mem
    rcases List.mem_or_eq_of_mem_set mem with old | rfl
    · exact h.sound other old
    · exact sound.perform request.operation
  · simp only [List.map_append, List.map_map, h.kept]
    congr 1
    apply List.map_congr_left
    intro entry _
    simp [sound.pattern_get]

/-- A new cache disturbs no one. -/
theorem Agrees.bindNew {r : Roster} {p : Pool} (h : Agrees r p) (name : Text) {c : Cache}
    (sound : c.Sound) : Agrees { r with matchers := name :: r.matchers } (p.bindNew name c) := by
  refine ⟨congrArg (name :: ·) h.names, ?_, ?_, h.kept⟩
  · intro entry mem
    simp only [Pool.bindNew, List.length_append, List.length_singleton] at mem ⊢
    rcases List.mem_cons.1 mem with rfl | old
    · exact Nat.lt_succ_self _
    · exact Nat.lt_succ_of_lt (h.bound entry old)
  · intro other mem
    rcases List.mem_append.1 mem with old | new
    · exact h.sound other old
    · rwa [List.mem_singleton.1 new]

/-- Each step is answered as the roster says, and leaves a pool that agrees with the roster. -/
theorem agrees_step {r : Roster} {p : Pool} (h : Agrees r p) (s : Step) :
    Agrees (r.step s) (p.step s).value.2 ∧
      ∀ required, r.answer? s = some required → (p.step s).value.1 = required := by
  cases s with
  | create name =>
    refine ⟨h.bindNew name Cache.sound_empty, ?_⟩
    rintro _ ⟨⟩
    rfl
  | configure name settings =>
    have made : (p.step (.configure name settings)).value =
        (.done, p.bindNew name (Cache.empty.perform (.preload settings.preload))) := by
      rw [step, Logged.value_bind, Cache.ofSettings_eq]
      rfl
    rw [made]
    refine ⟨h.bindNew name (Cache.sound_empty.perform _), ?_⟩
    rintro _ ⟨⟩
    rfl
  | share name source =>
    simp only [step, Roster.step, Roster.answer?]
    by_cases known : source ∈ r.matchers
    · obtain ⟨id, c, found, -, bound⟩ := h.cacheId?_eq_some known
      simp only [found, if_pos known]
      refine ⟨⟨congrArg (name :: ·) h.names, ?_, h.sound, h.kept⟩, ?_⟩
      · intro entry mem
        rcases List.mem_cons.1 mem with rfl | old
        · exact bound
        · exact h.bound entry old
      · rintro _ ⟨⟩
        rfl
    · simp only [h.cacheId?_eq_none known, if_neg known]
      refine ⟨h, ?_⟩
      rintro _ ⟨⟩
      rfl
  | ask name request =>
    simp only [step, Roster.step, Roster.answer?]
    by_cases known : name ∈ r.matchers
    · obtain ⟨id, c, found, held, -⟩ := h.cacheId?_eq_some known
      simp only [found, held, if_pos known]
      refine ⟨agrees_ask h held request, ?_⟩
      exact answer_eq_fresh p id (h.sound c (List.mem_of_getElem? held)) request
    · simp only [h.cacheId?_eq_none known, if_neg known]
      refine ⟨h, ?_⟩
      rintro _ ⟨⟩
      rfl
  | sharesCache a b =>
    refine ⟨?_, by rintro _ ⟨⟩⟩
    simp only [step]
    split <;> exact h
  | sameObject a b =>
    refine ⟨?_, by rintro _ ⟨⟩⟩
    simp only [step]
    split <;> exact h

/-! ### Runs -/

def Roster.after (steps : List Step) : Roster :=
  steps.foldl Roster.step Roster.empty

theorem run_cons (p : Pool) (s : Step) (steps : List Step) :
    (p.run (s :: steps)).value =
      ((p.step s).value :: ((p.step s).value.2.run steps).value.1,
        ((p.step s).value.2.run steps).value.2) := rfl

theorem run_append (p : Pool) (steps later : List Step) :
    (p.run (steps ++ later)).value =
      ((p.run steps).value.1 ++ ((p.run steps).value.2.run later).value.1,
        ((p.run steps).value.2.run later).value.2) := by
  induction steps generalizing p with
  | nil => rfl
  | cons s steps ih => rw [List.cons_append, run_cons, ih, run_cons]; rfl

theorem length_run (p : Pool) (steps : List Step) :
    (p.run steps).value.1.length = steps.length := by
  induction steps generalizing p with
  | nil => rfl
  | cons s steps ih => rw [run_cons, List.length_cons, List.length_cons, ih]

/-- A run shows the answer to each of its steps, and the pool after it. -/
theorem getElem?_run (p : Pool) (before : List Step) (s : Step) (later : List Step) :
    (p.run (before ++ s :: later)).value.1[before.length]? =
      some ((p.run before).value.2.step s).value := by
  have length := length_run p before
  rw [run_append, run_cons, List.getElem?_append_right (Nat.le_of_eq length), length, Nat.sub_self]
  rfl

theorem agrees_run {r : Roster} {p : Pool} (h : Agrees r p) (steps : List Step) :
    Agrees (steps.foldl Roster.step r) (p.run steps).value.2 := by
  induction steps generalizing r p with
  | nil => exact h
  | cons s steps ih => exact ih (agrees_step h s).1

/-- In any run, at any step, the answer is the one that patterns compiled for it alone would give,
and each handle kept so far, whatever has become of the cache it is from, is to the compiled form
of the pattern it was asked for. -/
theorem run_transparent (before : List Step) (s : Step) (later : List Step) :
    ∃ answer p, (empty.run (before ++ s :: later)).value.1[before.length]? = some (answer, p) ∧
      (∀ required, (Roster.after before).answer? s = some required → answer = required) ∧
      ∀ name, (p.handle? name).map (·.shared.pattern) =
        ((Roster.after (before ++ [s])).raw? name).map Pattern.compile := by
  obtain ⟨after, answered⟩ := agrees_step (agrees_run agrees_empty before) s
  refine ⟨_, _, getElem?_run empty before s later, answered, fun name => ?_⟩
  rw [after.handle?, Roster.after, List.foldl_append]
  rfl

end Pool

end PathGlob
