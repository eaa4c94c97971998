import PathGlob.Proofs.Accounting
import PathGlob.Proofs.Layering
import PathGlob.Proofs.Transparency
import PathGlob.Session

/-!
# What the first access decides

The settings of a process are decided once, by the first step that installs or needs them, and the
matcher is made from them when it is first used. So a process that has been through some steps is a
function of these steps: `after` is that process. `step_after` says what one step answers and leaves
behind, `run_after` and `answers_run` carry this over a run. Hence every answer depends on the steps
before it only through the settings decided on and the patterns requested.
-/

namespace PathGlob.Session

def Step.decides : Step → Bool
  | .captures .. | .isMatch .. | .contains _ | .state | .get | .install _ => true
  | .default | .load => false

def Step.usesMatcher : Step → Bool
  | .captures .. | .isMatch .. | .contains _ | .state => true
  | .get | .default | .load | .install _ => false

def Step.requests : Step → List Text
  | .captures raw _ | .isMatch raw _ => [raw]
  | .contains _ | .state | .get | .default | .load | .install _ => []

/-- The settings that the environment asks for, or the defaults where these cannot be loaded. -/
def found (w : Surroundings) : Settings :=
  (loadSettings w).value.toOption.getD Settings.default

/-- The settings that the first step to install or need them decides on. -/
def decided (w : Surroundings) (steps : List Step) : Settings :=
  match steps.find? Step.decides with
  | some (.install settings) => settings
  | _ => found w

/-- The patterns that the matcher has been asked for: those it was made with, then those of the
steps. -/
def requested (w : Surroundings) (steps : List Step) : List Text :=
  (decided w steps).preload ++ steps.flatMap Step.requests

/-- The answer to a step, by the settings of the process and the patterns requested before. -/
def reply (w : Surroundings) (settings : Settings) (requested : List Text) : Step → Answer
  | .captures raw candidate => .captures ((Pattern.compile raw).captures candidate)
  | .isMatch raw candidate => .flag ((Pattern.compile raw).isMatch candidate)
  | .contains raw => .flag (requested.contains raw)
  | .state => .counts (Cache.distinct requested) (Cache.distinct requested)
  | .get => .settings settings
  | .default => .settings Settings.default
  | .load => .loaded (loadSettings w).value
  | .install _ => .done

variable {w : Surroundings} {before : List Step} {s : Step}

/-! ### What the environment asks for -/

theorem value_loadSettings_of_variable {path : Text} (named : w.fromEnv = some path)
    (nonempty : path ≠ []) :
    (loadSettings w).value = (Settings.load w.files [path]).value := by
  rw [loadSettings, named, Program.environmentFiles, if_neg (by simpa using nonempty)]

theorem value_loadSettings_of_unset (unset : ∀ path, w.fromEnv = some path → path = []) :
    (loadSettings w).value = .ok Settings.default := by
  have none_named : Program.environmentFiles w.fromEnv = [] := by
    match fromEnv : w.fromEnv with
    | none => rfl
    | some path =>
      rw [unset path fromEnv]
      rfl
  rw [loadSettings, none_named]
  exact Settings.load_nil Config.Package.standard_documented w.files

theorem found_of_ok {settings : Settings} (loaded : (loadSettings w).value = .ok settings) :
    found w = settings := by
  rw [found, loaded]
  rfl

/-! ### What decides the settings -/

theorem Step.decides_of_usesMatcher (h : s.usesMatcher) : s.decides := by
  cases s with
  | captures | isMatch | contains | state => rfl
  | get | default | load | install => cases h

theorem Step.requests_of_not_usesMatcher (h : ¬ s.usesMatcher) : s.requests = [] := by
  cases s with
  | captures | isMatch => exact absurd rfl h
  | contains | state | get | default | load | install => rfl

theorem any_decides_of_any_usesMatcher (h : before.any Step.usesMatcher) :
    before.any Step.decides := by
  obtain ⟨s, mem, uses⟩ := List.any_eq_true.1 h
  exact List.any_eq_true.2 ⟨s, mem, Step.decides_of_usesMatcher uses⟩

theorem requests_of_unused (h : ¬ before.any Step.usesMatcher) :
    before.flatMap Step.requests = [] := by
  rw [List.flatMap_eq_nil_iff]
  intro s mem
  exact Step.requests_of_not_usesMatcher fun uses => h (List.any_eq_true.2 ⟨s, mem, uses⟩)

/-- Once decided, the settings stay. -/
theorem decided_append (h : before.any Step.decides) (later : List Step) :
    decided w (before ++ later) = decided w before := by
  obtain ⟨first, found⟩ := Option.isSome_iff_exists.1 (List.find?_isSome.2 (List.any_eq_true.1 h))
  rw [decided, decided, List.find?_append, found, Option.some_or]

/-- While they are open, the next step decides as the first one would. -/
theorem decided_append_of_open (h : ¬ before.any Step.decides) (later : List Step) :
    decided w (before ++ later) = decided w later := by
  have undecided : before.find? Step.decides = none := by
    simpa [List.find?_eq_none] using h
  rw [decided, decided, List.find?_append, undecided, Option.none_or]

theorem decided_of_open (h : ¬ before.any Step.decides) : decided w before = found w := by
  have := decided_append_of_open (w := w) h []
  rwa [List.append_nil] at this

/-- Only installing settings decides on others than those found. -/
theorem decided_concat (h : ∀ settings, s ≠ .install settings) :
    decided w (before ++ [s]) = decided w before := by
  by_cases fixed : before.any Step.decides
  · exact decided_append fixed [s]
  · rw [decided_append_of_open fixed, decided_of_open fixed]
    cases s with
    | install settings => exact absurd rfl (h settings)
    | captures | isMatch | contains | state | get | default | load => rfl

/-! ### The process after some steps -/

/-- The cache of a matcher that was asked for some patterns. -/
def stock (raws : List Text) : Cache :=
  raws.foldl Cache.request Cache.empty

theorem stock_eq (raws : List Text) : Cache.empty.perform (.preload raws) = stock raws :=
  Cache.perform_eq Cache.empty (by simp)

theorem request_stock (raws : List Text) (raw : Text) :
    (stock raws).request raw = stock (raws ++ [raw]) := by
  rw [stock, stock, List.foldl_append]
  rfl

theorem sound_stock (raws : List Text) : (stock raws).Sound := by
  rw [← stock_eq]
  exact Cache.sound_empty.perform _

/-- A matcher holds each pattern it was asked for, compiled once. -/
theorem account_stock (raws : List Text) : Cache.Account (stock raws) [raws] := by
  have opened : Cache.Account Cache.empty ([] ++ [[]]) := .empty
  exact opened.requests raws

/-- The process after some steps. -/
def after (w : Surroundings) (steps : List Step) : Session where
  settings := if steps.any Step.decides then some (decided w steps) else none
  cache := if steps.any Step.usesMatcher then some (stock (requested w steps)) else none

theorem value_fix (session : Session) (loaded : Except Error Settings) :
    (session.fix loaded).value =
      (loaded.toOption.getD Settings.default,
        { session with settings := some (loaded.toOption.getD Settings.default) }) := by
  cases loaded <;> rfl

theorem getSettings_of_open {session : Session} (undecided : session.settings = none) :
    getSettings w session = loadSettings w >>= session.fix := by
  obtain ⟨settings, cache⟩ := session
  subst undecided
  rfl

theorem value_getSettings (w : Surroundings) (before : List Step) :
    (getSettings w (after w before)).value =
      (decided w before, { after w before with settings := some (decided w before) }) := by
  by_cases fixed : before.any Step.decides
  · simp [getSettings, after, fixed]
  · have undecided : (after w before).settings = none := if_neg fixed
    rw [getSettings_of_open undecided, Logged.value_bind, value_fix, decided_of_open fixed, found]

theorem value_getCache (w : Surroundings) (before : List Step) :
    (getCache w (after w before)).value =
      (stock (requested w before),
        ⟨some (decided w before), some (stock (requested w before))⟩) := by
  by_cases used : before.any Step.usesMatcher
  · simp [getCache, after, used, any_decides_of_any_usesMatcher used]
  · have unmade : (after w before).cache = none := if_neg used
    have asked : requested w before = (decided w before).preload := by
      rw [requested, requests_of_unused used, List.append_nil]
    rw [getCache, unmade, asked]
    simp only [Logged.value_bind, value_getSettings, Cache.ofSettings_eq, stock_eq]
    rfl

/-- A step that uses the matcher makes sure that it is there, and adds its requests. -/
theorem after_concat_of_usesMatcher (h : s.usesMatcher) :
    after w (before ++ [s]) =
      ⟨some (decided w before), some (stock (requested w before ++ s.requests))⟩ := by
  have same : decided w (before ++ [s]) = decided w before :=
    decided_concat fun settings e => by subst e; cases h
  simp [after, h, Step.decides_of_usesMatcher h, requested, same]

/-- Reading the settings decides on them and leaves the matcher alone. -/
theorem after_concat_get (w : Surroundings) (before : List Step) :
    after w (before ++ [.get]) =
      { after w before with settings := some (decided w before) } := by
  have same : decided w (before ++ [.get]) = decided w before := decided_concat (by simp)
  simp [after, requested, same, Step.decides, Step.usesMatcher, Step.requests]

/-- Settings installed before anything else needed some are those of the process. -/
theorem after_concat_install (h : ¬ before.any Step.decides) (settings : Settings) :
    after w (before ++ [.install settings]) =
      { after w before with settings := some settings } := by
  have unused : ¬ before.any Step.usesMatcher := mt any_decides_of_any_usesMatcher h
  have chosen : decided w (before ++ [.install settings]) = settings := by
    rw [decided_append_of_open h]
    rfl
  simp [after, chosen, unused, Step.decides, Step.usesMatcher]

/-- Loading settings and looking at the defaults does nothing, and neither does installing settings
once some are decided on. -/
def Step.Idle (before : List Step) : Step → Prop
  | .default | .load => True
  | .install _ => before.any Step.decides
  | .captures .. | .isMatch .. | .contains _ | .state | .get => False

theorem after_concat_of_idle (h : s.Idle before) : after w (before ++ [s]) = after w before := by
  have passes (same : decided w (before ++ [s]) = decided w before) (unused : s.usesMatcher = false)
      (late : s.decides → before.any Step.decides) :
      after w (before ++ [s]) = after w before := by
    have fixed : (before.any Step.decides || s.decides) = before.any Step.decides := by
      cases decides : s.decides with
      | true => simp [late decides]
      | false => simp
    have asked : s.requests = [] := Step.requests_of_not_usesMatcher (by simp [unused])
    simp [after, requested, same, unused, asked, fixed]
  cases s with
  | default => exact passes (decided_concat (by simp)) rfl (by simp [Step.decides])
  | load => exact passes (decided_concat (by simp)) rfl (by simp [Step.decides])
  | install settings => exact passes (decided_append h _) rfl fun _ => h
  | captures | isMatch | contains | state | get => cases h

/-! ### One step -/

/-- Each step is answered by the settings decided on and the patterns requested, and leaves the
process as its steps say. -/
theorem step_after (w : Surroundings) (before : List Step) (s : Step) :
    (step w (after w before) s).value =
      (reply w (decided w (before ++ [s])) (requested w before) s, after w (before ++ [s])) := by
  have account := account_stock (requested w before)
  cases s with
  | captures raw candidate =>
    rw [after_concat_of_usesMatcher rfl]
    simp only [step, Logged.value_bind, value_getCache, (sound_stock _).captures_eq,
      request_stock]
    rfl
  | isMatch raw candidate =>
    rw [after_concat_of_usesMatcher rfl]
    simp only [step, Logged.value_bind, value_getCache, (sound_stock _).isMatch_eq,
      request_stock]
    rfl
  | contains raw =>
    have held : (stock (requested w before)).contains raw = decide (raw ∈ requested w before) := by
      rw [Bool.eq_iff_iff, account.contains raw]
      simp
    rw [after_concat_of_usesMatcher rfl]
    simp [step, value_getCache, held, reply, Step.requests]
  | state =>
    have size : (stock (requested w before)).size = Cache.distinct (requested w before) :=
      account.size
    have compiled : (stock (requested w before)).compilations =
        Cache.distinct (requested w before) := by
      simpa using account.compilations
    rw [after_concat_of_usesMatcher rfl]
    simp [step, value_getCache, size, compiled, reply, Step.requests]
  | get =>
    have same : decided w (before ++ [.get]) = decided w before := decided_concat (by simp)
    rw [after_concat_get, same]
    simp [step, value_getSettings, reply]
  | default =>
    rw [after_concat_of_idle (s := .default) trivial]
    rfl
  | load =>
    rw [after_concat_of_idle (s := .load) trivial]
    rfl
  | install settings =>
    by_cases fixed : before.any Step.decides
    · have decided_on : (after w before).settings = some (decided w before) := if_pos fixed
      rw [after_concat_of_idle (s := .install settings) fixed]
      simp [step, decided_on, reply]
    · have undecided : (after w before).settings = none := if_neg fixed
      rw [after_concat_install fixed]
      simp [step, undecided, reply]

/-! ### Runs -/

theorem run_cons (w : Surroundings) (session : Session) (s : Step) (steps : List Step) :
    (run w session (s :: steps)).value =
      ((step w session s).value.1 :: (run w (step w session s).value.2 steps).value.1,
        (run w (step w session s).value.2 steps).value.2) := rfl

theorem run_append (w : Surroundings) (session : Session) (steps later : List Step) :
    (run w session (steps ++ later)).value =
      ((run w session steps).value.1 ++ (run w (run w session steps).value.2 later).value.1,
        (run w (run w session steps).value.2 later).value.2) := by
  induction steps generalizing session with
  | nil => rfl
  | cons s steps ih => rw [List.cons_append, run_cons, ih, run_cons]; rfl

theorem length_run (w : Surroundings) (session : Session) (steps : List Step) :
    (run w session steps).value.1.length = steps.length := by
  induction steps generalizing session with
  | nil => rfl
  | cons s steps ih => rw [run_cons, List.length_cons, List.length_cons, ih]

/-- A process is what its steps have made of it. -/
theorem run_after (w : Surroundings) (before steps : List Step) :
    (run w (after w before) steps).value.2 = after w (before ++ steps) := by
  induction steps generalizing before with
  | nil => rw [List.append_nil]; rfl
  | cons s steps ih => rw [run_cons, step_after, ih, List.append_assoc, List.singleton_append]

theorem answers_run (w : Surroundings) (before : List Step) (s : Step) (later : List Step) :
    (run w fresh (before ++ s :: later)).value.1 =
      (run w fresh before).value.1 ++
        reply w (decided w (before ++ [s])) (requested w before) s ::
          (run w (after w (before ++ [s])) later).value.1 := by
  have reached : (run w fresh before).value.2 = after w before := run_after w [] before
  rw [run_append, reached, run_cons, step_after]

/-- What a reply depends on is settled by the time it is given. -/
theorem reply_decided (w : Surroundings) (before : List Step) (s : Step) (later : List Step) :
    reply w (decided w (before ++ [s])) (requested w before) s =
      reply w (decided w (before ++ s :: later))
        ((decided w (before ++ s :: later)).preload ++ before.flatMap Step.requests) s := by
  have settled (decides : s.decides) (needs : ∀ settings, s ≠ .install settings) :
      decided w (before ++ s :: later) = decided w before := by
    have fixed : (before ++ [s]).any Step.decides := by simp [decides]
    have whole : before ++ s :: later = (before ++ [s]) ++ later := by simp
    rw [whole, decided_append fixed, decided_concat needs]
  cases s with
  | captures | isMatch | default | load | install => rfl
  | contains raw => rw [settled rfl (by simp)]; rfl
  | state => rw [settled rfl (by simp)]; rfl
  | get => rw [settled rfl (by simp), decided_concat (by simp)]; rfl

/-- The settings are those of the first step that installs or needs any, in every answer. The
matcher holds exactly the patterns of these settings and those asked for since, each compiled once,
and answers as patterns compiled afresh. Loading settings, looking at the defaults and installing
settings too late change no other answer. -/
theorem run_decided (w : Surroundings) (before : List Step) (s : Step) (later : List Step) :
    let steps := before ++ s :: later
    let settings := decided w steps
    let answers := (run w fresh steps).value.1
    answers[before.length]? =
        some (reply w settings (settings.preload ++ before.flatMap Step.requests) s) ∧
      (s.Idle before →
        (run w fresh (before ++ later)).value.1 = answers.eraseIdx before.length) := by
  intro steps settings answers
  have shown : answers = (run w fresh before).value.1 ++
      reply w settings (settings.preload ++ before.flatMap Step.requests) s ::
        (run w (after w (before ++ [s])) later).value.1 := by
    rw [← reply_decided]
    exact answers_run w before s later
  have length : (run w fresh before).value.1.length = before.length := length_run w fresh before
  have reached : (run w fresh before).value.2 = after w before := run_after w [] before
  constructor
  · rw [shown, List.getElem?_append_right (Nat.le_of_eq length), length, Nat.sub_self]
    rfl
  · intro idle
    rw [shown, after_concat_of_idle idle, run_append, reached,
      List.eraseIdx_append_of_length_le (Nat.le_of_eq length), length, Nat.sub_self]
    rfl

/-- The first access loads the file that the environment names. Settings that are installed after
it come too late. -/
theorem run_decided_late :
    let text := "\x7b\"cache\":\x7b\"initial-capacity\":8,\"preload\":[\"p\"]\x7d\x7d".toList
    let files : Config.Files := fun path =>
      if path = "s.json".toList then some (Text.bytes text) else none
    let w : Surroundings := ⟨files, some "s.json".toList⟩
    let late : Step := .install ⟨1, [['a']]⟩
    let answers := (run w fresh [.get, late, .state, .get]).value.1
    late.Idle [.get] ∧ answers[2]? = some (.counts 1 1) ∧
      answers[3]? = some (.settings ⟨8, [['p']]⟩) ∧
      (run w fresh [.get, .state, .get]).value.1 = answers.eraseIdx 1 := by
  intro text files w late answers
  have file : Settings.Layer .standard files "s.json".toList
      [(Settings.cacheKey, .table (some "s.json".toList)
        [(Settings.capacityKey, .scalar (some "s.json".toList) (.signed 8)),
          (Settings.preloadKey, .array (some "s.json".toList)
            [.scalar (some "s.json".toList) (.text ['p'])])])] := by
    have stands : Config.Stands files "s.json".toList
        ⟨"s.json".toList, .json, Text.bytes text⟩ :=
      ⟨if_pos rfl, rfl, rfl⟩
    have read : Config.Format.read? .json
        (Config.Source.text ⟨"s.json".toList, .json, Text.bytes text⟩) =
        some (.table none [(Settings.cacheKey, .table none
          [(Settings.capacityKey, .scalar none (.signed 8)),
            (Settings.preloadKey, .array none [.scalar none (.text ['p'])])])]) :=
      Config.Format.read?_of_same (by decide +kernel)
    exact ⟨Config.Package.standard_documented.file stands read rfl, Settings.plain_cache _ _⟩
  have loaded : (loadSettings w).value = .ok ⟨8, [['p']]⟩ := by
    rw [value_loadSettings_of_variable rfl (by decide)]
    refine (Settings.Layers.load_eq_ok_iff Config.Package.standard_documented (.cons file .nil) _).2
      ⟨?_, nofun, ?_, nofun⟩
    · rintro v ⟨⟩
      rfl
    · rintro v ⟨⟩
      rfl
  have chosen : decided w [.get, late, .state, .get] = ⟨8, [['p']]⟩ := found_of_ok loaded
  have idle : late.Idle [.get] := rfl
  have shown := (run_decided w [.get, late] .state [.get]).1
  have last := (run_decided w [.get, late, .state] .get []).1
  simp only [List.cons_append, List.nil_append, chosen] at shown last
  exact ⟨idle, shown, last, (run_decided w [.get] late [.state, .get]).2 idle⟩

end PathGlob.Session
