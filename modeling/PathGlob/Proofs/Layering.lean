import Mathlib
import PathGlob.Proofs.Merging

/-!
# Which file decides a setting

The defaults and the files are put over one another, source by source and key by key. For a setting
all of this comes to little: each value that a source gives to it is put over what was there
(`setting_overlayEntries`), whatever else the source says and wherever it stands. A value other than
a table replaces what was there, and a table is no setting, so the last value given decides, and
settings do not look at each other (`Layers.load_eq_ok_iff`). Reading comes first, though: the first
source that cannot be read is the end of loading (`load_of_error`).

All of this holds of any package that keeps to what is documented of it.
-/

namespace PathGlob.Settings

open Config

variable {p : Package}

/-- The values that the entries of a source give to a field of the cache table, in order. -/
def given (field : Text) (entries : Fields) : List Value :=
  (Fields.under cacheKey entries).flatMap fun v => Fields.under field v.fields

/-- What a configuration has for a field of the cache table. -/
def setting (config : Value) (field : Text) : Option Value :=
  (config.get? cacheKey).bind (·.get? field)

/-- The keys of a source are names, and what it says of the cache is a table. -/
structure Plain (entries : Fields) : Prop where
  names : ∀ entry ∈ entries, KeyPath.IsName entry.1
  tables : ∀ entry ∈ entries, entry.1 = cacheKey → ∃ origin fields, entry.2 = .table origin fields

/-! ### What sources put over a setting -/

theorem laid_append (p : Package) (old : Option Value) (values more : List Value) :
    p.laid old (values ++ more) = p.laid (p.laid old values) more :=
  List.foldl_append

theorem laid_concat (p : Package) (old : Option Value) (values : List Value) (v : Value) :
    ∃ before, p.laid old (values ++ [v]) = some (p.overlay v before) :=
  ⟨_, laid_append p old values [v]⟩

/-- Tables put over a value put their fields over its fields. -/
theorem get?_laid (documented : p.Documented) {values : List Value}
    (tables : ∀ v ∈ values, ∃ origin fields, v = .table origin fields) (old : Option Value)
    (field : Text) :
    (p.laid old values).bind (·.get? field) =
      p.laid (old.bind (·.get? field)) (values.flatMap fun v => Fields.under field v.fields) := by
  induction values generalizing old with
  | nil => rfl
  | cons v rest ih =>
    obtain ⟨origin, fields, rfl⟩ := tables v (by simp)
    have here : (old.getD .null).get? field = old.bind (·.get? field) := by
      cases old <;> rfl
    have later := ih (fun v mem => tables v (by simp [mem]))
      (some (p.overlay (.table origin fields) (old.getD .null)))
    rw [List.flatMap_cons, laid_append, ← here]
    rw [Option.bind_some, documented.merges] at later
    exact later

theorem setting_overlayEntries (documented : p.Documented) {entries : Fields}
    (plain : Plain entries) (origin : Option Text) (fields : Fields) (field : Text) :
    setting (p.overlayEntries (.table origin fields) entries) field =
      p.laid (setting (.table origin fields) field) (given field entries) := by
  have tables : ∀ v ∈ Fields.under cacheKey entries, ∃ origin fields, v = .table origin fields := by
    intro v mem
    obtain ⟨entry, inside, rfl⟩ := List.mem_map.1 mem
    obtain ⟨inside, named⟩ := List.mem_filter.1 inside
    exact plain.tables entry inside (eq_of_beq named)
  rw [setting, documented.entries plain.names, documented.merges,
    get?_laid documented tables]
  rfl

theorem setting_foldl (documented : p.Documented) {sources : List Fields}
    (plain : ∀ entries ∈ sources, Plain entries) (origin : Option Text) (fields : Fields)
    (field : Text) :
    setting (sources.foldl p.overlayEntries (.table origin fields)) field =
      p.laid (setting (.table origin fields) field) (sources.flatMap (given field)) := by
  induction sources generalizing origin fields with
  | nil => rfl
  | cons entries rest ih =>
    have first := setting_overlayEntries documented (plain entries (by simp)) origin fields field
    obtain ⟨origin', merged, whole⟩ : ∃ origin' merged,
        p.overlayEntries (.table origin fields) entries = .table origin' merged := by
      rw [documented.entries (plain entries (by simp)).names]
      exact documented.table _ _ _
    rw [whole] at first
    rw [List.foldl_cons, whole, ih fun e mem => plain e (by simp [mem]), first, List.flatMap_cons,
      laid_append]

/-! ### The defaults -/

/-- What the text of the defaults says. -/
def defaultEntries : Fields :=
  [(cacheKey, .table none
    [(capacityKey, .scalar none (.signed 64)), (preloadKey, .array none [])])]

theorem read_defaultText : Format.read? .yaml defaultText.toList =
    some (.table none defaultEntries) :=
  Format.read?_of_same (by decide +kernel)

theorem isName_cacheKey : KeyPath.IsName cacheKey :=
  ⟨by decide, List.all_eq_true.1 (by decide)⟩

theorem plain_cache (origin : Option Text) (fields : Fields) :
    Plain [(cacheKey, .table origin fields)] :=
  ⟨by simpa using isName_cacheKey, by simp⟩

theorem plain_defaultEntries : Plain defaultEntries :=
  plain_cache none _

/-! ### Settings from what was put together -/

/-- What becomes of the values of both settings. -/
def convert (p : Package) (capacity preload : Value) : Except ConfigError Settings := do
  let n ← p.toUnsigned (below cacheKey capacityKey) capacity
  let ts ← p.toTexts (below cacheKey preloadKey) preload
  return ⟨n, ts⟩

theorem ofConfig_eq_convert {config capacity preload : Value}
    (hc : setting config capacityKey = some capacity)
    (hp : setting config preloadKey = some preload) :
    ofConfig p config = convert p capacity preload := by
  obtain ⟨cache, outer, capacity_found⟩ := Option.bind_eq_some_iff.1 hc
  obtain ⟨other, outer', preload_found⟩ := Option.bind_eq_some_iff.1 hp
  cases outer.symm.trans outer'
  rw [ofConfig, show Fields.get? config.fields cacheKey = some cache from outer]
  change ofCacheValue p cache = _
  cases cache with
  | scalar | array => cases capacity_found
  | table origin fields =>
    change Fields.get? fields capacityKey = _ at capacity_found
    change Fields.get? fields preloadKey = _ at preload_found
    simp only [ofCacheValue, capacity_found, preload_found, convert, Option.mapM_some]
    cases p.toUnsigned (below cacheKey capacityKey) capacity with
    | error e => rfl
    | ok n =>
      cases p.toTexts (below cacheKey preloadKey) preload with
      | error e => rfl
      | ok ts => rfl

/-- The file at a path can be read, and what it says is plain. -/
structure Layer (p : Package) (files : Files) (path : Text) (entries : Fields) : Prop where
  read : p.readFile files path = .ok entries
  plain : Plain entries

/-- Files that can be put over one another, each with what it says. -/
abbrev Layers (p : Package) (files : Files) : List Text → List Fields → Prop :=
  List.Forall₂ (Layer p files)

variable {files : Files} {paths : List Text} {tables : List Fields}

theorem Layers.mapM_readFile (layers : Layers p files paths tables) :
    paths.mapM (p.readFile files) = .ok tables := by
  induction layers with
  | nil => rfl
  | cons layer _ ih =>
    rw [List.mapM_cons, layer.read, ih]
    rfl

theorem Layers.plain (layers : Layers p files paths tables) :
    ∀ entries ∈ defaultEntries :: tables, Plain entries := by
  have rest : ∀ entries ∈ tables, Plain entries := by
    induction layers with
    | nil => simp
    | cons layer _ ih => simpa using ⟨layer.plain, ih⟩
  simpa using ⟨plain_defaultEntries, rest⟩

theorem value_loadWith_eq (documented : p.Documented) (files : Files) (paths : List Text) :
    (loadWith p files paths).value =
      ((paths.mapM (p.readFile files)).bind fun tables =>
        ofConfig p (p.layered (defaultEntries :: tables))).mapError .config := by
  rw [value_loadWith, readWith, documented.text read_defaultText]
  rfl

/-- What is loaded depends on nothing but the values given to each of the two settings. -/
theorem Layers.load_eq (documented : p.Documented) (layers : Layers p files paths tables) :
    ∃ capacity preload,
      p.laid none (.scalar none (.signed 64) :: tables.flatMap (given capacityKey)) =
        some capacity ∧
      p.laid none (.array none [] :: tables.flatMap (given preloadKey)) = some preload ∧
      (loadWith p files paths).value = (convert p capacity preload).mapError .config := by
  have laid (v : Value) (rest : List Value) : ∃ x, p.laid none (v :: rest) = some x := by
    rcases List.eq_nil_or_concat (v :: rest) with nothing | ⟨values, last, whole⟩
    · cases nothing
    · obtain ⟨before, found⟩ := laid_concat p none values last
      exact ⟨_, by rw [whole, List.concat_eq_append, found]⟩
  have settings (field : Text) := setting_foldl documented layers.plain none [] field
  obtain ⟨capacity, hc⟩ := laid (.scalar none (.signed 64)) (tables.flatMap (given capacityKey))
  obtain ⟨preload, hp⟩ := laid (.array none []) (tables.flatMap (given preloadKey))
  refine ⟨capacity, preload, hc, hp, ?_⟩
  rw [value_loadWith_eq documented, layers.mapM_readFile]
  have converted := ofConfig_eq_convert (p := p) ((settings capacityKey).trans hc)
    ((settings preloadKey).trans hp)
  exact congrArg (Except.mapError Error.config) converted

theorem Layers.load_congr (documented : p.Documented) {others : List Text}
    {tables' : List Fields} (layers : Layers p files paths tables)
    (layers' : Layers p files others tables')
    (same : ∀ key ∈ [capacityKey, preloadKey],
      tables.flatMap (given key) = tables'.flatMap (given key)) :
    (loadWith p files paths).value = (loadWith p files others).value := by
  obtain ⟨capacity, preload, hc, hp, loaded⟩ := layers.load_eq documented
  obtain ⟨capacity', preload', hc', hp', loaded'⟩ := layers'.load_eq documented
  rw [same capacityKey (by simp), hc'] at hc
  rw [same preloadKey (by simp), hp'] at hp
  cases hc
  cases hp
  rw [loaded, loaded']

/-! ### The last value decides -/

/-- The value that files give to a field last, if any of them gives one. -/
def lastGiven? (field : Text) (tables : List Fields) : Option Value :=
  (tables.flatMap (given field)).getLast?

/-- The settings that come of the values given last, and of the defaults where none is given. -/
structure LastGiven (p : Package) (tables : List Fields) (s : Settings) : Prop where
  capacity : ∀ v, lastGiven? capacityKey tables = some v →
    p.toUnsigned (below cacheKey capacityKey) v = .ok s.capacity
  noCapacity : lastGiven? capacityKey tables = none → s.capacity = 64
  preload : ∀ v, lastGiven? preloadKey tables = some v →
    p.toTexts (below cacheKey preloadKey) v = .ok s.preload
  noPreload : lastGiven? preloadKey tables = none → s.preload = []

theorem LastGiven.congr {others : List Fields} {s : Settings} (h : LastGiven p tables s)
    (same : ∀ key ∈ [capacityKey, preloadKey], lastGiven? key tables = lastGiven? key others) :
    LastGiven p others s := by
  have capacity := same capacityKey (by simp)
  have preload := same preloadKey (by simp)
  refine ⟨?_, ?_, ?_, ?_⟩
  · rw [← capacity]
    exact h.capacity
  · rw [← capacity]
    exact h.noCapacity
  · rw [← preload]
    exact h.preload
  · rw [← preload]
    exact h.noPreload

/-- What comes before a file that gives a value has no part in the last one. -/
theorem lastGiven?_append {field : Text} {later : List Fields}
    (gives : ∃ entries ∈ later, given field entries ≠ []) (earlier : List Fields) :
    lastGiven? field (earlier ++ later) = lastGiven? field later := by
  have some_given : later.flatMap (given field) ≠ [] := by
    obtain ⟨entries, mem, gives⟩ := gives
    intro none_given
    exact gives (List.flatMap_eq_nil_iff.1 none_given entries mem)
  rw [lastGiven?, List.flatMap_append, List.getLast?_append_of_ne_nil _ some_given]
  rfl

section Converting

variable {α : Type} {f : Value → Except ConfigError α} {x : Value}

/-- What can be converted is no table, so it has replaced all that was there before. -/
theorem laid_concat_iff (documented : p.Documented)
    (no_table : ∀ origin fields a, f (.table origin fields) ≠ .ok a) {old : Option Value}
    {values : List Value} {v : Value} (laid : p.laid old (values ++ [v]) = some x) (a : α) :
    f x = .ok a ↔ f v = .ok a := by
  obtain ⟨before, whole⟩ := laid_concat p old values v
  cases laid.symm.trans whole
  by_cases table : ∃ origin fields, v = .table origin fields
  · obtain ⟨origin, fields, rfl⟩ := table
    obtain ⟨origin', merged, whole⟩ := documented.table origin fields before
    rw [whole]
    exact iff_of_false (no_table origin' merged a) (no_table origin fields a)
  · have replaced := documented.replaces (v := v)
      (fun origin fields same => table ⟨origin, fields, same⟩) before
    rw [replaced]

theorem laid_cons_iff (documented : p.Documented)
    (no_table : ∀ origin fields a, f (.table origin fields) ≠ .ok a) {first : Value}
    {values : List Value} (laid : p.laid none (first :: values) = some x) (a : α) :
    f x = .ok a ↔
      (∀ v, values.getLast? = some v → f v = .ok a) ∧
        (values.getLast? = none → f first = .ok a) := by
  rcases List.eq_nil_or_concat values with rfl | ⟨front, v, rfl⟩
  · have ended : p.laid none ([] ++ [first]) = some x := laid
    simpa using laid_concat_iff documented no_table ended a
  · rw [List.concat_eq_append] at laid ⊢
    have ended : p.laid none ((first :: front) ++ [v]) = some x := laid
    simpa using laid_concat_iff documented no_table ended a

end Converting

theorem convert_eq_ok_iff {capacity preload : Value} {s : Settings} :
    convert p capacity preload = .ok s ↔
      p.toUnsigned (below cacheKey capacityKey) capacity = .ok s.capacity ∧
        p.toTexts (below cacheKey preloadKey) preload = .ok s.preload := by
  obtain ⟨n, ts⟩ := s
  rw [convert]
  cases p.toUnsigned (below cacheKey capacityKey) capacity with
  | error e => simp [bind, Except.bind]
  | ok m =>
    cases p.toTexts (below cacheKey preloadKey) preload with
    | error e => simp [bind, Except.bind]
    | ok us => simp [bind, Except.bind, pure, Except.pure]

/-- Loading succeeds exactly if the values given last can be converted, and gives what they come
to. -/
theorem Layers.load_eq_ok_iff (documented : p.Documented) (layers : Layers p files paths tables)
    (s : Settings) : (loadWith p files paths).value = .ok s ↔ LastGiven p tables s := by
  obtain ⟨capacity, preload, hc, hp, loaded⟩ := layers.load_eq documented
  have capacity_iff := laid_cons_iff documented
    (fun origin fields => documented.table_not_number origin fields (below cacheKey capacityKey))
    hc s.capacity
  have preload_iff := laid_cons_iff documented
    (fun origin fields => documented.table_not_texts origin fields (below cacheKey preloadKey))
    hp s.preload
  have default_capacity : p.toUnsigned (below cacheKey capacityKey) (.scalar none (.signed 64)) =
      .ok 64 :=
    documented.number (.signed (n := 64) (by decide)) _
  have default_preload : p.toTexts (below cacheKey preloadKey) (.array none []) = .ok [] :=
    documented.texts (.array []) _
  rw [default_capacity, Except.ok.injEq] at capacity_iff
  rw [default_preload, Except.ok.injEq] at preload_iff
  have unmapped {result : Except ConfigError Settings} :
      result.mapError Error.config = .ok s ↔ result = .ok s := by
    cases result <;> simp [Except.mapError]
  rw [loaded, unmapped, convert_eq_ok_iff, capacity_iff, preload_iff]
  constructor
  · rintro ⟨⟨last, first⟩, last', first'⟩
    exact ⟨last, fun none_given => (first none_given).symm, last',
      fun none_given => (first' none_given).symm⟩
  · rintro ⟨last, first, last', first'⟩
    exact ⟨⟨last, fun none_given => (first none_given).symm⟩, last',
      fun none_given => (first' none_given).symm⟩

/-- Without files, the defaults are what their text says. -/
theorem load_nil (documented : p.Documented) (files : Files) :
    (loadWith p files []).value = .ok default :=
  (Layers.load_eq_ok_iff documented .nil default).2
    ⟨nofun, fun _ => rfl, nofun, fun _ => rfl⟩

/-! ### The first error decides -/

section FirstError

variable {α β ε : Type} {f : α → Except ε β}

theorem mapM_of_error {before after : List α} {x : α} {e : ε}
    (fine : ∀ y ∈ before, ∃ b, f y = .ok b) (fails : f x = .error e) :
    (before ++ x :: after).mapM f = .error e := by
  induction before with
  | nil =>
    rw [List.nil_append, List.mapM_cons, fails]
    rfl
  | cons y rest ih =>
    obtain ⟨b, done⟩ := fine y (by simp)
    rw [List.cons_append, List.mapM_cons, done, ih fun z mem => fine z (by simp [mem])]
    rfl

theorem exists_first_error {xs : List α} (fails : ∃ x ∈ xs, ∃ e, f x = .error e) :
    ∃ before x after e, xs = before ++ x :: after ∧ (∀ y ∈ before, ∃ b, f y = .ok b) ∧
      f x = .error e := by
  induction xs with
  | nil => simp at fails
  | cons y rest ih =>
    cases done : f y with
    | error e => exact ⟨[], y, rest, e, rfl, by simp, done⟩
    | ok b =>
      have later : ∃ x ∈ rest, ∃ e, f x = .error e := by
        simpa [done] using fails
      obtain ⟨before, x, after, e, rfl, fine, failed⟩ := ih later
      exact ⟨y :: before, x, after, e, rfl, by simpa using ⟨⟨b, done⟩, fine⟩, failed⟩

end FirstError

theorem load_of_error (documented : p.Documented) {before after : List Text} {path : Text}
    {e : ConfigError} (fine : ∀ q ∈ before, ∃ entries, p.readFile files q = .ok entries)
    (fails : p.readFile files path = .error e) :
    (loadWith p files (before ++ path :: after)).value = .error (.config e) := by
  rw [value_loadWith_eq documented, mapM_of_error fine fails]
  rfl

/-- A file that is a plain table is one of the layers, and of any layers, loading succeeds if the
values given last to the two settings can be converted, and gives what they come to, each on its
own: 64 and no patterns where none is given, and a number or a list of texts for what it is. So a
file that gives nothing can stand anywhere, neighbours that give nothing to the same setting can
change places, and it makes no difference what a file gives to a setting that a later one gives a
value. Where a file cannot be read, loading fails with the error of the first such file, whatever
the others hold; a missing file and one that is not in its format are of this kind. -/
theorem load_layered (documented : p.Documented) (files : Files) :
    (∀ path source v origin entries, Stands files path source →
      source.format.read? source.text = some v → v.named source.name = .table origin entries →
      Plain entries → Layer p files path entries) ∧
    (∀ paths tables, Layers p files paths tables →
      ∀ s, (loadWith p files paths).value = .ok s ↔ LastGiven p tables s) ∧
    (∀ paths tables n ts, Layers p files paths tables →
      (lastGiven? capacityKey tables).elim (n = 64) (IsNumber · n) →
      (lastGiven? preloadKey tables).elim (ts = []) (AreTexts · ts) →
      (loadWith p files paths).value = .ok ⟨n, ts⟩) ∧
    (∀ before ts path t after us, Layers p files before ts → Layer p files path t →
      Layers p files after us → (∀ key ∈ [capacityKey, preloadKey], given key t = []) →
      (loadWith p files (before ++ path :: after)).value =
        (loadWith p files (before ++ after)).value) ∧
    (∀ before ts one t other u after us, Layers p files before ts → Layer p files one t →
      Layer p files other u → Layers p files after us →
      (∀ key ∈ [capacityKey, preloadKey], given key t = [] ∨ given key u = []) →
      (loadWith p files (before ++ one :: other :: after)).value =
        (loadWith p files (before ++ other :: one :: after)).value) ∧
    (∀ key before ts one t other u after us, Layers p files before ts → Layer p files one t →
      Layer p files other u → Layers p files after us → (∃ later ∈ us, given key later ≠ []) →
      (∀ field, field ≠ key → given field t = given field u) →
      ∀ s, (loadWith p files (before ++ one :: after)).value = .ok s ↔
        (loadWith p files (before ++ other :: after)).value = .ok s) ∧
    (∀ paths, (∃ path ∈ paths, ∃ e, p.readFile files path = .error e) →
      ∃ before path after e, paths = before ++ path :: after ∧
        (∀ q ∈ before, ∃ entries, p.readFile files q = .ok entries) ∧
        p.readFile files path = .error e ∧
        (loadWith p files paths).value = .error (.config e)) ∧
    ∀ before path after, (∀ q ∈ before, ∃ entries, p.readFile files q = .ok entries) →
      (Missing files path → (loadWith p files (before ++ path :: after)).value =
        .error (.config (.missingFile path))) ∧
      ∀ source, Stands files path source → source.format.read? source.text = none →
        ∃ reason, (loadWith p files (before ++ path :: after)).value =
          .error (.config (.badFile (some source.name) (.unreadable reason))) := by
  refine ⟨?_, fun paths tables layers => layers.load_eq_ok_iff documented, ?_, ?_, ?_, ?_, ?_, ?_⟩
  · intro path source v origin entries stands read table plain
    exact ⟨documented.file stands read table, plain⟩
  · intro paths tables n ts layers capacity preload
    refine (layers.load_eq_ok_iff documented ⟨n, ts⟩).2 ⟨?_, ?_, ?_, ?_⟩
    · intro v last
      rw [last] at capacity
      exact documented.number capacity _
    · intro none_given
      rwa [none_given] at capacity
    · intro v last
      rw [last] at preload
      exact documented.texts preload _
    · intro none_given
      rwa [none_given] at preload
  · intro before ts path t after us first here last silent
    refine Layers.load_congr documented (List.rel_append first (.cons here last))
      (List.rel_append first last) ?_
    intro key mem
    simp [silent key mem]
  · intro before ts one t other u after us first here next last apart
    refine Layers.load_congr documented (List.rel_append first (.cons here (.cons next last)))
      (List.rel_append first (.cons next (.cons here last))) ?_
    intro key mem
    rcases apart key mem with silent | silent <;> simp [silent]
  · intro key before ts one t other u after us first here there last overridden same s
    rw [Layers.load_eq_ok_iff documented (List.rel_append first (.cons here last)),
      Layers.load_eq_ok_iff documented (List.rel_append first (.cons there last))]
    have last_same (field : Text) :
        lastGiven? field (ts ++ t :: us) = lastGiven? field (ts ++ u :: us) := by
      by_cases overrides : field = key
      · subst overrides
        have front (x : Fields) : ts ++ x :: us = (ts ++ [x]) ++ us := by simp
        rw [front t, front u, lastGiven?_append overridden, lastGiven?_append overridden]
      · rw [lastGiven?, lastGiven?, List.flatMap_append, List.flatMap_append, List.flatMap_cons,
          List.flatMap_cons, same field overrides]
    exact ⟨fun h => h.congr fun field _ => last_same field,
      fun h => h.congr fun field _ => (last_same field).symm⟩
  · intro paths some_fails
    obtain ⟨before, path, after, e, rfl, fine, fails⟩ := exists_first_error some_fails
    exact ⟨before, path, after, e, rfl, fine, fails, load_of_error documented fine fails⟩
  · intro before path after fine
    refine ⟨fun missing => load_of_error documented fine (documented.missing missing), ?_⟩
    intro source stands unread
    obtain ⟨reason, fails⟩ := documented.rejected stands unread
    exact ⟨reason, load_of_error documented fine fails⟩

/-- Patterns that are no list do no harm once a later file gives others, which leaves the capacity
alone. A missing file between the two is the end of loading. -/
theorem load_layered_overridden :
    let files : Files := fun path =>
      if path = "a.json".toList then some (Text.bytes
        "\x7b\"cache\":\x7b\"initial-capacity\":128,\"preload\":\"x\"\x7d\x7d".toList)
      else if path = "b.json".toList then some (Text.bytes
        "\x7b\"cache\":\x7b\"preload\":[\"p\",\"q\"]\x7d\x7d".toList)
      else none
    (load files ["a.json".toList, "b.json".toList]).value = .ok ⟨128, [['p'], ['q']]⟩ ∧
      (load files ["a.json".toList, ['c'], "b.json".toList]).value =
        .error (.config (.missingFile ['c'])) := by
  intro files
  obtain ⟨layer, -, pinned, -, -, -, -, stops⟩ := load_layered Package.standard_documented files
  have stands {path text : Text} (here : files path = some (Text.bytes text))
      (json : Format.ofExtension? ((Path.extension? path).getD []) = some .json)
      (tidy : path = Path.tidy path) :
      Stands files path ⟨path, .json, Text.bytes text⟩ :=
    ⟨here, json, tidy⟩
  have first : Layer .standard files "a.json".toList [(cacheKey, .table (some "a.json".toList)
      [(capacityKey, .scalar (some "a.json".toList) (.signed 128)),
        (preloadKey, .scalar (some "a.json".toList) (.text ['x']))])] := by
    refine layer _ _ (.table none [(cacheKey, .table none
      [(capacityKey, .scalar none (.signed 128)), (preloadKey, .scalar none (.text ['x']))])])
      _ _ (stands (if_pos rfl) rfl rfl) (Format.read?_of_same (by decide +kernel)) rfl
      (plain_cache _ _)
  have second : Layer .standard files "b.json".toList [(cacheKey, .table (some "b.json".toList)
      [(preloadKey, .array (some "b.json".toList)
        [.scalar (some "b.json".toList) (.text ['p']),
          .scalar (some "b.json".toList) (.text ['q'])])])] := by
    refine layer _ _ (.table none [(cacheKey, .table none
      [(preloadKey, .array none [.scalar none (.text ['p']), .scalar none (.text ['q'])])])])
      _ _ (stands ((if_neg (by decide)).trans (if_pos rfl)) rfl rfl)
      (Format.read?_of_same (by decide +kernel)) rfl (plain_cache _ _)
  have missing : Missing files ['c'] := by
    have absent (path : Text) (other : path ≠ "a.json".toList ∧ path ≠ "b.json".toList) :
        files path = none :=
      (if_neg other.1).trans (if_neg other.2)
    have others : ∀ known ∈ Format.extensions,
        Path.withExtension ['c'] known.1 ≠ "a.json".toList ∧
          Path.withExtension ['c'] known.1 ≠ "b.json".toList := by
      decide
    exact ⟨absent _ (by decide), fun ext format mem => absent _ (others (ext, format) mem)⟩
  constructor
  · refine pinned _ _ _ _ (.cons first (.cons second .nil)) ?_ ?_
    · exact IsNumber.signed (n := 128) (by decide)
    · exact AreTexts.array [(some "b.json".toList, ['p']), (some "b.json".toList, ['q'])]
  · exact (stops ["a.json".toList] ['c'] _ (by simpa using ⟨_, first.read⟩)).1 missing

end PathGlob.Settings
