import Mathlib
import PathGlob.Settings

/-!
# What the configuration package is relied on for

Loading settings leaves reading, merging and converting to a package. `Package.Documented` says what
of the package this takes for granted: a missing file and one that is not in its format are errors,
tables merge key by key and anything else replaces what was there, and numbers and lists of texts
are converted to what they are. The package at hand is one of this kind
(`Package.standard_documented`).
-/

namespace PathGlob.Config

/-- A key that is a name and nothing else. -/
def KeyPath.IsName (key : Text) : Prop :=
  key ≠ [] ∧ ∀ c ∈ key, isIdentifier c

theorem KeyPath.ofKey_of_isName {key : Text} (h : IsName key) : ofKey key = ⟨key, []⟩ := by
  have root : key.takeWhile isIdentifier = key := List.takeWhile_eq_self_iff.2 h.2
  have behind : key.dropWhile isIdentifier = [] := List.dropWhile_eq_nil_iff.2 h.2
  have named : key.isEmpty = false := by simpa using h.1
  simp [ofKey, parse?, root, behind, named, steps?]

def Fields.under (key : Text) (fields : Fields) : List Value :=
  (fields.filter (·.1 == key)).map (·.2)

theorem Fields.under_cons_self (key : Text) (v : Value) (rest : Fields) :
    under key ((key, v) :: rest) = v :: under key rest := by
  simp [under]

theorem Fields.under_cons_of_ne {key other : Text} (h : other ≠ key) (v : Value) (rest : Fields) :
    under key ((other, v) :: rest) = under key rest := by
  simp [under, h]

def Value.get? (v : Value) (key : Text) : Option Value :=
  Fields.get? v.fields key

/-- A number as it may stand in a configuration, at 64 bits. -/
inductive IsNumber : Value → Nat → Prop where
  | signed {origin} {n : Nat} : n < 2 ^ 63 → IsNumber (.scalar origin (.signed n)) n
  | unsigned {origin n} : n < 2 ^ 64 → IsNumber (.scalar origin (.unsigned n)) n
  | digits {origin n} : n < 2 ^ 64 → IsNumber (.scalar origin (.text (Decimal.text n))) n

/-- Texts as a list of them stands in a configuration. -/
inductive AreTexts : Value → List Text → Prop where
  | array {origin} (ts : List (Option Text × Text)) :
      AreTexts (.array origin (ts.map fun t => .scalar t.1 (.text t.2))) (ts.map (·.2))

/-- A path is that of a file, and its extension names a format. -/
structure Stands (files : Files) (path : Text) (source : Source) : Prop where
  bytes : files path = some source.bytes
  format : Format.ofExtension? ((Path.extension? path).getD []) = some source.format
  name : source.name = Path.tidy path

/-- There is no file at a path, with or without an extension that names a format. -/
def Missing (files : Files) (path : Text) : Prop :=
  files path = none ∧ ∀ ext format, (ext, format) ∈ Format.extensions →
    files (Path.withExtension path ext) = none

namespace Package

/-- Values put one after the other over what was there, if anything. -/
def laid (p : Package) (old : Option Value) (values : List Value) : Option Value :=
  values.foldl (fun old v => some (p.overlay v (old.getD .null))) old

/-- What loading settings takes for granted of a package. -/
structure Documented (p : Package) : Prop where
  text : ∀ {format t origin fields}, Format.read? format t = some (.table origin fields) →
    p.readText format t = .ok fields
  file : ∀ {files path source v origin fields}, Stands files path source →
    source.format.read? source.text = some v → v.named source.name = .table origin fields →
    p.readFile files path = .ok fields
  missing : ∀ {files path}, Missing files path → p.readFile files path = .error (.missingFile path)
  rejected : ∀ {files path source}, Stands files path source →
    source.format.read? source.text = none →
    ∃ reason, p.readFile files path = .error (.badFile (some source.name) (.unreadable reason))
  /-- What is no table replaces what was there. -/
  replaces : ∀ {v}, (∀ origin fields, v ≠ .table origin fields) → ∀ old, p.overlay v old = v
  /-- A table stays one, -/
  table : ∀ origin fields old, ∃ origin' merged,
    p.overlay (.table origin fields) old = .table origin' merged
  /-- and its values are put over those under the same keys. -/
  merges : ∀ origin fields old key, (p.overlay (.table origin fields) old).get? key =
    p.laid (old.get? key) (Fields.under key fields)
  /-- Where all keys are names, a source is a table put over the configuration. -/
  entries : ∀ {entries : Fields}, (∀ entry ∈ entries, KeyPath.IsName entry.1) →
    ∀ origin fields, p.overlayEntries (.table origin fields) entries =
      p.overlay (.table none entries) (.table origin fields)
  number : ∀ {v n}, IsNumber v n → ∀ key, p.toUnsigned key v = .ok n
  texts : ∀ {v ts}, AreTexts v ts → ∀ key, p.toTexts key v = .ok ts
  table_not_number : ∀ origin fields key n, p.toUnsigned key (.table origin fields) ≠ .ok n
  table_not_texts : ∀ origin fields key ts, p.toTexts key (.table origin fields) ≠ .ok ts

end Package

/-! ### Reading -/

variable {files : Files} {path : Text}

theorem Source.find_of_missing (missing : Missing files path) :
    find files path = .error (.missingFile path) := by
  obtain ⟨absent, nowhere⟩ := missing
  unfold find
  split
  · next bytes present =>
    rw [absent] at present
    cases present
  · dsimp only
    split
    · next source found =>
      obtain ⟨known, mem, found⟩ := List.exists_of_findSome?_eq_some found
      simp [nowhere known.1 known.2 mem] at found
    · rfl

theorem Stands.find {source : Source} (stands : Stands files path source) :
    Source.find files path = .ok source := by
  obtain ⟨name, format, bytes⟩ := source
  obtain ⟨here, known, rfl⟩ := stands
  simp only [Source.find, here, known]

theorem Stands.readFile {source : Source} (stands : Stands files path source) :
    readFile files path = entriesOf (some source.name) source.format source.text := by
  rw [Config.readFile, stands.find]
  rfl

/-! ### Merging -/

namespace Value

/-- Fields put over a table are put over the fields of the same name, one after the other. -/
theorem overlayFields_table (origin : Option Text) (old fields : Fields) :
    ∃ merged, overlayFields fields (.table origin old) = .table origin merged ∧
      ∀ key, Fields.get? merged key =
        Package.standard.laid (Fields.get? old key) (Fields.under key fields) := by
  induction fields generalizing old with
  | nil => exact ⟨old, rfl, fun key => rfl⟩
  | cons field rest ih =>
    obtain ⟨name, incoming⟩ := field
    have first : updateKey name (overlay incoming) (.table origin old) =
        .table origin (old.set name (overlay incoming ((Fields.get? old name).getD null))) := rfl
    obtain ⟨merged, whole, later⟩ :=
      ih (old.set name (overlay incoming ((Fields.get? old name).getD null)))
    refine ⟨merged, ?_, fun key => ?_⟩
    · rw [overlayFields, first, whole]
    · rw [later]
      by_cases same : name = key
      · subst same
        rw [Fields.get?_set, Fields.under_cons_self]
        rfl
      · rw [Fields.get?_set_of_ne _ _ (Ne.symm same), Fields.under_cons_of_ne same]

theorem overlay_table (origin : Option Text) (fields : Fields) (old : Value) :
    ∃ origin' merged, overlay (.table origin fields) old = .table origin' merged ∧
      ∀ key, Fields.get? merged key =
        Package.standard.laid (old.get? key) (Fields.under key fields) := by
  have as_table : ∃ origin', old.asTable = .table origin' old.fields := by
    cases old with
    | scalar | array => exact ⟨none, rfl⟩
    | table origin' fields' => exact ⟨origin', rfl⟩
  obtain ⟨origin', as_table⟩ := as_table
  obtain ⟨merged, whole, under⟩ := overlayFields_table origin' old.fields fields
  exact ⟨origin', merged, by rw [overlay, as_table, whole], under⟩

end Value

/-- An entry whose key is a name is put over what is under that name. -/
theorem overlayEntry_of_isName {entry : Text × Value} (name : KeyPath.IsName entry.1)
    (config : Value) :
    overlayEntry config entry = config.updateKey entry.1 (Value.overlay entry.2) := by
  simp only [overlayEntry, KeyPath.ofKey_of_isName name]
  rfl

theorem overlayFile_of_names {entries : Fields} (names : ∀ entry ∈ entries, KeyPath.IsName entry.1)
    (config : Value) : overlayFile config entries = Value.overlayFields entries config := by
  induction entries generalizing config with
  | nil => rfl
  | cons entry rest ih =>
    have first := overlayEntry_of_isName (names entry (by simp)) config
    have later := ih (fun e mem => names e (by simp [mem])) (overlayEntry config entry)
    rw [Value.overlayFields, ← first]
    exact later

/-! ### Converting -/

theorem toLower_of_isDigit {c : Char} (digit : c.isDigit) : c.toLower = c := by
  have low : c.toNat ≤ 57 := by
    simp only [Char.isDigit, Bool.and_eq_true, decide_eq_true_eq] at digit
    exact digit.2
  unfold Char.toLower
  split
  · next upper =>
    have high : 65 ≤ c.toNat := upper.1
    omega
  · rfl

/-- Digits are none of the words for yes and no. -/
theorem unsignedOfText?_text {n : Nat} (small : n < 2 ^ 64) :
    unsignedOfText? (Decimal.text n) = some n := by
  have digits : ∀ c ∈ (Decimal.text n).map Char.toLower, c.isDigit := by
    intro c mem
    obtain ⟨d, inside, rfl⟩ := List.mem_map.1 mem
    have digit := Decimal.isDigit_of_mem_text inside
    rwa [toLower_of_isDigit digit]
  have no_word (word : String) (letter : ∃ c ∈ word.toList, ¬ c.isDigit) :
      String.ofList ((Decimal.text n).map Char.toLower) ≠ word := by
    rintro rfl
    obtain ⟨c, inside, other⟩ := letter
    exact other (digits c (by simpa using inside))
  have not_yes : String.ofList ((Decimal.text n).map Char.toLower) ∉ ["true", "on", "yes"] := by
    simp only [List.mem_cons, List.not_mem_nil, or_false, not_or]
    exact ⟨no_word _ ⟨'t', by decide, by decide⟩, no_word _ ⟨'o', by decide, by decide⟩,
      no_word _ ⟨'y', by decide, by decide⟩⟩
  have not_no : String.ofList ((Decimal.text n).map Char.toLower) ∉ ["false", "off", "no"] := by
    simp only [List.mem_cons, List.not_mem_nil, or_false, not_or]
    exact ⟨no_word _ ⟨'f', by decide, by decide⟩, no_word _ ⟨'o', by decide, by decide⟩,
      no_word _ ⟨'n', by decide, by decide⟩⟩
  rw [unsignedOfText?, if_neg not_yes, if_neg not_no, Decimal.natural?_text]
  simpa [Option.filter] using small

theorem Value.textsFrom_texts (key : Text) (i : Nat) (ts : List (Option Text × Text)) :
    textsFrom key i (ts.map fun t => .scalar t.1 (.text t.2)) = .ok (ts.map (·.2)) := by
  induction ts generalizing i with
  | nil => rfl
  | cons t ts ih =>
    rw [List.map_cons, textsFrom, ih]
    rfl

/-! ### Reading a given text -/

namespace Value

mutual

/-- Whether two values are the same, as far as this is told by evaluation: not for floats. -/
def same : Value → Value → Bool
  | .scalar o (.signed n), .scalar o' (.signed n') => o == o' && n == n'
  | .scalar o (.text t), .scalar o' (.text t') => o == o' && t == t'
  | .array o items, .array o' items' => o == o' && sameItems items items'
  | .table o fields, .table o' fields' => o == o' && sameFields fields fields'
  | _, _ => false

def sameItems : List Value → List Value → Bool
  | [], [] => true
  | v :: rest, v' :: rest' => same v v' && sameItems rest rest'
  | _, _ => false

def sameFields : List (Text × Value) → List (Text × Value) → Bool
  | [], [] => true
  | (key, v) :: rest, (key', v') :: rest' => key == key' && same v v' && sameFields rest rest'
  | _, _ => false

end

mutual

theorem eq_of_same : ∀ {v w : Value}, same v w = true → v = w
  | .scalar _ (.signed _), w, h => by
    cases w with
    | scalar o s => cases s <;> simp_all [same]
    | array | table => simp [same] at h
  | .scalar _ (.text _), w, h => by
    cases w with
    | scalar o s => cases s <;> simp_all [same]
    | array | table => simp [same] at h
  | .scalar _ .null, w, h | .scalar _ (.bool _), w, h | .scalar _ (.unsigned _), w, h
  | .scalar _ (.float _), w, h => by simp [same] at h
  | .array _ items, w, h => by
    cases w with
    | scalar | table => simp [same] at h
    | array o' items' =>
      rw [same, Bool.and_eq_true, beq_iff_eq] at h
      rw [h.1, eq_of_sameItems h.2]
  | .table _ fields, w, h => by
    cases w with
    | scalar | array => simp [same] at h
    | table o' fields' =>
      rw [same, Bool.and_eq_true, beq_iff_eq] at h
      rw [h.1, eq_of_sameFields h.2]

theorem eq_of_sameItems : ∀ {vs ws : List Value}, sameItems vs ws = true → vs = ws
  | [], [], _ => rfl
  | [], _ :: _, h | _ :: _, [], h => by simp [sameItems] at h
  | v :: rest, v' :: rest', h => by
    rw [sameItems, Bool.and_eq_true] at h
    rw [eq_of_same h.1, eq_of_sameItems h.2]

theorem eq_of_sameFields : ∀ {fs gs : List (Text × Value)}, sameFields fs gs = true → fs = gs
  | [], [], _ => rfl
  | [], _ :: _, h | _ :: _, [], h => by simp [sameFields] at h
  | (key, v) :: rest, (key', v') :: rest', h => by
    rw [sameFields, Bool.and_eq_true, Bool.and_eq_true, beq_iff_eq] at h
    rw [h.1.1, eq_of_same h.1.2, eq_of_sameFields h.2]

end

end Value

/-- A text is read as a value if evaluation says so. -/
theorem Format.read?_of_same {format : Format} {t : Text} {v : Value}
    (h : ((format.read? t).elim false (Value.same · v) : Bool) = true) :
    format.read? t = some v := by
  cases read : format.read? t with
  | none =>
    rw [read] at h
    cases h
  | some w =>
    rw [read] at h
    rw [Value.eq_of_same h]

namespace Package

theorem standard_documented : standard.Documented where
  text read := by simp only [standard, entriesOf, read]
  file stands read table := by
    change Config.readFile _ _ = _
    rw [stands.readFile, entriesOf, read]
    simp only [table]
  missing missing := by
    change Config.readFile _ _ = _
    rw [Config.readFile, Source.find_of_missing missing]
    rfl
  rejected := by
    intro files path source stands unread
    refine ⟨"", ?_⟩
    change Config.readFile _ _ = _
    rw [stands.readFile, entriesOf, unread]
  replaces := by
    intro v other old
    change Value.overlay _ _ = _
    cases v with
    | scalar | array => simp [Value.overlay]
    | table origin fields => exact absurd rfl (other origin fields)
  table origin fields old := by
    obtain ⟨origin', merged, whole, -⟩ := Value.overlay_table origin fields old
    exact ⟨origin', merged, whole⟩
  merges origin fields old key := by
    obtain ⟨origin', merged, whole, under⟩ := Value.overlay_table origin fields old
    change (Value.overlay _ _).get? key = _
    rw [whole]
    exact under key
  entries names origin fields := by
    change overlayFile _ _ = Value.overlay _ _
    rw [overlayFile_of_names names, Value.overlay, Value.asTable]
  number := by
    rintro _ n (small | small | small) key
    · simp [standard, Value.toUnsigned]
    · rfl
    · simp [standard, Value.toUnsigned, unsignedOfText?_text small]
  texts := by
    rintro _ _ ⟨ts⟩ key
    exact Value.textsFrom_texts key 0 ts
  table_not_number := by simp [standard, Value.toUnsigned]
  table_not_texts := by simp [standard, Value.toTexts]

end Package

end PathGlob.Config
