import Mathlib
import PathGlob.Main
import PathGlob.Proofs.Arguments
import PathGlob.Proofs.Layering
import PathGlob.Proofs.Output

/-!
# Where settings come from, and what they do not change

The files that settings come from are those of the command line, and only where it names none the
one of the environment: `Consults`. Of all files only these are looked at (`load_congr`), and of
what they say only whether it makes settings can be told from a run. If it does not, the run ends
before anything is written (`run_of_error`). If it does, the run writes the lines of the matches,
whatever these settings are (`run_of_ok`).
-/

namespace PathGlob

namespace Writer

variable {σ : Type} [Writer σ] {P : σ → Prop} {w : σ}

theorem attempt_keeps (kept : ∀ w bytes, P w → P (Writer.write w bytes).2) (h : P w)
    (bytes : List UInt8) : P (attempt w bytes).2 := by
  fun_induction attempt w bytes with
  | case1 w v again ih => exact ih (by simpa [again] using kept w bytes h)
  | case2 w reason v failed => simpa [failed] using kept w bytes h
  | case3 w n v written => simpa [written] using kept w bytes h

theorem writeAll_keeps (kept : ∀ w bytes, P w → P (Writer.write w bytes).2) (h : P w)
    (bytes : List UInt8) : P (writeAll w bytes).2 := by
  fun_induction writeAll w bytes with
  | case1 => exact h
  | case2 w bytes _ reason v failed => simpa [failed] using attempt_keeps kept h bytes
  | case3 w bytes _ n v written => simpa [written] using attempt_keeps kept h bytes
  | case4 w bytes _ n v written _ ih =>
    exact ih (by simpa [written] using attempt_keeps kept h bytes)

theorem writeLine_keeps (kept : ∀ w bytes, P w → P (Writer.write w bytes).2) (h : P w)
    (line : Text) : P (writeLine w line).2 := by
  have first := writeAll_keeps kept h line.bytes
  rw [writeLine]
  generalize writeAll w line.bytes = written at first
  obtain ⟨result, v⟩ := written
  cases result with
  | error reason => exact first
  | ok _ => exact writeAll_keeps kept first _

theorem writeLines_keeps (kept : ∀ w bytes, P w → P (Writer.write w bytes).2) (h : P w)
    (lines : List Text) : P (writeLines w lines).2 := by
  induction lines generalizing w with
  | nil => exact h
  | cons line rest ih =>
    have first := writeLine_keeps kept h line
    rw [writeLines]
    generalize writeLine w line = written at first
    obtain ⟨result, v⟩ := written
    cases result with
    | error reason => exact first
    | ok _ => exact ih first

end Writer

theorem Sink.failsFlush_write (s : Sink) (bytes : List UInt8) :
    (s.write bytes).2.failsFlush = s.failsFlush := by
  unfold write
  split
  · rfl
  · split <;> rfl

/-- Where everything is taken, a run writes all lines and tells whether all candidates matched. -/
theorem Report.run_unbounded (o : Options) (settings : Settings) :
    ∃ out, (run o settings Sink.unbounded).value = (.ok (allMatch o o.candidates), out) ∧
      out.taken = output o := by
  have offered : Sink.limited.Offered Sink.unbounded (output o)
      (Writer.writeLines Sink.unbounded (lines o o.candidates)) :=
    Sink.limited.offered_writeLines Sink.unbounded _
  have quiet : (Writer.writeLines Sink.unbounded (lines o o.candidates)).2.failsFlush = false :=
    Writer.writeLines_keeps (P := fun s : Sink => s.failsFlush = false)
      (fun s bytes h => (s.failsFlush_write bytes).trans h) rfl _
  rw [run_eq]
  generalize Writer.writeLines Sink.unbounded (lines o o.candidates) = written at offered quiet
  cases offered with
  | @all out _ taken _ =>
    refine ⟨out, ?_, taken⟩
    have flushed : Writer.flush out = (.ok (), out) := by
      change (if out.failsFlush then _ else _, out) = _
      simp only at quiet
      rw [quiet]
      rfl
    rw [outcome, finish, flushed]
  | part bound => cases bound

/-! ### Files that are looked at -/

/-- A path is looked up in the files that it may stand for. -/
theorem Config.Source.find_congr {files other : Files} {path : Text}
    (same : ∀ q ∈ possiblePaths path, files q = other q) :
    find files path = find other path := by
  have itself : files path = other path := same path (by simp [possiblePaths])
  have extended (ext : Text) (format : Format) (mem : (ext, format) ∈ Format.extensions) :
      files (Path.withExtension path ext) = other (Path.withExtension path ext) :=
    same _ (List.mem_cons_of_mem _ (List.mem_map_of_mem mem))
  unfold find
  rw [itself]
  split
  · rfl
  · dsimp only
    congr 1
    rw [← List.head?_filterMap, ← List.head?_filterMap]
    congr 1
    apply List.filterMap_congr
    rintro ⟨ext, format⟩ mem
    simp only [extended ext format mem]

namespace Settings

open Config

theorem load_congr {files other : Files} {paths : List Text}
    (same : ∀ q ∈ paths.flatMap possiblePaths, files q = other q) :
    (load files paths).value = (load other paths).value := by
  have entries : paths.mapM (Package.standard.readFile files) =
      paths.mapM (Package.standard.readFile other) := by
    induction paths with
    | nil => rfl
    | cons path rest ih =>
      have here : Config.readFile files path = Config.readFile other path := by
        unfold Config.readFile
        rw [Source.find_congr fun q mem => same q (by simp [mem])]
      have later := ih fun q mem => same q (by
        rw [List.flatMap_cons]
        exact List.mem_append_right _ mem)
      rw [List.mapM_cons, List.mapM_cons, later]
      change (Config.readFile files path).bind _ = (Config.readFile other path).bind _
      rw [here]
  rw [load, load, value_loadWith, value_loadWith, readWith, readWith, entries]

end Settings

namespace Program

open Config

/-- `Consults o fromEnv paths`: settings come from the files at `paths`. -/
inductive Consults (o : Options) : Option Text → List Text → Prop where
  | arguments {fromEnv : Option Text} : o.config ≠ [] → Consults o fromEnv o.config
  | variableSet {path : Text} : o.config = [] → path ≠ [] → Consults o (some path) [path]
  | variableEmpty : o.config = [] → Consults o (some []) []
  | variableUnset : o.config = [] → Consults o none []

theorem settingsFiles_of_arguments {o : Options} (named : o.config ≠ []) (fromEnv : Option Text) :
    settingsFiles o fromEnv = o.config := by
  simp [settingsFiles, named]

theorem settingsFiles_of_variable {o : Options} (unnamed : o.config = []) {path : Text}
    (nonempty : path ≠ []) : settingsFiles o (some path) = [path] := by
  simp [settingsFiles, environmentFiles, unnamed, nonempty]

theorem consults_iff {o : Options} {fromEnv : Option Text} {paths : List Text} :
    Consults o fromEnv paths ↔ settingsFiles o fromEnv = paths := by
  constructor
  · rintro (named | ⟨unnamed, nonempty⟩ | unnamed | unnamed)
    · exact settingsFiles_of_arguments named fromEnv
    · exact settingsFiles_of_variable unnamed nonempty
    · simp [settingsFiles, environmentFiles, unnamed]
    · simp [settingsFiles, environmentFiles, unnamed]
  · rintro rfl
    by_cases unnamed : o.config = []
    · match fromEnv with
      | none => simpa [settingsFiles, environmentFiles, unnamed] using .variableUnset unnamed
      | some [] => simpa [settingsFiles, environmentFiles, unnamed] using .variableEmpty unnamed
      | some (c :: path) =>
        rw [settingsFiles_of_variable unnamed (List.cons_ne_nil c path)]
        exact .variableSet unnamed (List.cons_ne_nil c path)
    · rw [settingsFiles_of_arguments unnamed]
      exact .arguments unnamed

/-! ### Runs -/

variable {files : Files} {fromEnv : Option Text} {o : Options}

theorem run_of_error {e : Error}
    (failed : (Settings.load files (settingsFiles o fromEnv)).value = .error e) :
    run files fromEnv o = ⟨2, [], some e⟩ := by
  rw [run, failed]
  rfl

theorem run_of_ok {settings : Settings}
    (loaded : (Settings.load files (settingsFiles o fromEnv)).value = .ok settings) :
    run files fromEnv o =
      ⟨if Report.allMatch o o.candidates then 0 else 1, Report.output o, none⟩ := by
  obtain ⟨out, ended, taken⟩ := Report.run_unbounded o settings
  rw [run, loaded, report]
  simp only [ended, taken]
  cases Report.allMatch o o.candidates <;> rfl

/-- Files and configuration paths have no part in a run but for the settings they make. -/
theorem run_congr {other : Files} {otherEnv : Option Text} (config : List Text)
    (same : (Settings.load files (settingsFiles o fromEnv)).value =
      (Settings.load other (settingsFiles { o with config } otherEnv)).value) :
    run files fromEnv o = run other otherEnv { o with config } := by
  cases loaded : (Settings.load files (settingsFiles o fromEnv)).value with
  | error e => rw [run_of_error loaded, run_of_error (same.symm.trans loaded)]
  | ok settings =>
    rw [run_of_ok loaded, run_of_ok (same.symm.trans loaded)]
    rfl

theorem execute_of_parse {args : List Text} (parsed : CommandLine.parse args = .ok o) :
    execute files fromEnv args = run files fromEnv o := by
  rw [execute, parsed]

/-- Settings come from the files that the arguments name; if they name none, from the file that the
environment names, if it names one; else from no file. No other file is looked at. Where loading
fails the program writes nothing, reports the error and ends with status 2. Where it succeeds the
program writes the lines of the matches and ends with 0 or 1, which depends on nothing but pattern,
candidates, template and separator. So the environment has no part where arguments name files, and
naming a file in the environment is naming it as the only one in the arguments. -/
theorem execute_precedence (files : Files) (fromEnv : Option Text) {args : List Text} {o : Options}
    (parsed : CommandLine.parse args = .ok o) :
    let ended := execute files fromEnv args
    ∃ paths, (∀ other, Consults o fromEnv other ↔ other = paths) ∧
      (∀ other : Files, (∀ q ∈ paths.flatMap possiblePaths, files q = other q) →
        execute other fromEnv args = ended) ∧
      (∀ e, (Settings.load files paths).value = .error e →
        ended = ⟨2, [], some e⟩ ∧ errorReport e = "pathmatch: " ++ e.message) ∧
      (∀ settings, (Settings.load files paths).value = .ok settings →
        ended = ⟨if Report.allMatch o o.candidates then 0 else 1, Report.output o, none⟩ ∧
        ∀ other otherEnv otherArgs config settings',
          CommandLine.parse otherArgs = .ok { o with config } →
          (Settings.load other (settingsFiles { o with config } otherEnv)).value = .ok settings' →
          execute other otherEnv otherArgs = ended) ∧
      (o.config ≠ [] → ∀ otherEnv, execute files otherEnv args = ended) ∧
      (o.config = [] → ∀ path, path ≠ [] →
        execute files (some path) args =
          execute files none (CommandLine.configArgument path :: args) ∧
        ∀ otherArgs, CommandLine.parse otherArgs = .ok { o with config := [path] } →
          execute files (some path) args = execute files none otherArgs) := by
  intro ended
  have run_ended : ended = run files fromEnv o := execute_of_parse parsed
  refine ⟨settingsFiles o fromEnv, fun other => consults_iff.trans eq_comm, ?_, ?_, ?_, ?_, ?_⟩
  · intro other same
    rw [run_ended, execute_of_parse parsed]
    exact (run_congr o.config (Settings.load_congr same)).symm
  · intro e failed
    exact ⟨run_ended.trans (run_of_error failed), rfl⟩
  · intro settings loaded
    refine ⟨run_ended.trans (run_of_ok loaded), ?_⟩
    intro other otherEnv otherArgs config settings' otherParsed otherLoaded
    rw [run_ended, execute_of_parse otherParsed, run_of_ok otherLoaded, run_of_ok loaded]
    rfl
  · intro named otherEnv
    rw [run_ended, execute_of_parse parsed]
    refine run_congr o.config ?_
    rw [settingsFiles_of_arguments named, settingsFiles_of_arguments named]
  · intro unnamed path nonempty
    have single (otherArgs : List Text)
        (otherParsed : CommandLine.parse otherArgs = .ok { o with config := [path] }) :
        execute files (some path) args = execute files none otherArgs := by
      rw [execute_of_parse parsed, execute_of_parse otherParsed]
      refine run_congr [path] ?_
      rw [settingsFiles_of_variable unnamed nonempty,
        settingsFiles_of_arguments (List.cons_ne_nil path [])]
    refine ⟨single _ ?_, single⟩
    rw [CommandLine.parse_config_cons nonempty, parsed, ← unnamed]
    rfl

/-- The environment names a file that is missing. Where the arguments name an empty one the program
does not notice; where they name none it fails, as if they had named the missing one. -/
theorem execute_precedence_missing :
    let files : Files := fun path => if path = "g.toml".toList then some [] else none
    let o : Options := ⟨["g.toml".toList], none, ['\t'], ['*'], [['a'], ['/']]⟩
    let args : List Text := [['*'], ['a'], ['/']]
    let failed : Outcome := ⟨2, [], some (.config (.missingFile ['x']))⟩
    CommandLine.parse ("-cg.toml".toList :: args) = .ok o ∧
      CommandLine.parse args = .ok { o with config := [] } ∧
      execute files (some ['x']) ("-cg.toml".toList :: args) = ⟨1, [97, 9, 97, 10], none⟩ ∧
      execute files none ("-cg.toml".toList :: args) = ⟨1, [97, 9, 97, 10], none⟩ ∧
      execute files (some ['x']) args = failed ∧
      execute files none (CommandLine.configArgument ['x'] :: args) = failed := by
  intro files o args failed
  have named : CommandLine.parse ("-cg.toml".toList :: args) = .ok o := rfl
  have unnamed : CommandLine.parse args = .ok { o with config := [] } := rfl
  have loaded : (Settings.load files o.config).value = .ok ⟨64, []⟩ := by
    have empty : Settings.Layer .standard files "g.toml".toList [] := ⟨rfl, by simp, by simp⟩
    exact (Settings.Layers.load_eq_ok_iff Package.standard_documented (.cons empty .nil) _).2
      ⟨nofun, fun _ => rfl, nofun, fun _ => rfl⟩
  have missing : (Settings.load files [['x']]).value = .error (.config (.missingFile ['x'])) := by
    rw [Settings.load, Settings.value_loadWith_eq Package.standard_documented]
    rfl
  have written : Report.output o = [97, 9, 97, 10] := by decide
  have unmatched : Report.allMatch o o.candidates = false := by decide
  obtain ⟨paths, consulted, -, -, succeeds, ignored, -⟩ :=
    execute_precedence files (some ['x']) named
  obtain rfl : o.config = paths := (consulted _).1 (.arguments (List.cons_ne_nil _ _))
  have first := (succeeds _ loaded).1
  rw [written, unmatched] at first
  obtain ⟨paths, consulted, -, fails, -, -, moved⟩ := execute_precedence files (some ['x']) unnamed
  obtain rfl : [['x']] = paths := (consulted _).1 (.variableSet rfl (List.cons_ne_nil _ _))
  have last := (fails _ missing).1
  have same := (moved rfl ['x'] (List.cons_ne_nil _ _)).1
  exact ⟨named, unnamed, first, (ignored (List.cons_ne_nil _ _) none).trans first, last,
    same.symm.trans last⟩

end Program

end PathGlob
