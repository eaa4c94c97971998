import PathGlob.CommandLine

namespace PathGlob.CommandLine

/-- A state in which one more configuration path was read before all else. -/
def State.withConfig (path : Text) (s : State) : State :=
  { s with config := path :: s.config }

/-- Reading neither looks at a path in front of the others nor moves it. -/
def Extends (path : Text) (read : State → Except Refusal State) : Prop :=
  ∀ s, read (s.withConfig path) = (read s).map (State.withConfig path)

namespace Extends

variable {path : Text}

theorem bind {first next : State → Except Refusal State} (h : Extends path first)
    (k : Extends path next) : Extends path fun s => first s >>= next := by
  intro s
  change first (s.withConfig path) >>= next = (first s >>= next).map (State.withConfig path)
  rw [h s]
  cases first s with
  | error r => rfl
  | ok t => exact k t

theorem assign (v : Valued) (value : Text) : Extends path (State.assign · v value) := by
  intro s
  cases v with
  | config =>
    simp only [State.assign]
    split <;> rfl
  | template =>
    by_cases given : s.template.isSome <;>
      simp [State.assign, State.withConfig, given, Except.map]
  | separator =>
    by_cases given : s.separator.isSome <;>
      simp [State.assign, State.withConfig, given, Except.map]

theorem settle : Extends path State.settle := by
  intro s
  match pending : s.pending with
  | none | some (v, none) => simp [State.settle, State.withConfig, pending, Except.map]
  | some (v, some value) =>
    have settled := @assign path v value { s with pending := none }
    simpa only [State.settle, State.withConfig, pending] using settled

theorem flag (f : Flag) (attached : Option Text) : Extends path (State.flag · f attached) := by
  match f, attached with
  | .valued v, none => exact settle.bind fun s => rfl
  | .valued v, some value => exact settle.bind (assign v value)
  | .help, none | .version, none => exact settle.bind fun s => rfl
  | .help, some value | .version, some value => exact fun s => rfl

theorem addOperand (arg : Text) : Extends path (State.addOperand · arg) :=
  settle.bind fun _ => rfl

theorem word (arg : Text) : Extends path (State.word · arg) := by
  intro s
  match pending : s.pending with
  | some (v, none) => simp [State.word, State.withConfig, pending, Except.map]
  | none | some (v, some value) =>
    have added := @addOperand path arg s
    simpa only [State.word, State.withConfig, pending] using added

theorem read (arg : Text) : Extends path (State.read · arg) := by
  intro s
  have same : (s.withConfig path).onlyOperands = s.onlyOperands := rfl
  simp only [State.read, same]
  split
  · exact addOperand arg s
  · split
    · rfl
    · split
      · exact flag _ _ s
      · rfl
    · split
      · exact flag _ _ s
      · exact flag _ _ s
      · rfl
    · exact word arg s

theorem readAll (args : List Text) : Extends path (args.foldlM State.read ·) := by
  induction args with
  | nil => exact fun s => rfl
  | cons arg args ih => exact (read arg).bind ih

end Extends

theorem finish_withConfig (path : Text) (s : State) :
    (s.withConfig path).finish = s.finish.map fun o => { o with config := path :: o.config } := by
  have settled := @Extends.settle path s
  rw [State.finish, State.finish, settled]
  cases s.settle with
  | error r => rfl
  | ok t =>
    obtain ⟨config, template, separator, operands, pending, onlyOperands⟩ := t
    match operands with
    | [] | [pattern] | pattern :: candidate :: rest => rfl

def configArgument (path : Text) : Text :=
  "--config=".toList ++ path

theorem read_configArgument {path : Text} (named : path ≠ []) :
    State.start.read (configArgument path) = .ok (State.start.withConfig path) := by
  have long : State.start.read (configArgument path) =
      State.start.assign .config path := rfl
  rw [long, State.assign, if_neg (by simpa using named)]
  rfl

/-- A path in front of the arguments is the first of their paths. -/
theorem parse_config_cons {path : Text} (named : path ≠ []) (args : List Text) :
    parse (configArgument path :: args) =
      (parse args).map fun o => { o with config := path :: o.config } := by
  have later : args.foldlM State.read (State.start.withConfig path) =
      (args.foldlM State.read State.start).map (State.withConfig path) :=
    Extends.readAll args State.start
  rw [parse, parse, List.foldlM_cons, read_configArgument named]
  change args.foldlM State.read (State.start.withConfig path) >>= State.finish = _
  rw [later]
  cases args.foldlM State.read State.start with
  | error r => rfl
  | ok s => exact finish_withConfig path s

end PathGlob.CommandLine
