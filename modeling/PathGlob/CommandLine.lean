import PathGlob.Text

/-!
# The command line

Options come in a long form `--name`, with a value behind `=` or in the next argument, and in a
short form `-n`, with a value behind it or in the next argument. Everything else is the pattern and
the candidates; after `--` nothing is an option. Arguments are read from the left, and the first one
that does not fit decides the refusal. The value of an option is only judged when the next option or
operand comes, so an unknown option behind it is refused first.
-/

namespace PathGlob

/-- What a command line asks for. -/
structure Options where
  config : List Text
  template : Option Text
  separator : Text
  pattern : Text
  candidates : List Text
  deriving DecidableEq, Repr

namespace CommandLine

/-- What is wrong with a command line. -/
inductive Fault where
  | missingArgument
  | unknownArgument
  | invalidValue
  | conflict
  | tooManyValues
  deriving DecidableEq, Repr

def Fault.message : Fault → String
  | .missingArgument => "a pattern and at least one candidate are required"
  | .unknownArgument => "an argument is not known"
  | .invalidValue => "an option lacks its value"
  | .conflict => "an option cannot be given twice"
  | .tooManyValues => "an option takes no value"

/-- Why a command line gives no options: it is faulty, or it asks for help or for the version. -/
inductive Refusal where
  | fault (f : Fault)
  | help
  | version
  deriving DecidableEq, Repr

/-- An option that takes a value. -/
inductive Valued where
  | config
  | template
  | separator
  deriving DecidableEq, Repr

/-- An option. -/
inductive Flag where
  | valued (v : Valued)
  | help
  | version
  deriving DecidableEq, Repr

def ofLongName? (name : Text) : Option Flag :=
  if name = "config".toList then some (.valued .config)
  else if name = "template".toList then some (.valued .template)
  else if name = "separator".toList then some (.valued .separator)
  else if name = "help".toList then some .help
  else if name = "version".toList then some .version
  else none

def ofShortName? : Char → Option Flag
  | 'c' => some (.valued .config)
  | 't' => some (.valued .template)
  | 's' => some (.valued .separator)
  | 'h' => some .help
  | 'V' => some .version
  | _ => none

/-- What was read so far. -/
structure State where
  config : List Text
  template : Option Text
  separator : Option Text
  operands : List Text
  /-- The option that was read last, and its value if that has come. -/
  pending : Option (Valued × Option Text)
  /-- Whether options have ended. -/
  onlyOperands : Bool
  deriving DecidableEq, Repr

def State.start : State :=
  ⟨[], none, none, [], none, false⟩

/-- Gives an option its value. Only `config` may be given again, and it may not be empty. -/
def State.assign (s : State) (v : Valued) (value : Text) : Except Refusal State :=
  match v with
  | .config =>
    if value.isEmpty then .error (.fault .invalidValue)
    else .ok { s with config := s.config ++ [value] }
  | .template =>
    if s.template.isSome then .error (.fault .conflict)
    else .ok { s with template := some value }
  | .separator =>
    if s.separator.isSome then .error (.fault .conflict)
    else .ok { s with separator := some value }

/-- Settles the option that was read last; its value has to have come. -/
def State.settle (s : State) : Except Refusal State :=
  match s.pending with
  | none => .ok s
  | some (_, none) => .error (.fault .invalidValue)
  | some (v, some value) => { s with pending := none }.assign v value

/-- Reads an option, with the value attached to it if there is one. -/
def State.flag (s : State) (f : Flag) (attached : Option Text) : Except Refusal State :=
  match f, attached with
  | .valued v, some value => do (← s.settle).assign v value
  | .valued v, none => do return { ← s.settle with pending := some (v, none) }
  | _, some _ => .error (.fault .tooManyValues)
  | .help, none => do
    let _ ← s.settle
    .error .help
  | .version, none => do
    let _ ← s.settle
    .error .version

def State.addOperand (s : State) (arg : Text) : Except Refusal State := do
  let s ← s.settle
  return { s with operands := s.operands ++ [arg] }

/-- Reads an argument that names no option: a value that was still to come, or an operand. -/
def State.word (s : State) (arg : Text) : Except Refusal State :=
  match s.pending with
  | some (v, none) => .ok { s with pending := some (v, some arg) }
  | _ => s.addOperand arg

def State.read (s : State) (arg : Text) : Except Refusal State :=
  if s.onlyOperands then s.addOperand arg
  else match arg with
    | ['-', '-'] => .ok { s with onlyOperands := true }
    | '-' :: '-' :: long =>
      let attached := match long.dropWhile (· != '=') with
        | _ :: value => some value
        | [] => none
      match ofLongName? (long.takeWhile (· != '=')) with
      | some f => s.flag f attached
      | none => .error (.fault .unknownArgument)
    | '-' :: short :: rest =>
      match ofShortName? short with
      | some (.valued v) =>
        let attached := match rest with
          | '=' :: value => some value
          | [] => none
          | value => some value
        s.flag (.valued v) attached
      | some f => s.flag f none
      | none => .error (.fault .unknownArgument)
    | _ => s.word arg

/-- The options that were read. The first operand is the pattern; at least one more is needed. -/
def State.finish (s : State) : Except Refusal Options := do
  let s ← s.settle
  match s.operands with
  | pattern :: candidate :: rest =>
    return ⟨s.config, s.template, s.separator.getD ['\t'], pattern, candidate :: rest⟩
  | _ => .error (.fault .missingArgument)

def parse (args : List Text) : Except Refusal Options := do
  (← args.foldlM State.read State.start).finish

def helpLines : List String :=
  ["Matches strings against a path wildcard pattern and prints the captures",
    "",
    "Usage: pathmatch [OPTIONS] <PATTERN> <CANDIDATES>...",
    "",
    "Arguments:",
    "  <PATTERN>        Wildcard pattern",
    "  <CANDIDATES>...  Strings to match",
    "",
    "Options:",
    "  -c, --config <FILE>          Configuration file path, may be given several times " ++
      "to layer files",
    "  -t, --template <TEMPLATE>    Output template, `\x7b0\x7d` is the whole string and " ++
      "`\x7b1\x7d`, `\x7b2\x7d`, ... are",
    "                               the captures",
    "  -s, --separator <SEPARATOR>  Separator between printed captures when no template is given",
    "                               [default: \"\\t\"]",
    "  -h, --help                   Print help",
    "  -V, --version                Print version"]

def helpText : String :=
  String.join (helpLines.map (· ++ "\n"))

def versionText : String :=
  "pathmatch 0.1.0\n"

end CommandLine

end PathGlob
