import PathGlob.Pattern

namespace PathGlob

/-- How much an event matters. -/
inductive Level where
  | trace
  | debug
  | warn
  deriving DecidableEq, Repr

def Level.name : Level → String
  | .trace => "TRACE"
  | .debug => "DEBUG"
  | .warn => "WARN"

/-- Something worth reporting. -/
inductive Event where
  | translated (raw segment expression : Text)
  | compiled (raw : Text) (kind : Kind)
  | cacheCleared
  | matcherCreated (patterns : Nat)
  | preloadFailed (reason : String)
  | unmatched (candidate pattern : Text)
  | settingsLoading (path : Text)
  | settingsFailed (reason : String)
  | settingsKept
  deriving DecidableEq, Repr

namespace Event

def level : Event → Level
  | .translated .. | .compiled .. => .trace
  | .cacheCleared | .matcherCreated _ | .unmatched .. | .settingsLoading _ | .settingsKept => .debug
  | .preloadFailed _ | .settingsFailed _ => .warn

def target : Event → String
  | .translated .. => "wildcard::pattern"
  | .compiled .. | .cacheCleared => "pathmatch::cache"
  | .matcherCreated _ | .preloadFailed _ => "pathmatch::matcher"
  | .unmatched .. => "pathmatch::app"
  | .settingsLoading _ => "pathmatch::settings"
  | .settingsFailed _ | .settingsKept => "pathmatch::config::global"

def message : Event → String
  | .translated raw segment expression =>
    s!"pattern {raw.quoted}: wildcard {segment.quoted} translated to {expression.quoted}"
  | .compiled raw kind => s!"compiled pattern {raw.quoted} as {kind.name}"
  | .cacheCleared => "pattern cache cleared"
  | .matcherCreated patterns => s!"matcher created with {patterns} preloaded patterns"
  | .preloadFailed reason => s!"{reason}, using matcher without preloaded patterns"
  | .unmatched candidate pattern => s!"{candidate.quoted} does not match {pattern.quoted}"
  | .settingsLoading path => s!"loading settings from {String.ofList path}"
  | .settingsFailed reason => s!"{reason}, using default settings"
  | .settingsKept => "global settings already initialized, ignoring"

end Event

/-- An answer with the events of finding it. -/
structure Logged (α : Type) where
  value : α
  log : List Event
  deriving Repr

namespace Logged

instance : Monad Logged where
  pure a := ⟨a, []⟩
  bind x f := ⟨(f x.value).value, x.log ++ (f x.value).log⟩

def report (e : Event) : Logged Unit :=
  ⟨(), [e]⟩

def reportAll (es : List Event) : Logged Unit :=
  ⟨(), es⟩

variable {α β : Type}

@[simp] theorem value_pure (a : α) : (pure a : Logged α).value = a := rfl

@[simp] theorem log_pure (a : α) : (pure a : Logged α).log = [] := rfl

@[simp] theorem value_bind (x : Logged α) (f : α → Logged β) :
    (x >>= f).value = (f x.value).value := rfl

@[simp] theorem log_bind (x : Logged α) (f : α → Logged β) :
    (x >>= f).log = x.log ++ (f x.value).log := rfl

@[simp] theorem value_report (e : Event) : (report e).value = () := rfl

@[simp] theorem value_reportAll (es : List Event) : (reportAll es).value = () := rfl

end Logged

/-- The events of compiling a pattern: its expression is reported, if it needs one. -/
def Pattern.compileEvents (raw : Text) : List Event :=
  match Split.ofPattern? raw with
  | none => []
  | some ⟨_, segment, _⟩ =>
    if segment = ['*'] ∨ segment = ['*', '*'] then []
    else [.translated raw segment (Expression.ofSegment segment)]

end PathGlob
