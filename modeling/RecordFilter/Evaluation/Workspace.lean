import RecordFilter.Criterion.Basic
import RecordFilter.Normalizer

/-!
# What an evaluation works with

An evaluation is given the functions of the caller that criteria refer to, the
present instant, and a value that is handed to every function.  While it works it
uses a normalizer and keeps a journal of what it logs and which functions it calls.
-/

namespace RecordFilter

inductive LogLevel where
  | trace
  | debug
  | info
  | warn
  deriving DecidableEq, Repr

def LogLevel.name : LogLevel → String
  | .trace => "TRACE"
  | .debug => "DEBUG"
  | .info => "INFO"
  | .warn => "WARN"

/-- An entry of the journal. -/
inductive Event (Hook : Type) where
  | log (level : LogLevel) (text : String)
  | call (hook : Hook)
  deriving DecidableEq

/-- The failure of a function of the caller, with what lies behind it. -/
structure HookError where
  message : String
  causes : List String

def HookError.text (e : HookError) : String :=
  ": ".intercalate (e.message :: e.causes)

/-- What the functions of the caller do. -/
structure Hooks (Hook : Type) where
  /-- A predicate, of the operand and the record. -/
  holds : Hook → Value → Value → Except HookError Bool
  /-- An operand, computed for a criterion from the record and the context. -/
  operand : Hook → Criterion Hook → Value → Value → Except HookError Value
  /-- A criterion in place of another one, from the record and the context. -/
  criterion : Hook → Criterion Hook → Value → Value → Except HookError (Criterion Hook)
  /-- A value in place of the record, for a criterion in a context. -/
  value : Hook → Criterion Hook → Value → Value → Except HookError Value

structure Environment (Hook : Type) where
  hooks : Hooks Hook
  now : Instant
  context : Value

structure Workspace (Hook : Type) where
  normalizer : Normalizer
  /-- What happened, in order. -/
  journal : Array (Event Hook)

abbrev Work (Hook : Type) := StateM (Workspace Hook)

/-- Work that a function of the caller may make fail. -/
abbrev Attempt (Hook : Type) := ExceptT HookError (Work Hook)

namespace Work

variable {Hook : Type}

def record (event : Event Hook) : Work Hook Unit :=
  modify fun w => { w with journal := w.journal.push event }

def log (level : LogLevel) (text : String) : Work Hook Unit :=
  record (.log level text)

def call (hook : Hook) (answer : Except HookError α) : Attempt Hook α := do
  record (.call hook)
  answer

/-- Fold a value with the normalizer at hand. -/
def normalize (v : Value) : Work Hook Value := fun w =>
  let (folded, normalizer) := Normalizer.value v w.normalizer
  (folded, { w with normalizer := normalizer })

end Work
end RecordFilter
