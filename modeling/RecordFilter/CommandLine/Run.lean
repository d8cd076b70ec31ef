import RecordFilter.CommandLine.Arguments
import RecordFilter.Engine.Batch
import RecordFilter.Engine.Report
import RecordFilter.Files

/-!
# Runs of the program

A run filters a file of records by a file that holds an expression and prints the
records that pass, one JSON value a line.  It can also explain the verdict on the
first record, or tell about the operators and the saved criteria.

A run either prints its whole answer or fails and prints nothing but an error on
the error channel, followed by what caused it.
-/

namespace RecordFilter

/-- Why a run failed: the error, and what lies behind it, the nearest cause first. -/
structure Failure where
  message : String
  causes : List String

namespace Failure

def ofText (message : String) : Failure := ⟨message, []⟩

def ofError (e : FilterError) : Failure := ⟨e.message, e.causes⟩

/-- An error behind a failure that says what was being done. -/
def behind (message : String) (e : FilterError) : Failure :=
  ⟨message, e.message :: e.causes⟩

/-! ## Report of a failure -/

/-- Write a cause with all its lines indented; of several causes each has a number. -/
def writeCause (number : Option Nat) (cause : String) : List Char :=
  let (first, other) :=
    match number with
    | none => ("    ".toList, "    ".toList)
    | some n =>
        let digits := natDigits n
        (List.replicate (5 - digits.length) ' ' ++ digits ++ ": ".toList, "       ".toList)
  first ++ ('\n' :: other).intercalate (splitAtMark '\n' cause.toList)

def writeCauses : List String → List Char
  | [] => []
  | [cause] => "\n\nCaused by:\n".toList ++ writeCause none cause
  | causes =>
      "\n\nCaused by:".toList ++
        causes.zipIdx.flatMap fun (cause, n) => '\n' :: writeCause (some n) cause

def report (failure : Failure) : String :=
  "Error: " ++ failure.message ++ String.ofList (writeCauses failure.causes) ++ "\n"

end Failure

/-- What a finished run leaves behind. -/
structure Finished where
  code : Nat
  output : String
  errors : String

structure Printed where
  output : String
  errors : String

/-- A part of a run; criteria in files refer to no functions of a caller. -/
abbrev RunM := ExceptT Failure (EngineM Empty)

namespace RunM

def require (failure : FilterError → Failure) (result : Except FilterError α) : RunM α :=
  match result with
  | .ok a => return a
  | .error e => throw (failure e)

/-- Say what was being loaded from where if loading fails. -/
def load (what name : String) (result : Except FilterError α) : RunM α :=
  require (Failure.behind ("Failed to load " ++ what ++ " from " ++ name)) result

end RunM

namespace Arguments

variable (read : String → FileText) (arguments : Arguments)

def environment (now : Instant) : Environment Empty where
  hooks := ⟨nofun, nofun, nofun, nofun⟩
  now := now
  context := .undefined

/-- Start an engine with the settings asked for. -/
def startEngine : RunM Unit := do
  match arguments.config with
  | none => set (Engine.start .default : Engine Empty)
  | some name =>
      let settings ← RunM.load "config" name (read name).settings
      set (Engine.start settings : Engine Empty)

def saveAliases : RunM Unit := do
  match arguments.aliases with
  | none => return
  | some name =>
      let criteria ← RunM.load "aliases" name (read name).aliases
      RunM.require .ofError (← (Engine.saveAll criteria : EngineM Empty _))
      let text := "Saved " ++ toString criteria.length ++ " aliases from " ++ name
      (Engine.work (Work.log .info text) : EngineM Empty Unit)

def explainFirst (env : Environment Empty) (records : List Value) (expression : Expression Empty) :
    RunM Printed := do
  match records with
  | [] => throw (.ofText "No records to explain")
  | record :: _ =>
      let outcome ← RunM.require .ofError (← Engine.evaluate env record expression)
      return ⟨outcome.toJson.renderIndented ++ "\n", ""⟩

def printKept (env : Environment Empty) (records : List Value) (expression : Expression Empty) :
    RunM Printed := do
  let kept ← RunM.require .ofError
    (← Engine.filterRecords env records expression arguments.concurrency)
  let lines := kept.map fun record => record.toJson.render ++ "\n"
  return ⟨String.join lines, "✅ " ++ toString kept.length ++ " of " ++ toString records.length ++
    " records matched\n"⟩

def perform (now : Instant) : RunM Printed := do
  arguments.startEngine read
  arguments.saveAliases read
  if arguments.inspect then
    return ⟨(← (get : EngineM Empty (Engine Empty))).report ++ "\n", ""⟩
  else
    match arguments.records, arguments.expression with
    | some recordsName, some expressionName =>
        let records ← RunM.load "records" recordsName (read recordsName).records
        let expression ← RunM.load "expression" expressionName (read expressionName).expression
        let engine ← (get : EngineM Empty (Engine Empty))
        RunM.require (Failure.behind "Invalid expression") (engine.validate expression)
        if arguments.explain then explainFirst (environment now) records expression
        else arguments.printKept (environment now) records expression
    | _, _ =>
        throw (.ofText "--records and --expression are required unless --inspect is given")

/-- The outcome of a run, and the engine at its end. -/
def run (now : Instant) : Finished × Engine Empty :=
  match (arguments.perform read now).run (Engine.start .default) with
  | (.ok printed, engine) => (⟨0, printed.output, printed.errors⟩, engine)
  | (.error failure, engine) => (⟨1, "", failure.report⟩, engine)

end Arguments

def usage : String :=
  "Usage: recordfilter [OPTIONS]\n\n" ++
  "  -r, --records <FILE>       Records: a JSON array or one JSON value a line\n" ++
  "  -e, --expression <FILE>    Expression: criterion, filter or group\n" ++
  "  -a, --aliases <FILE>       JSON array of criteria to save under their alias\n" ++
  "  -C, --config <FILE>        Settings\n" ++
  "  -c, --concurrency <COUNT>  Most records evaluated at once (0 for no limit)\n" ++
  "      --explain              Explain the verdict on the first record\n" ++
  "      --inspect              Print the operators and the saved criteria\n" ++
  "  -d, --debug                Print all log messages\n"

end RecordFilter
