import RecordFilter.CommandLine.Run
import Std.Time.DateTime.Timestamp

/-!
# The program

Reads the files that the arguments name, runs and prints.
-/

namespace RecordFilter

/-- Why a file could not be read.  The system's own words and code are kept. -/
def FileFault.ofError : IO.Error → FileFault
  | .alreadyExists _ code text | .inappropriateType _ code text | .interrupted _ code text
  | .invalidArgument _ code text | .noFileOrDirectory _ code text | .noSuchThing _ code text
  | .permissionDenied _ code text | .resourceExhausted _ code text => .system text code.toNat
  | .hardwareFault code text | .illegalOperation code text | .otherError code text
  | .protocolError code text | .resourceBusy code text | .resourceVanished code text
  | .timeExpired code text | .unsatisfiedConstraints code text
  | .unsupportedOperation code text => .system text code.toNat
  | .userError text => .system text 0
  | .unexpectedEof => .notText

def readFileText (name : String) : IO FileText := do
  try
    let handle ← IO.FS.Handle.mk name .read
    match String.fromUTF8? (← handle.readBinToEnd) with
    | some text => return .ok text
    | none => return .error .notText
  catch e => return .error (FileFault.ofError e)

def presentInstant : IO Instant := do
  let now ← Std.Time.Timestamp.now
  return ⟨now.val.second.val, now.val.nano.val.toNat⟩

/-- The log messages to print: all of them, or only the more important ones. -/
def Arguments.shownLogs (arguments : Arguments) (journal : Array (Event Empty)) : Array String :=
  journal.filterMap fun
    | .log .trace _ => none
    | .log .debug text => if arguments.debug then some ("DEBUG " ++ text) else none
    | .log level text => some (level.name ++ " " ++ text)
    | .call hook => nomatch hook

end RecordFilter

open RecordFilter in
def main (texts : List String) : IO UInt32 := do
  match Arguments.ofList? texts with
  | none =>
      IO.eprint usage
      return 2
  | some arguments =>
      let files ← arguments.files.mapM fun name => return (name, ← readFileText name)
      let read name := (files.lookup name).getD (.error .notFound)
      let (finished, engine) := arguments.run read (← presentInstant)
      for line in arguments.shownLogs engine.workspace.journal do
        IO.eprintln line
      IO.print finished.output
      IO.eprint finished.errors
      return finished.code.toUInt32
