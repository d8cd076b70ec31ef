import RecordFilter.Text.Digits
import RecordFilter.Text.Split

/-!
# Arguments

Options are given by a long name after two dashes or by a letter after one.  The
value of an option is the next argument, or it follows an equals sign; after a
letter it may also follow directly.  Letters of switches can be run together.

No option may be given twice, values that name files may not be empty, and nothing
else may stand among the arguments.
-/

namespace RecordFilter

inductive ValueOption where
  | records
  | expression
  | aliases
  | config
  | concurrency
  deriving DecidableEq, Repr

inductive Switch where
  | explain
  | inspect
  | debug
  deriving DecidableEq, Repr

structure Arguments where
  records : Option String
  expression : Option String
  aliases : Option String
  config : Option String
  concurrency : Option Nat
  explain : Bool
  inspect : Bool
  debug : Bool
  deriving DecidableEq, Repr

namespace ValueOption

def ofName? (name : List Char) : Option ValueOption :=
  match String.ofList name with
  | "records" => some .records
  | "expression" => some .expression
  | "aliases" => some .aliases
  | "config" => some .config
  | "concurrency" => some .concurrency
  | _ => none

def ofLetter? : Char → Option ValueOption
  | 'r' => some .records
  | 'e' => some .expression
  | 'a' => some .aliases
  | 'C' => some .config
  | 'c' => some .concurrency
  | _ => none

end ValueOption

namespace Switch

def ofName? (name : List Char) : Option Switch :=
  match String.ofList name with
  | "explain" => some .explain
  | "inspect" => some .inspect
  | "debug" => some .debug
  | _ => none

def ofLetter? : Char → Option Switch
  | 'd' => some .debug
  | _ => none

end Switch

namespace Arguments

def initial : Arguments :=
  ⟨none, none, none, none, none, false, false, false⟩

/-! ## Setting options -/

/-- The name of a file; it is not empty. -/
def fileName? (text : String) : Option String :=
  if text == "" then none else some text

/-- A natural of 64 bits, perhaps with a plus sign. -/
def limit? (text : String) : Option Nat :=
  let digits :=
    match text.toList with
    | '+' :: cs => cs
    | cs => cs
  if digits.isEmpty || !digits.all Char.isDigit then none
  else
    let n := digitsValue digits
    if n ≤ 0xFFFFFFFFFFFFFFFF then some n else none

/-- Put a value where there is none yet. -/
def fill (old new : Option α) : Option (Option α) :=
  match old, new with
  | none, some value => some (some value)
  | _, _ => none

def setValue (arguments : Arguments) (option : ValueOption) (text : String) : Option Arguments :=
  match option with
  | .records => (fill arguments.records (fileName? text)).map ({ arguments with records := · })
  | .expression =>
      (fill arguments.expression (fileName? text)).map ({ arguments with expression := · })
  | .aliases => (fill arguments.aliases (fileName? text)).map ({ arguments with aliases := · })
  | .config => (fill arguments.config (fileName? text)).map ({ arguments with config := · })
  | .concurrency =>
      (fill arguments.concurrency (limit? text)).map ({ arguments with concurrency := · })

def setSwitch (arguments : Arguments) (option : Switch) : Option Arguments :=
  match option with
  | .explain => if arguments.explain then none else some { arguments with explain := true }
  | .inspect => if arguments.inspect then none else some { arguments with inspect := true }
  | .debug => if arguments.debug then none else some { arguments with debug := true }

/-! ## Reading -/

/-- The arguments read so far, and the option that the next argument is the value of. -/
abbrev Progress := Arguments × Option ValueOption

def readLong (arguments : Arguments) (cs : List Char) : Option Progress :=
  let name := cs.takeWhile (· != '=')
  match ValueOption.ofName? name, Switch.ofName? name, cs.drop name.length with
  | some option, _, [] => some (arguments, some option)
  | some option, _, _ :: value =>
      (arguments.setValue option (String.ofList value)).map (·, none)
  | none, some option, [] => (arguments.setSwitch option).map (·, none)
  | _, _, _ => none

def readLetters (arguments : Arguments) : List Char → Option Progress
  | [] => some (arguments, none)
  | letter :: rest =>
      match ValueOption.ofLetter? letter, Switch.ofLetter? letter, rest with
      | some option, _, [] => some (arguments, some option)
      | some option, _, '=' :: value =>
          (arguments.setValue option (String.ofList value)).map (·, none)
      | some option, _, value =>
          (arguments.setValue option (String.ofList value)).map (·, none)
      | none, some option, rest =>
          (arguments.setSwitch option).bind fun arguments => readLetters arguments rest
      | none, none, _ => none

/-- Read the arguments one by one; two dashes alone may only come last. -/
def readFrom : Progress → List String → Option Arguments
  | (arguments, none), [] => some arguments
  | (_, some _), [] => none
  | (arguments, pending), text :: rest =>
      match pending, text.toList with
      | none, ['-', '-'] => if rest.isEmpty then some arguments else none
      | none, '-' :: '-' :: cs =>
          (readLong arguments cs).bind fun progress => readFrom progress rest
      | none, '-' :: c :: cs =>
          (readLetters arguments (c :: cs)).bind fun progress => readFrom progress rest
      | none, _ => none
      | some _, '-' :: _ :: _ => none
      | some option, _ =>
          (arguments.setValue option text).bind fun arguments => readFrom (arguments, none) rest

def ofList? (texts : List String) : Option Arguments :=
  readFrom (initial, none) texts

def files (arguments : Arguments) : List String :=
  [arguments.config, arguments.aliases, arguments.records, arguments.expression].filterMap id

end Arguments
end RecordFilter
