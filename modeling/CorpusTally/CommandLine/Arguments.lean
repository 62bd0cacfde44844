import CorpusTally.CommandLine.Options
import CorpusTally.Numeral

/-!
Reading the arguments of the command line. An option waits for its value until the next option is met
or the arguments end; only then is the value checked.
-/

namespace CorpusTally.CommandLine

inductive UsageError where
  | unexpectedArgument (argument : String)
  | valueRequired (flag : Flag)
  | invalidValue (value : String) (flag : Flag) (reason : Option String)
  | repeated (flag : Flag)
  | unneededValue (value name : String)
  | unknownCommand (name : String)
  | commandMissing

def UsageError.message : UsageError → String
  | unexpectedArgument argument => s!"unexpected argument '{argument}' found"
  | valueRequired flag => s!"a value is required for '{flag.usage}' but none was supplied"
  | invalidValue value flag reason =>
    s!"invalid value '{value}' for '{flag.usage}'" ++ (reason.map (": " ++ ·)).getD ""
  | repeated flag => s!"the argument '{flag.usage}' cannot be used multiple times"
  | unneededValue value name =>
    s!"unexpected value '{value}' for '--{name}' found; no more were expected"
  | unknownCommand name => s!"unrecognized subcommand '{name}'"
  | commandMissing => "a subcommand is required but one was not provided"

inductive Stop where
  | help
  | error (e : UsageError)

inductive Request where
  | help
  | analyzeHelp
  | version
  | analyze (options : Options)

def fail {α : Type} (e : UsageError) : Except Stop α := .error (.error e)

def readCount (flag : Flag) (value : String) : Except Stop UInt64 :=
  match Numeral.readUInt64 value with
  | .ok n => .ok n
  | .error e => fail (.invalidValue value flag (some e.message))

def readPath (flag : Flag) (value : String) : Except Stop Path :=
  if value = "" then fail (.valueRequired flag) else .ok (.ofString value)

def readEncoding (flag : Flag) (value : String) : Except Stop Decoding :=
  match Decoding.ofName? (value.map Char.toLower) with
  | some mode => .ok mode
  | none =>
    if value = "" then fail (.valueRequired flag) else fail (.invalidValue value flag none)

def Options.set (o : Options) (flag : Flag) (value : String) : Except Stop Options :=
  match flag with
  | .root => (readPath flag value).map fun path => { o with root := some path }
  | .extensions => .ok { o with extensions := some value }
  | .ignore => .ok { o with ignore := o.ignore ++ [value] }
  | .workers => (readCount flag value).map fun n => { o with workers := some n }
  | .counters => (readCount flag value).map fun n => { o with counters := some n }
  | .stopwords => (readPath flag value).map fun path => { o with stopwords := some path }
  | .encoding => (readEncoding flag value).map fun mode => { o with encoding := some mode }
  | .config => (readPath flag value).map fun path => { o with config := some path }
  | .output => (readPath flag value).map fun path => { o with output := some path }
  | .stats => .ok { o with stats := true }
  | .logLevel => .ok { o with logLevel := some value }
  | .help => .error .help

/-- The options that are read, and the last one if it is not set yet; it has a value or waits for
one. -/
structure Reading where
  options : Options := {}
  seen : List Flag := []
  pending : Option (Flag × Option String) := none

namespace Reading

def set (r : Reading) (flag : Flag) (value : String) : Except Stop Reading :=
  if r.seen.contains flag && !flag.repeats then fail (.repeated flag)
  else (r.options.set flag value).map fun options => { options, seen := flag :: r.seen }

def settle (r : Reading) : Except Stop Reading :=
  match r.pending with
  | none => .ok r
  | some (flag, none) => fail (.valueRequired flag)
  | some (flag, some value) => { r with pending := none }.set flag value

def settleAndSet (r : Reading) (flag : Flag) (value : String) : Except Stop Reading :=
  r.settle.bind (·.set flag value)

def await (r : Reading) (flag : Flag) : Except Stop Reading :=
  r.settle.map fun r => { r with pending := some (flag, none) }

def splitLong (body : List Char) : String × Option String :=
  let name := String.ofList (body.takeWhile (· ≠ '='))
  match body.dropWhile (· ≠ '=') with
  | [] => (name, none)
  | _ :: value => (name, some (String.ofList value))

def readLong (r : Reading) (body : List Char) : Except Stop Reading :=
  let (name, value) := splitLong body
  match Flag.ofName? name, value with
  | none, _ => fail (.unexpectedArgument ("--" ++ name))
  | some flag, none => if flag.takesValue then r.await flag else r.settleAndSet flag ""
  | some flag, some value =>
    if flag.takesValue then r.settleAndSet flag value else fail (.unneededValue value name)

def readLetters (r : Reading) : List Char → Except Stop Reading
  | [] => .ok r
  | letter :: rest =>
    match Flag.ofLetter? letter with
    | none => fail (.unexpectedArgument s!"-{letter}")
    | some flag =>
      if flag.takesValue then
        match rest with
        | [] => r.await flag
        | '=' :: value => r.settleAndSet flag (String.ofList value)
        | value => r.settleAndSet flag (String.ofList value)
      else match r.settleAndSet flag "" with
        | .ok r => readLetters r rest
        | .error stop => .error stop

def readValue (r : Reading) (argument : String) : Except Stop Reading :=
  match r.pending with
  | some (flag, none) => .ok { r with pending := some (flag, some argument) }
  | _ => fail (.unexpectedArgument argument)

def readArgument (r : Reading) (argument : String) : Except Stop Reading :=
  match argument.toList with
  | '-' :: '-' :: body => r.readLong body
  | '-' :: letter :: letters => r.readLetters (letter :: letters)
  | _ => r.readValue argument

/-- Two dashes alone end the options; nothing may follow them. -/
def readAll (r : Reading) : List String → Except Stop Options
  | [] => r.settle.map (·.options)
  | argument :: rest =>
    if argument = "--" then
      match rest with
      | [] => r.settle.map (·.options)
      | extra :: _ => fail (.unexpectedArgument extra)
    else match r.readArgument argument with
      | .ok r => readAll r rest
      | .error stop => .error stop

end Reading

def readAnalyze (arguments : List String) : Except UsageError Request :=
  match ({} : Reading).readAll arguments with
  | .ok options => .ok (.analyze options)
  | .error .help => .ok .analyzeHelp
  | .error (.error e) => .error e

def commandNames : List String := ["analyze", "help"]

def readHelp : List String → Except UsageError Request
  | [] | ["help"] => .ok .help
  | ["analyze"] => .ok .analyzeHelp
  | "analyze" :: name :: _ => .error (.unknownCommand name)
  | "help" :: name :: _ => .error (.unknownCommand name)
  | name :: _ => .error (.unknownCommand name)

def readTopLong (body : List Char) : Except UsageError Request :=
  match Reading.splitLong body with
  | ("help", none) => .ok .help
  | ("version", none) => .ok .version
  | ("help", some value) => .error (.unneededValue value "help")
  | ("version", some value) => .error (.unneededValue value "version")
  | (name, _) => .error (.unexpectedArgument ("--" ++ name))

def readTopLetter : Char → Except UsageError Request
  | 'h' => .ok .help
  | 'V' => .ok .version
  | letter => .error (.unexpectedArgument s!"-{letter}")

def read : List String → Except UsageError Request
  | [] | ["--"] => .error .commandMissing
  | "--" :: name :: _ =>
    .error (if commandNames.contains name then .unexpectedArgument name else .unknownCommand name)
  | "analyze" :: arguments => readAnalyze arguments
  | "help" :: names => readHelp names
  | argument :: _ =>
    match argument.toList with
    | '-' :: '-' :: body => readTopLong body
    | '-' :: letter :: _ => readTopLetter letter
    | _ => .error (.unknownCommand argument)

end CorpusTally.CommandLine
