import Reckoner.CommandLine.Arguments
import Reckoner.CommandLine.Dialogue
import Reckoner.CommandLine.Script

/-!
# Outcomes of the command line

What the program does about a request: it prints and logs some text and exits with a code. A log
goes to the error output, in front of the error that ends a run. How log settings are read is left
open: a reader says what the log shows under a setting, or that the setting cannot be read.

* `Outcome.ofInvocation`: the outcome of a whole invocation.
* `Outcome.ofArguments`: the outcome where log settings are single words.
-/

namespace Reckoner.CommandLine

/-- The version text. -/
def versionText : String := "minicalc 0.1.0\n"

/-- The help text. -/
def helpText : String :=
  "Evaluates integer expressions with variables and assignment\n" ++
  "\n" ++
  "Usage: minicalc [OPTIONS] [SOURCE]\n" ++
  "\n" ++
  "Arguments:\n" ++
  "  [SOURCE]  Expression to run. Starts an interactive session when omitted\n" ++
  "\n" ++
  "Options:\n" ++
  "  -f, --file     Treat SOURCE as the path of a file to run\n" ++
  "  -q, --quiet    Print only the result instead of every pipeline stage\n" ++
  "  -v, --verbose  Log pipeline stages to stderr\n" ++
  "  -h, --help     Print help\n" ++
  "  -V, --version  Print version\n"

/-- How an invocation ends. -/
inductive Outcome
  /-- The arguments are at fault. -/
  | misuse (error : UsageError)
  /-- The program exits with a code, after some output and error output. -/
  | finished (code : Nat) (output : String) (errors : String)
  /-- The program breaks off after some output. -/
  | broken (output : String)
  deriving DecidableEq

/-- The exit code of a program that breaks off. -/
def brokenCode : Nat := 101

/-- How a log setting is read: as what the log shows, if it can be read at all. -/
abbrev SettingReader := String → Option LogFilter

/-- Reads a setting of one word. The name of a level, in letters of either case, shows the events of
that level and the weightier ones; `off` and the empty word show nothing. It reads no other
setting. -/
def SettingReader.word : SettingReader := fun setting =>
  if setting = "" ∨ setting.toUpper = "OFF" then some .nothing
  else (Level.all.find? fun level => level.label == setting.toUpper).map .upTo

/-- What the log shows. The verbose flag overrules the log setting, and one that is missing or
cannot be read leaves it at warnings and errors. -/
def Options.logFilter (o : Options) (reader : SettingReader) (logSetting : Option String) :
    LogFilter :=
  if o.verbose then .upTo .debug else (logSetting.bind reader).getD (.upTo .warn)

namespace Outcome

/-- The outcome of a script. -/
def ofSource (quiet : Bool) (shows : LogFilter) (source : String) : Outcome :=
  let events := (run source ∅).events
  match script quiet source with
  | .ok output => .finished 0 output (Event.log shows events)
  | .error e =>
    .finished 1 "" (Event.log shows (events ++ [.failed e.stage]) ++ e.message ++ "\n")

/-- The outcome of a script read from a file. -/
def ofFile (quiet : Bool) (shows : LogFilter) (path : String)
    (bytes : Except FileError (List UInt8)) : Outcome :=
  match bytes.bind textOfBytes with
  | .ok source => ofSource quiet shows source
  | .error e => .finished 1 "" (e.message path ++ "\n")

/-- The outcome of a dialogue. -/
def ofInput (shows : LogFilter) (input : List UInt8) : Outcome :=
  let d := Dialogue.ofLines ∅ (Line.ofBytes input)
  if d.broken then .broken d.output
  else .finished 0 d.output (Event.log shows d.events)

/-- The outcome of a run with given options. -/
def ofOptions (reader : SettingReader) (o : Options) (logSetting : Option String)
    (readFile : String → Except FileError (List UInt8)) (input : List UInt8) : Outcome :=
  let shows := o.logFilter reader logSetting
  match o.source? with
  | none => ofInput shows input
  | some source =>
    if o.file then ofFile o.quiet shows source (readFile source)
    else ofSource o.quiet shows source

/-- The outcome of a request. -/
def ofRequest (reader : SettingReader) (logSetting : Option String)
    (readFile : String → Except FileError (List UInt8)) (input : List UInt8) : Request → Outcome
  | .help => .finished 0 helpText ""
  | .version => .finished 0 versionText ""
  | .misuse e => .misuse e
  | .run o => ofOptions reader o logSetting readFile input

/-- The outcome of an invocation. -/
def ofInvocation (reader : SettingReader) (arguments : List String) (logSetting : Option String)
    (readFile : String → Except FileError (List UInt8)) (input : List UInt8) : Outcome :=
  ofRequest reader logSetting readFile input (Request.ofArguments arguments)

/-- The outcome of an invocation where log settings are single words. -/
def ofArguments (arguments : List String) (logSetting : Option String)
    (readFile : String → Except FileError (List UInt8)) (input : List UInt8) : Outcome :=
  ofInvocation .word arguments logSetting readFile input

end Outcome

end Reckoner.CommandLine
