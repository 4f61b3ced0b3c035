/-!
# Command line arguments

Arguments are read from left to right, and a cluster of short flags letter by letter. The first
flag that asks for the help text or the version, or the first fault, decides what is requested;
without either, the options collected are those of a run. Behind a lone `--` every argument is a
source.

* `Request.ofArguments`: what a list of arguments requests.
-/

namespace Reckoner.CommandLine

/-- The flags. -/
inductive Flag
  | file
  | quiet
  | verbose
  | help
  | version
  deriving DecidableEq

namespace Flag

/-- All flags. -/
def all : List Flag := [file, quiet, verbose, help, version]

/-- The word of a flag, written behind two dashes. -/
def word : Flag → String
  | file => "file"
  | quiet => "quiet"
  | verbose => "verbose"
  | help => "help"
  | version => "version"

/-- The letter of a flag, written behind one dash. -/
def letter : Flag → Char
  | file => 'f'
  | quiet => 'q'
  | verbose => 'v'
  | help => 'h'
  | version => 'V'

end Flag

/-- The options of a run. -/
structure Options where
  /-- The source names a file to read the program from. -/
  file : Bool
  /-- Only the value is printed. -/
  quiet : Bool
  /-- The stages of the run are logged. -/
  verbose : Bool
  /-- The source, without which a dialogue starts. -/
  source? : Option String
  deriving DecidableEq

/-- What is wrong with a list of arguments. -/
inductive UsageError
  | unknownFlag (argument : String)
  | repeatedFlag (flag : Flag)
  | valueForFlag (flag : Flag)
  | extraSource (argument : String)
  deriving DecidableEq

/-- The text of a usage error. -/
def UsageError.message : UsageError → String
  | unknownFlag argument => "error: unexpected argument '" ++ argument ++ "' found"
  | repeatedFlag flag => "error: the argument '--" ++ flag.word ++ "' cannot be used multiple times"
  | valueForFlag flag => "error: the argument '--" ++ flag.word ++ "' takes no value"
  | extraSource argument => "error: unexpected argument '" ++ argument ++ "' found"

/-- What a list of arguments requests. -/
inductive Request
  | help
  | version
  | misuse (error : UsageError)
  | run (options : Options)
  deriving DecidableEq

namespace Options

/-- The options before any argument is read. -/
def initial : Options := ⟨false, false, false, none⟩

/-- The options with a flag set, or what is requested instead. -/
def set (o : Options) : Flag → Except Request Options
  | .help => .error .help
  | .version => .error .version
  | .file => if o.file then repeated .file else .ok { o with file := true }
  | .quiet => if o.quiet then repeated .quiet else .ok { o with quiet := true }
  | .verbose => if o.verbose then repeated .verbose else .ok { o with verbose := true }
where
  /-- A flag given twice. -/
  repeated (flag : Flag) : Except Request Options := .error (.misuse (.repeatedFlag flag))

/-- The options with the source given. -/
def setSource (o : Options) (argument : String) : Except Request Options :=
  match o.source? with
  | none => .ok { o with source? := some argument }
  | some _ => .error (.misuse (.extraSource argument))

/-- The options with the flag of a letter set. -/
def setLetter (o : Options) (c : Char) : Except Request Options :=
  match Flag.all.find? fun f => f.letter == c with
  | some flag => o.set flag
  | none => .error (.misuse (.unknownFlag (String.ofList ['-', c])))

/-- The options with the flag of a word set. An equals sign ends the word and starts a value,
which no flag takes. -/
def setWord (o : Options) (cs : List Char) : Except Request Options :=
  let word := cs.takeWhile (· != '=')
  match Flag.all.find? fun f => f.word == String.ofList word with
  | some flag =>
    if word.length < cs.length then .error (.misuse (.valueForFlag flag)) else o.set flag
  | none => .error (.misuse (.unknownFlag (String.ofList ('-' :: '-' :: word))))

/-- The options after one more argument in front of a lone `--`. -/
def read (o : Options) (argument : String) : Except Request Options :=
  match argument.toList with
  | '-' :: '-' :: cs => o.setWord cs
  | '-' :: c :: cs => (c :: cs).foldlM setLetter o
  | _ => o.setSource argument

/-- The options after a list of arguments. -/
def readAll (o : Options) : List String → Except Request Options
  | [] => .ok o
  | argument :: rest =>
    if argument = "--" then rest.foldlM setSource o
    else do (← o.read argument).readAll rest

end Options

/-- What a list of arguments requests. -/
def Request.ofArguments (arguments : List String) : Request :=
  match Options.initial.readAll arguments with
  | .ok options => .run options
  | .error request => request

end Reckoner.CommandLine
