import Reckoner.CommandLine.Outcome

/-!
# The program

The outermost layer: it takes the arguments, the log setting, files and the standard input from
the system, and hands what the library makes of them back to it.
-/

namespace Reckoner.CommandLine

/-- The bytes of a file. -/
def readFile (path : String) : IO (Except FileError (List UInt8)) := do
  try
    return .ok (← IO.FS.readBinFile path).toList
  catch e =>
    match e with
    | .noFileOrDirectory .. => return .error .notFound
    | .inappropriateType .. => return .error .isDirectory
    | e => return .error (.other (toString e))

/-- The bytes up to the next line feed, and it. -/
partial def readLine (input : IO.FS.Stream) (line : ByteArray) : IO ByteArray := do
  let bytes ← input.read 1
  if bytes.isEmpty then return line
  else if bytes.toList = [10] then return line ++ bytes
  else readLine input (line ++ bytes)

/-- A dialogue over the standard input, answered line by line, and its exit code. -/
partial def converse (shows : LogFilter) (env : Env) : IO UInt32 := do
  let out ← IO.getStdout
  out.putStr Dialogue.prompt
  out.flush
  match Line.ofBytes (← readLine (← IO.getStdin) .empty).toList with
  | [] => out.putStr Dialogue.farewell; return 0
  | .undecodable :: _ => out.putStr Dialogue.complaint; return 0
  | .torn :: _ => return brokenCode.toUInt32
  | .text s :: _ =>
    if Line.isBlank s then converse shows env
    else
      let r := run s env
      IO.eprint (Event.log shows r.events)
      out.putStr (Dialogue.answer r)
      converse shows r.env

/-- Prints an outcome and gives its exit code. -/
def Outcome.report : Outcome → IO UInt32
  | .misuse e => do
    IO.eprintln (e.message ++ "\n\nFor more information, try '--help'.")
    return 2
  | .finished code output errors => do
    IO.eprint errors
    IO.print output
    return code.toUInt32
  | .broken output => do
    IO.print output
    return brokenCode.toUInt32

end Reckoner.CommandLine

open Reckoner.CommandLine in
/-- Runs the program. -/
def main (arguments : List String) : IO UInt32 := do
  let logSetting ← IO.getEnv "RUST_LOG"
  match Request.ofArguments arguments with
  | .run o =>
    match o.source? with
    | none => converse (o.logFilter .word logSetting) ∅
    | some source =>
      let bytes ← if o.file then readFile source else pure (.ok [])
      (Outcome.ofOptions .word o logSetting (fun _ => bytes) []).report
  | request => (Outcome.ofRequest .word logSetting (fun _ => .error .notFound) [] request).report
