import Reckoner.CommandLine.File
import Reckoner.Run
import Reckoner.Text.Blank
import Reckoner.Text.Erasure

/-!
# Dialogues

A dialogue reads lines and answers each in one environment that goes on from line to line. A
prompt stands in front of every answer, also of the farewell at the end of the input. A blank line
is passed over in silence; an error is an answer like any other. A line that is no text ends the
dialogue, and one that a backspace would tear breaks it off.

* `Line.ofBytes`: the lines of an input.
* `Dialogue.ofLines`: all that a dialogue prints and tells.
-/

namespace Reckoner.CommandLine

/-! ## Lines -/

/-- A line of input, without its ending and with its backspaces applied. -/
inductive Line
  | text (s : String)
  | undecodable
  /-- A backspace would tear a character. -/
  | torn
  deriving DecidableEq

namespace Line

/-- Cuts bytes behind each line feed. The ends of lines are dropped, and whether a line had one is
kept beside it. -/
def cut : List UInt8 → List (List UInt8 × Bool)
  | [] => []
  | b :: bs =>
    if b = 10 then ([], true) :: cut bs
    else match cut bs with
      | [] => [([b], false)]
      | (line, ended) :: lines => (b :: line, ended) :: lines

/-- The characters of a line without a carriage return at their end. -/
def dropReturn (cs : List Char) : List Char :=
  if cs.getLast? = some '\r' then cs.dropLast else cs

/-- A cut of the input as a line. A carriage return belongs to the ending of a line that has
one. -/
def ofCut (line : List UInt8) (ended : Bool) : Line :=
  match textOfBytes line with
  | .ok s => (Text.erase? (if ended then dropReturn s.toList else s.toList)).elim .torn
      fun cs => .text (String.ofList cs)
  | .error _ => .undecodable

/-- The lines of an input. -/
def ofBytes (bytes : List UInt8) : List Line :=
  (cut bytes).map fun l => ofCut l.1 l.2

/-- Whether a line holds blanks only. -/
def isBlank (s : String) : Bool := s.toList.all Text.isBlank

end Line

/-! ## Answers -/

/-- What a dialogue prints, the events of its runs, and whether it is broken off. -/
structure Dialogue where
  output : String
  events : List Event
  broken : Bool

namespace Dialogue

/-- The prompt in front of every answer. -/
def prompt : String := ">> "

/-- The last words at the end of the input. -/
def farewell : String := "CTRL-D\n"

/-- The last words at a line that is no text. -/
def complaint : String :=
  "Error: Io(Error \x7b kind: InvalidData, message: \"stream did not contain valid UTF-8\" \x7d)\n"

/-- The answer to a run: its value or its error. -/
def answer (r : Run) : String :=
  match r.result with
  | .ok value => toString value ++ "\n"
  | .error e => e.message ++ "\n"

/-- The dialogue with something more printed in front. -/
def after (output : String) (events : List Event) (d : Dialogue) : Dialogue :=
  ⟨output ++ d.output, events ++ d.events, d.broken⟩

/-- The dialogue over some lines, from an environment on. -/
def ofLines (env : Env) : List Line → Dialogue
  | [] => ⟨prompt ++ farewell, [], false⟩
  | .undecodable :: _ => ⟨prompt ++ complaint, [], false⟩
  | .torn :: _ => ⟨prompt, [], true⟩
  | .text s :: lines =>
    if Line.isBlank s then (ofLines env lines).after prompt []
    else
      let r := run s env
      (ofLines r.env lines).after (prompt ++ answer r) r.events

end Dialogue

end Reckoner.CommandLine
