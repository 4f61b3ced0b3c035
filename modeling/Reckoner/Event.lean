import Reckoner.Evaluation
import Reckoner.Parse
import Reckoner.Scan

/-!
# Events

What there is to tell about a run while it goes on. An event has a level, a message and named
fields; a log shows the events that its filter lets through, one line each.

* `Event.ofSource`: what is told while a source becomes an expression.
* `Event.ofEvaluation`: what is told while an expression is evaluated.
-/

namespace Reckoner

/-- How much an event matters, from most to least. -/
inductive Level
  | error
  | warn
  | info
  | debug
  | trace
  deriving DecidableEq

namespace Level

/-- The name of a level at the front of a log line. -/
def label : Level → String
  | error => "ERROR"
  | warn => "WARN"
  | info => "INFO"
  | debug => "DEBUG"
  | trace => "TRACE"

/-- The place of a level in the order, the weightiest first. -/
def rank : Level → Nat
  | error => 0
  | warn => 1
  | info => 2
  | debug => 3
  | trace => 4

/-- All levels. -/
def all : List Level := [error, warn, info, debug, trace]

end Level

/-- The stages of a run. -/
inductive Stage
  | scanning
  | parsing
  | evaluating
  deriving DecidableEq

/-- The category under which a log names the errors of a stage. -/
def Stage.category : Stage → String
  | scanning => "lexical"
  | parsing => "syntax"
  | evaluating => "evaluation"

/-- A named field of an event. Words are quoted in a log line, texts of other things are not. -/
structure Event.Field where
  name : String
  text : String
  quoted : Bool
  deriving DecidableEq

/-- What there is to tell. -/
inductive Event
  /-- A token was read. -/
  | token (t : Token)
  /-- The source was read, in so many tokens with the end marker. -/
  | scanned (count : Nat)
  /-- The tokens were parsed. -/
  | parsed (tree : Expr)
  /-- A node came to a value. -/
  | evaluatedNode (step : Step)
  /-- The expression came to a value and left so many variables. -/
  | evaluated (value : Value) (size : Nat)
  /-- The run failed in a stage. -/
  | failed (stage : Stage)
  deriving DecidableEq

/-- Which events a log shows. -/
abbrev LogFilter := Event → Bool

namespace Event

/-- The level of an event. -/
def level : Event → Level
  | token _ | evaluatedNode _ => .trace
  | scanned _ | parsed _ | evaluated _ _ => .debug
  | failed _ => .error

/-- The message of an event. -/
def message : Event → String
  | token _ => "token"
  | scanned _ => "scanned source"
  | parsed _ => "parsed expression"
  | evaluatedNode _ => "evaluated node"
  | evaluated _ _ => "evaluated expression"
  | failed _ => "run failed"

/-- The fields of an event. -/
def fields : Event → List Field
  | token t => [⟨"token", toString t, false⟩, ⟨"span", toString t.span, false⟩]
  | scanned count => [⟨"tokens", toString count, false⟩]
  | parsed tree => [⟨"tree", toString tree, false⟩]
  | evaluatedNode step =>
    [⟨"node", step.kind.label, true⟩, ⟨"value", toString step.value, false⟩]
  | evaluated value size =>
    [⟨"value", toString value, false⟩, ⟨"variables", toString size, false⟩]
  | failed stage => [⟨"category", stage.category, true⟩]

/-- A field in a log line. -/
def Field.entry (f : Field) : String :=
  " " ++ f.name ++ "=" ++ if f.quoted then "\"" ++ f.text ++ "\"" else f.text

/-- The log line of an event. -/
def line (e : Event) : String :=
  e.level.label ++ " " ++ e.message ++ String.join (e.fields.map Field.entry) ++ "\n"

/-- The log of some events, of which it shows those that pass a filter. -/
def log (shows : LogFilter) (events : List Event) : String :=
  String.join ((events.filter shows).map line)

/-- The events while a source becomes an expression: its tokens as far as they can be read, the
end of the scan and the end of the parse where they are reached. -/
def ofSource (source : String) : List Event :=
  let s := Scan.ofSource source
  s.tokens.map token ++
    match s.result with
    | .error _ => []
    | .ok tokens =>
      scanned tokens.length ::
        match parse tokens with
        | .error _ => []
        | .ok tree => [parsed tree]

/-- The events of an evaluation: its steps, and the end where there is a value. -/
def ofEvaluation (e : Evaluation) : List Event :=
  e.steps.map evaluatedNode ++
    match e.result with
    | .error _ => []
    | .ok value => [evaluated value e.env.size]

end Event

namespace LogFilter

/-- Nothing. -/
def nothing : LogFilter := fun _ => false

/-- The events of a level and the weightier ones. -/
def upTo (level : Level) : LogFilter := fun e => e.level.rank ≤ level.rank

end LogFilter

end Reckoner
