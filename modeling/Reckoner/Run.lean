import Reckoner.Event

/-!
# Runs

A run takes a source through all stages: it is scanned, parsed, and evaluated in an environment.
The first stage that fails ends the run with its error.

* `run_of_compile_error`, `run_of_compile_ok`: a run that finds no expression leaves the
  environment alone, any other evaluates the expression found.
-/

namespace Reckoner

/-- Why a run came to no value: the stage that failed and its error. -/
inductive RunError
  | scanning (error : ScanError)
  | parsing (error : ParseError)
  | evaluating (error : ArithmeticError)
  deriving DecidableEq

namespace RunError

/-- The stage that failed. -/
def stage : RunError → Stage
  | scanning _ => .scanning
  | parsing _ => .parsing
  | evaluating _ => .evaluating

/-- The one-line text of a failed run. -/
def message : RunError → String
  | scanning e => "Lexical error: " ++ e.message
  | parsing e => "Syntax error: " ++ e.message
  | evaluating e => "Evaluation error: " ++ e.message

end RunError

/-- The expression that a source spells. -/
def compile (source : String) : Except RunError Expr := do
  let tokens ← (scan source).mapError .scanning
  (parse tokens).mapError .parsing

/-- The outcome of a run, the environment it leaves, and its events. -/
structure Run where
  result : Except RunError Value
  env : Env
  events : List Event

/-- The run of a source in an environment. -/
def run (source : String) (env : Env) : Run :=
  match compile source with
  | .error error => ⟨.error error, env, Event.ofSource source⟩
  | .ok tree =>
    let e := tree.evaluate env
    ⟨e.result.mapError .evaluating, e.env, Event.ofSource source ++ Event.ofEvaluation e⟩

theorem run_of_compile_error {source : String} {error : RunError}
    (h : compile source = .error error) (env : Env) :
    run source env = ⟨.error error, env, Event.ofSource source⟩ := by
  simp only [run, h]

theorem run_of_compile_ok {source : String} {tree : Expr} (h : compile source = .ok tree)
    (env : Env) :
    run source env =
      ⟨(tree.evaluate env).result.mapError .evaluating, (tree.evaluate env).env,
        Event.ofSource source ++ Event.ofEvaluation (tree.evaluate env)⟩ := by
  simp only [run, h]

end Reckoner
