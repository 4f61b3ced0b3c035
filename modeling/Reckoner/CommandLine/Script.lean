import Reckoner.Run

/-!
# Scripts

A script is one source run in an empty environment. On success it prints its value, or a listing
of all stages: the source, the tokens with their end marker, the tree, the value and the
environment.

* `script`: what a source prints, or the error of the stage that failed.
-/

namespace Reckoner.CommandLine

/-- The listing of a run that came to a value. -/
def listing (source : String) (tokens : List Token) (tree : Expr) (value : Value) (env : Env) :
    String :=
  "Source: " ++ source ++ "\n\nTokens:\n" ++
    String.join (tokens.map fun t => toString t ++ "\n") ++
    "\nTree:\n" ++ toString tree ++ "\n\nResult: " ++ toString value ++
    "\nEnvironment: " ++ toString env ++ "\n"

/-- What a source prints, stage by stage. -/
def script (quiet : Bool) (source : String) : Except RunError String := do
  let tokens ← (scan source).mapError .scanning
  let tree ← (parse tokens).mapError .parsing
  let e := tree.evaluate ∅
  let value ← e.result.mapError .evaluating
  return if quiet then toString value ++ "\n" else listing source tokens tree value e.env

end Reckoner.CommandLine
