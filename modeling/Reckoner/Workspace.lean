import Reckoner.Run

/-!
# Workspaces

A workspace keeps environments and expressions under names, and one of the environments is
current. Commands run sources in the current environment, keep expressions for later, and switch,
copy and compare environments. An environment that was never made counts as empty.

* `Workspace.perform`: the reply to a command and the workspace after it.
* `Workspace.current_withCurrent`: a changed current environment is the current one.
-/

namespace Reckoner

/-- Named environments and expressions, and the name of the current environment. -/
structure Workspace where
  currentName : String
  envs : Bindings Env
  trees : Bindings Expr

namespace Workspace

/-- What a workspace can be asked to do. -/
inductive Command
  /-- Run a source in the current environment. -/
  | run (source : String)
  /-- Assign a variable of the current environment. -/
  | assign (name : String) (value : Value)
  /-- Read a variable of the current environment. -/
  | get (name : String)
  /-- Keep the expression that a source spells. -/
  | compile (tree : String) (source : String)
  /-- Evaluate a kept expression in the current environment. -/
  | evaluate (tree : String)
  /-- Evaluate a kept expression in an environment of its own. -/
  | evaluateFresh (tree : String)
  /-- Make an environment current. -/
  | use (env : String)
  /-- Keep a copy of the current environment. -/
  | copy (env : String)
  /-- Compare the current environment with another. -/
  | same (env : String)

/-- What a workspace replies. -/
inductive Reply
  | done
  | value (v : Value)
  | compiled (tree : Expr)
  | evaluatedFresh (v : Value) (env : Env)
  | same (equal : Bool)
  | runFailed (error : RunError)
  | evaluationFailed (error : ArithmeticError)
  | noSuchTree

/-- A workspace with one environment. -/
def ofEnv (env : Env) : Workspace :=
  ⟨"main", Bindings.insert ∅ "main" env, ∅⟩

/-- The environment of a name, empty if there is none. -/
def env (w : Workspace) (name : String) : Env :=
  (w.envs.find? name).getD ∅

/-- The current environment. -/
def current (w : Workspace) : Env := w.env w.currentName

/-- The workspace with the current environment changed. -/
def withCurrent (w : Workspace) (env : Env) : Workspace :=
  { w with envs := w.envs.insert w.currentName env }

/-- The reply that an outcome amounts to. -/
def Reply.ofResult {ε : Type} (failed : ε → Reply) : Except ε Value → Reply
  | .ok v => .value v
  | .error e => failed e

/-- The reply to a command, and the workspace after it. -/
def perform (w : Workspace) : Command → Reply × Workspace
  | .run source =>
    let r := Reckoner.run source w.current
    (.ofResult .runFailed r.result, w.withCurrent r.env)
  | .assign name value => (.done, w.withCurrent (w.current.assign name value))
  | .get name => (.value (w.current.get name), w)
  | .compile tree source =>
    match Reckoner.compile source with
    | .ok t => (.compiled t, { w with trees := w.trees.insert tree t })
    | .error e => (.runFailed e, w)
  | .evaluate tree =>
    match w.trees.find? tree with
    | none => (.noSuchTree, w)
    | some t =>
      let e := t.evaluate w.current
      (.ofResult .evaluationFailed e.result, w.withCurrent e.env)
  | .evaluateFresh tree =>
    match w.trees.find? tree with
    | none => (.noSuchTree, w)
    | some t =>
      let e := t.evaluate ∅
      match e.result with
      | .ok v => (.evaluatedFresh v e.env, w)
      | .error error => (.evaluationFailed error, w)
  | .use env => (.done, { w with currentName := env })
  | .copy env => (.done, { w with envs := w.envs.insert env w.current })
  | .same env => (.same (w.current = w.env env), w)

@[simp] theorem current_withCurrent (w : Workspace) (env : Env) :
    (w.withCurrent env).current = env := by
  simp [current, withCurrent, Workspace.env]

end Workspace

end Reckoner
