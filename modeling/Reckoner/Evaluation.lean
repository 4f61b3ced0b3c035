import Reckoner.Arithmetic
import Reckoner.Env
import Reckoner.Expr

/-!
# Evaluation

Evaluating an expression visits its nodes in postorder: the left operand, the right operand, then
the operation; the value of an assignment, then the assignment. The first operation that yields
no value ends the evaluation, and assignments made before it stay. An `Evaluation` records the
outcome, the environment reached, and a step for every node that came to a value.

* `Expr.evaluate_binary`, `Expr.evaluate_assign`: the evaluation of a node by those of its
  children.
-/

namespace Reckoner

/-- A node that came to a value. -/
structure Step where
  kind : Expr.Kind
  value : Value
  deriving DecidableEq

/-- The outcome of evaluating an expression, the environment reached, and the steps on the way. -/
structure Evaluation where
  result : Except ArithmeticError Value
  env : Env
  steps : List Step

namespace Evaluation

/-- A node that comes to a value at once. -/
def finish (kind : Expr.Kind) (value : Value) (env : Env) : Evaluation :=
  ⟨.ok value, env, [⟨kind, value⟩]⟩

/-- A node that comes to no value. -/
def fail (error : ArithmeticError) (env : Env) : Evaluation :=
  ⟨.error error, env, []⟩

/-- Goes on with the value and the environment, unless there is no value. -/
def andThen (e : Evaluation) (next : Value → Env → Evaluation) : Evaluation :=
  match e.result with
  | .ok value =>
    let further := next value e.env
    { further with steps := e.steps ++ further.steps }
  | .error _ => e

theorem andThen_of_ok {e : Evaluation} {value : Value} (h : e.result = .ok value)
    (next : Value → Env → Evaluation) :
    e.andThen next =
      ⟨(next value e.env).result, (next value e.env).env, e.steps ++ (next value e.env).steps⟩ := by
  simp only [andThen, h]

theorem andThen_of_error {e : Evaluation} {error : ArithmeticError} (h : e.result = .error error)
    (next : Value → Env → Evaluation) : e.andThen next = e := by
  simp only [andThen, h]

end Evaluation

/-- The evaluation of an operation at two values. -/
def Operator.evaluate (op : Operator) (left right : Value) (env : Env) : Evaluation :=
  match op.apply left right with
  | .ok value => .finish (.operation op) value env
  | .error error => .fail error env

namespace Expr

/-- The evaluation of an expression in an environment. -/
def evaluate : Expr → Env → Evaluation
  | literal value, env => .finish .literal value env
  | var name, env => .finish .var (env.get name) env
  | assign name value, env =>
    (value.evaluate env).andThen fun v env => .finish .assignment v (env.assign name v)
  | binary op left right, env =>
    (left.evaluate env).andThen fun l env =>
      (right.evaluate env).andThen fun r env => op.evaluate l r env

theorem evaluate_assign (name : String) (value : Expr) (env : Env) :
    (assign name value).evaluate env =
      (value.evaluate env).andThen fun v env => .finish .assignment v (env.assign name v) := rfl

theorem evaluate_binary (op : Operator) (left right : Expr) (env : Env) :
    (binary op left right).evaluate env =
      (left.evaluate env).andThen fun l env =>
        (right.evaluate env).andThen fun r env => op.evaluate l r env := rfl

end Expr

end Reckoner
