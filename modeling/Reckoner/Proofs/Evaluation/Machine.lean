import Reckoner.Code
import Reckoner.Evaluation
import Mathlib.Computability.StateTransition

/-!
# A stack machine for expressions

A machine runs the postfix code of an expression, one instruction after the other, on a stack of
values and an environment. It stands still when no instruction is left, and in front of an
operation that has no value.

* `Expr.evaluate_leads`: code in front of other code leads where evaluation does, by induction on
  the expression.
* `machine_rests_iff`: where the machine comes to rest on the code of an expression, for every
  outcome of its evaluation.
-/

namespace Reckoner

open StateTransition

/-- The code that is left, the stack with its top first, and the environment. -/
structure Machine where
  code : List Instr
  stack : List Value
  env : Env
  deriving DecidableEq

namespace Machine

/-- One instruction, if there is one that has its operands and a value. -/
def step : Machine → Option Machine
  | ⟨.push value :: code, stack, env⟩ => some ⟨code, value :: stack, env⟩
  | ⟨.load name :: code, stack, env⟩ => some ⟨code, env.get name :: stack, env⟩
  | ⟨.store name :: code, value :: stack, env⟩ =>
    some ⟨code, value :: stack, env.assign name value⟩
  | ⟨.apply op :: code, right :: left :: stack, env⟩ =>
    match op.apply left right with
    | .ok value => some ⟨code, value :: stack, env⟩
    | .error _ => none
  | _ => none

/-- The machine that runs the code of an expression, from an empty stack. -/
def ofExpr (e : Expr) (env : Env) : Machine := ⟨e.code, [], env⟩

variable {op : Operator} {left right value : Value} {error : ArithmeticError} {m : Machine}
  {code more : List Instr} {stack below : List Value} {env : Env}

theorem step_apply_of_ok (h : op.apply left right = .ok value) :
    step ⟨.apply op :: code, right :: left :: stack, env⟩ = some ⟨code, value :: stack, env⟩ := by
  simp only [step, h]

theorem step_apply_of_error (h : op.apply left right = .error error) :
    step ⟨.apply op :: code, right :: left :: stack, env⟩ = none := by
  simp only [step, h]

/-- Where the machine gets from a state, for the evaluation of the code in front of `code`: with
the value on top of `stack`, or in front of the operation that raises the error. -/
def Leads (m : Machine) (e : Evaluation) (code : List Instr) (stack : List Value) : Prop :=
  match e.result with
  | .ok value => Reaches step m ⟨code, value :: stack, e.env⟩
  | .error error => ∃ op left right rest below, op.apply left right = .error error ∧
      Reaches step m ⟨.apply op :: rest, right :: left :: below, e.env⟩

theorem Leads.of_reaches {n : Machine} {e : Evaluation} (hmn : Reaches step m n)
    (h : n.Leads e code stack) : m.Leads e code stack := by
  rw [Leads] at h ⊢
  cases hresult : e.result with
  | ok value =>
    rw [hresult] at h
    exact hmn.trans h
  | error error =>
    rw [hresult] at h
    obtain ⟨op, left, right, rest, below, hop, h⟩ := h
    exact ⟨op, left, right, rest, below, hop, hmn.trans h⟩

/-- The code of what comes next is run from where the value is on the stack. -/
theorem Leads.andThen {e : Evaluation} {go : Value → Env → Evaluation}
    (h : m.Leads e code stack)
    (hgo : ∀ value env, Leads ⟨code, value :: stack, env⟩ (go value env) more below) :
    m.Leads (e.andThen go) more below := by
  rw [Leads] at h
  cases hresult : e.result with
  | ok value =>
    rw [hresult] at h
    rw [Evaluation.andThen_of_ok hresult]
    exact Leads.of_reaches h (hgo value e.env)
  | error error =>
    rw [hresult] at h
    rw [Evaluation.andThen_of_error hresult, Leads, hresult]
    exact h

/-! ## Code leads where evaluation does -/

theorem operation_leads (op : Operator) (left right : Value) (env : Env) (code : List Instr)
    (stack : List Value) :
    Leads ⟨.apply op :: code, right :: left :: stack, env⟩ (op.evaluate left right env) code
      stack := by
  cases happly : op.apply left right with
  | ok value =>
    simp only [Operator.evaluate, happly]
    exact .single (step_apply_of_ok happly)
  | error error =>
    simp only [Operator.evaluate, happly]
    exact ⟨op, left, right, code, stack, happly, .refl⟩

end Machine

/-- The code of an expression, in front of any other code and above any other values, leads where
its evaluation does. -/
theorem Expr.evaluate_leads (e : Expr) (env : Env) (code : List Instr) (stack : List Value) :
    Machine.Leads ⟨e.code ++ code, stack, env⟩ (e.evaluate env) code stack := by
  induction e generalizing env code stack with
  | literal value => exact .single rfl
  | var name => exact .single rfl
  | assign name value ih =>
    rw [Expr.code, List.append_assoc, evaluate_assign]
    exact (ih env (.store name :: code) stack).andThen fun v behind => .single rfl
  | binary op left right ihl ihr =>
    rw [Expr.code, List.append_assoc, List.append_assoc, evaluate_binary]
    refine (ihl env (right.code ++ .apply op :: code) stack).andThen fun l behindLeft => ?_
    refine (ihr behindLeft (.apply op :: code) (l :: stack)).andThen fun r behind => ?_
    exact Machine.operation_leads op l r behind code stack

/-! ## Coming to rest -/

namespace Machine

variable {e : Expr} {env : Env}

theorem rests_of_ok {value : Value} (h : (e.evaluate env).result = .ok value) :
    ⟨[], [value], (e.evaluate env).env⟩ ∈ eval step (ofExpr e env) := by
  have hleads := e.evaluate_leads env [] []
  rw [List.append_nil, Leads, h] at hleads
  exact mem_eval.mpr ⟨hleads, rfl⟩

theorem rests_of_error {error : ArithmeticError} (h : (e.evaluate env).result = .error error) :
    ∃ op left right rest below, op.apply left right = .error error ∧
      ⟨.apply op :: rest, right :: left :: below, (e.evaluate env).env⟩ ∈
        eval step (ofExpr e env) := by
  have hleads := e.evaluate_leads env [] []
  rw [List.append_nil, Leads, h] at hleads
  obtain ⟨op, left, right, rest, below, hop, hreaches⟩ := hleads
  exact ⟨op, left, right, rest, below, hop, mem_eval.mpr ⟨hreaches, step_apply_of_error hop⟩⟩

end Machine

/-- The machine ends with one value on its stack exactly when evaluation comes to that value, and
it stops in front of an operation with an error exactly when evaluation ends in that error. The
environments are the same. -/
theorem machine_rests_iff (e : Expr) (env env' : Env) :
    (∀ value, ⟨[], [value], env'⟩ ∈ eval Machine.step (.ofExpr e env) ↔
      (e.evaluate env).result = .ok value ∧ (e.evaluate env).env = env') ∧
    ∀ error, (∃ op left right rest below, op.apply left right = .error error ∧
        ⟨.apply op :: rest, right :: left :: below, env'⟩ ∈ eval Machine.step (.ofExpr e env)) ↔
      (e.evaluate env).result = .error error ∧ (e.evaluate env).env = env' := by
  refine ⟨fun value => ⟨fun h => ?_, ?_⟩, fun error => ⟨?_, ?_⟩⟩
  · cases hresult : (e.evaluate env).result with
    | ok w =>
      cases Part.mem_unique h (Machine.rests_of_ok hresult)
      exact ⟨rfl, rfl⟩
    | error =>
      obtain ⟨_, _, _, _, _, -, hrest⟩ := Machine.rests_of_error hresult
      cases Part.mem_unique h hrest
  · rintro ⟨hvalue, rfl⟩
    exact Machine.rests_of_ok hvalue
  · rintro ⟨op, left, right, rest, below, hop, h⟩
    cases hresult : (e.evaluate env).result with
    | ok w => cases Part.mem_unique h (Machine.rests_of_ok hresult)
    | error =>
      obtain ⟨_, _, _, _, _, hop', hrest⟩ := Machine.rests_of_error hresult
      cases Part.mem_unique h hrest
      exact ⟨hop'.symm.trans hop, rfl⟩
  · rintro ⟨herror, rfl⟩
    exact Machine.rests_of_error herror

end Reckoner
