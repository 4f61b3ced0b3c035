import Reckoner.Evaluation

/-!
# Evaluation over all integers

Exact evaluation keeps to the order of evaluation, but computes with integers of any size, so that
nothing overflows. It lists the operations it comes to, each with its operands and the environment
in which it is reached. Evaluation agrees with it up to the first operation that has no value, and
that operation decides the error.

* `Operator.checked?_eq`: checked arithmetic yields the exact integer, where that is in range.
* `Expr.evaluate_agrees`: the agreement, by induction on the expression.
* `evaluate_eq_exact`: where every operation has a value, evaluation comes to the exact value and
  environment; otherwise the first that has none is the error, and the environment is the one it
  is reached with.
-/

namespace Reckoner

/-! ## Exact evaluation -/

/-- Variables that hold integers of any size, those without an entry aside. -/
abbrev IntEnv := String → Option Int

/-- The integer of a name: zero unless it was assigned. -/
def IntEnv.get (env : IntEnv) (name : String) : Int :=
  match env name with
  | some n => n
  | none => 0

/-- The variables after an assignment. -/
def IntEnv.assign (env : IntEnv) (name : String) (n : Int) : IntEnv :=
  fun other => if other = name then some n else env other

/-- The environment, with its values as integers. -/
def Env.exact (env : Env) : IntEnv :=
  fun name => (env.find? name).map Value.toInt

/-- The integer that an operator yields: a sum, a difference, a product, or a quotient truncated
toward zero. A quotient by zero is of no meaning. -/
def Operator.exact : Operator → Int → Int → Int
  | add, l, r => l + r
  | subtract, l, r => l - r
  | multiply, l, r => l * r
  | divide, l, r => l.tdiv r

/-- The integer an expression comes to, and the environment behind it. Behind a division by zero
both are of no meaning. -/
def Expr.exact : Expr → IntEnv → Int × IntEnv
  | literal value, env => (value.toInt, env)
  | var name, env => (env.get name, env)
  | assign name value, env =>
    let (n, env) := value.exact env
    (n, env.assign name n)
  | binary op left right, env =>
    let (l, env) := left.exact env
    let (r, env) := right.exact env
    (op.exact l r, env)

/-- An operation that an exact evaluation comes to: its operands, and the environment in which it
is reached. -/
structure Operation where
  op : Operator
  left : Int
  right : Int
  env : IntEnv

/-- The operations of an exact evaluation, in the order in which it comes to them: those of the
left operand, those of the right operand, and the operation itself. What stands behind a division
by zero is of no meaning. -/
def Expr.operations : Expr → IntEnv → List Operation
  | literal _, _ => []
  | var _, _ => []
  | assign _ value, env => value.operations env
  | binary op left right, env =>
    let (l, behindLeft) := left.exact env
    let (r, behindRight) := right.exact behindLeft
    left.operations env ++ (right.operations behindLeft ++ [⟨op, l, r, behindRight⟩])

namespace Operation

/-- The operation is a division by zero. -/
def DividesByZero (o : Operation) : Prop := o.op = .divide ∧ o.right = 0

/-- The integer of the operation. -/
def exact (o : Operation) : Int := o.op.exact o.left o.right

/-- The operation has a value: it is no division by zero, and its integer fits a signed word of 64
bits. -/
def Succeeds (o : Operation) : Prop :=
  ¬ o.DividesByZero ∧ -9223372036854775808 ≤ o.exact ∧ o.exact ≤ 9223372036854775807

instance (o : Operation) : Decidable o.DividesByZero := inferInstanceAs (Decidable (_ ∧ _))

instance (o : Operation) : Decidable o.Succeeds := inferInstanceAs (Decidable (_ ∧ _))

/-- The error is the one of the operation, with both its operands: a division by zero where it is
one, and an overflow of its operator otherwise. -/
def Raises (o : Operation) : ArithmeticError → Prop
  | .divisionByZero left right => o.DividesByZero ∧ left.toInt = o.left ∧ right.toInt = o.right
  | .overflow op left right =>
    ¬ o.DividesByZero ∧ op = o.op ∧ left.toInt = o.left ∧ right.toInt = o.right

/-- An operation raises one error. -/
theorem Raises.unique {o : Operation} {error other : ArithmeticError} (h : o.Raises error)
    (hother : o.Raises other) : error = other := by
  cases error with
  | divisionByZero left right =>
    obtain ⟨hdivides, hleft, hright⟩ := h
    cases other with
    | divisionByZero left' right' =>
      rw [Value.ext (hleft.trans hother.2.1.symm), Value.ext (hright.trans hother.2.2.symm)]
    | overflow => exact absurd hdivides hother.1
  | overflow op left right =>
    obtain ⟨hdivides, hop, hleft, hright⟩ := h
    cases other with
    | divisionByZero => exact absurd hother.1 hdivides
    | overflow op' left' right' =>
      obtain ⟨-, hop', hleft', hright'⟩ := hother
      rw [hop, hop', Value.ext (hleft.trans hleft'.symm), Value.ext (hright.trans hright'.symm)]

end Operation

/-! ## Agreement -/

@[simp] theorem Env.get_exact (env : Env) (name : String) :
    env.exact.get name = (env.get name).toInt := by
  rw [IntEnv.get, exact, get]
  cases env.find? name <;> rfl

@[simp] theorem Env.exact_assign (env : Env) (name : String) (value : Value) :
    (env.assign name value).exact = env.exact.assign name value.toInt := by
  funext other
  rw [exact, assign, Bindings.find?_insert, IntEnv.assign]
  split <;> rfl

/-- The evaluation comes to an exact outcome, or to the error of the first of the operations that
has no value. -/
def Evaluation.Agrees (e : Evaluation) (outcome : Int × IntEnv) (operations : List Operation) :
    Prop :=
  match operations.find? fun o => ¬ o.Succeeds with
  | none => ∃ v, e.result = .ok v ∧ v.toInt = outcome.1 ∧ e.env.exact = outcome.2
  | some o => ∃ error, e.result = .error error ∧ o.Raises error ∧ e.env.exact = o.env

namespace Evaluation

variable {e : Evaluation} {outcome next : Int × IntEnv} {operations more : List Operation}

theorem Agrees.andThen {go : Value → Env → Evaluation} (h : e.Agrees outcome operations)
    (hgo : ∀ v env, v.toInt = outcome.1 → env.exact = outcome.2 → (go v env).Agrees next more) :
    (e.andThen go).Agrees next (operations ++ more) := by
  rw [Agrees, List.find?_append]
  rw [Agrees] at h
  cases hfind : operations.find? fun o => ¬ o.Succeeds with
  | none =>
    rw [hfind] at h
    obtain ⟨v, hv, hvalue, henv⟩ := h
    rw [andThen_of_ok hv, Option.none_or]
    exact hgo v e.env hvalue henv
  | some o =>
    rw [hfind] at h
    obtain ⟨error, herror, h⟩ := h
    rw [andThen_of_error herror, Option.some_or]
    exact ⟨error, herror, h⟩

end Evaluation

/-! ## One operation -/

/-- The operation at two values. -/
def Operation.ofValues (op : Operator) (left right : Value) (env : Env) : Operation :=
  ⟨op, left.toInt, right.toInt, env.exact⟩

namespace Operator

variable {op : Operator} {left right : Value} {env : Env}

theorem dividesByZero_ofValues :
    (Operation.ofValues op left right env).DividesByZero ↔ op.DividesByZero right := by
  refine and_congr_right fun _ => ?_
  rw [Value.ext_iff]
  rfl

/-- Checked arithmetic yields the exact integer where that is in range, and nothing elsewhere. -/
theorem checked?_eq (op : Operator) (left right : Value) :
    op.checked? left right = Value.ofInt? (op.exact left.toInt right.toInt) := by
  cases op <;> rfl

theorem apply_of_succeeds (h : (Operation.ofValues op left right env).Succeeds) :
    ∃ v, op.apply left right = .ok v ∧ v.toInt = op.exact left.toInt right.toInt := by
  obtain ⟨hdivides, hrange⟩ := h
  have hvalue : op.checked? left right = some ⟨op.exact left.toInt right.toInt, hrange⟩ := by
    rw [checked?_eq, Value.ofInt?_eq_some_iff]
  refine ⟨⟨op.exact left.toInt right.toInt, hrange⟩, ?_, rfl⟩
  rw [apply_of_not_dividesByZero (mt dividesByZero_ofValues.mpr hdivides), hvalue]

theorem apply_of_not_succeeds (h : ¬ (Operation.ofValues op left right env).Succeeds) :
    ∃ error, op.apply left right = .error error ∧
      (Operation.ofValues op left right env).Raises error := by
  by_cases hdivides : (Operation.ofValues op left right env).DividesByZero
  · have happly := apply_of_divisor_zero (dividesByZero_ofValues.mp hdivides) left
    exact ⟨_, happly, hdivides, rfl, rfl⟩
  · have hnone : op.checked? left right = none := by
      rw [checked?_eq, Value.ofInt?_eq_none_iff]
      exact fun hrange => h ⟨hdivides, hrange⟩
    refine ⟨.overflow op left right, ?_, hdivides, rfl, rfl, rfl⟩
    rw [apply_of_not_dividesByZero (mt dividesByZero_ofValues.mpr hdivides), hnone]

theorem evaluate_agrees (op : Operator) (left right : Value) (env : Env) :
    (op.evaluate left right env).Agrees (op.exact left.toInt right.toInt, env.exact)
      [.ofValues op left right env] := by
  rw [Evaluation.Agrees, List.find?_singleton]
  by_cases h : (Operation.ofValues op left right env).Succeeds
  · obtain ⟨v, happly, hv⟩ := apply_of_succeeds h
    simp only [h, not_true, decide_false, Operator.evaluate, happly]
    exact ⟨v, rfl, hv, rfl⟩
  · obtain ⟨error, happly, hraises⟩ := apply_of_not_succeeds h
    simp only [h, not_false_iff, decide_true, Operator.evaluate, happly]
    exact ⟨error, rfl, hraises, rfl⟩

end Operator

/-! ## Expressions -/

theorem Expr.evaluate_agrees (e : Expr) (env : Env) :
    (e.evaluate env).Agrees (e.exact env.exact) (e.operations env.exact) := by
  induction e generalizing env with
  | literal v => exact ⟨v, rfl, rfl, rfl⟩
  | var name => exact ⟨_, rfl, (env.get_exact name).symm, rfl⟩
  | assign name value ih =>
    rw [evaluate_assign, operations, ← List.append_nil (value.operations _)]
    refine (ih env).andThen fun v behind hv hbehind => ⟨v, rfl, hv, ?_⟩
    change (behind.assign name v).exact = (value.exact env.exact).2.assign name _
    rw [Env.exact_assign, hv, hbehind]
  | binary op left right ihl ihr =>
    rw [evaluate_binary, operations]
    refine (ihl env).andThen fun l behindLeft hl hbehindLeft => ?_
    -- the right operand starts in the exact environment behind the left one
    have hright := ihr behindLeft
    rw [hbehindLeft] at hright
    refine hright.andThen fun r behind hr hbehind => ?_
    have hop := op.evaluate_agrees l r behind
    rw [Operation.ofValues, hl, hr, hbehind] at hop
    exact hop

/-- Where every operation of the exact evaluation has a value, evaluation comes to the exact value
and leaves the exact environment. Otherwise the first operation that has none is the error, with
its exact operands, and the environment is the one in which it is reached. -/
theorem evaluate_eq_exact (e : Expr) (env : Env) :
    ((∀ o ∈ e.operations env.exact, o.Succeeds) →
      ∃ v, (e.evaluate env).result = .ok v ∧ v.toInt = (e.exact env.exact).1 ∧
        (e.evaluate env).env.exact = (e.exact env.exact).2) ∧
    ∀ before o after, e.operations env.exact = before ++ o :: after →
      (∀ p ∈ before, p.Succeeds) → ¬ o.Succeeds →
      ∃ error, (e.evaluate env).result = .error error ∧ o.Raises error ∧
        (e.evaluate env).env.exact = o.env := by
  have hagrees := e.evaluate_agrees env
  rw [Evaluation.Agrees] at hagrees
  constructor
  · intro hall
    have hnone : ((e.operations env.exact).find? fun o => ¬ o.Succeeds) = none :=
      List.find?_eq_none.mpr fun o ho => by simpa using hall o ho
    rw [hnone] at hagrees
    exact hagrees
  · intro before o after hsplit hbefore ho
    have hsome : ((e.operations env.exact).find? fun o => ¬ o.Succeeds) = some o :=
      List.find?_eq_some_iff_append.mpr
        ⟨by simpa using ho, before, after, hsplit, fun p hp => by simpa using hbefore p hp⟩
    rw [hsome] at hagrees
    exact hagrees

/-- Every operator once, a name behind its assignment, and one that is never assigned:
`((x = 17) + x) * (y - 44) / 25`. -/
def Expr.usesAll : Expr :=
  .binary .divide
    (.binary .multiply
      (.binary .add (.assign "x" (.literal ⟨17, by decide⟩)) (.var "x"))
      (.binary .subtract (.var "y") (.literal ⟨44, by decide⟩)))
    (.literal ⟨25, by decide⟩)

/-- An operator at two numbers, the left one assigned to `x`. -/
def Expr.assigning (op : Operator) (left right : Value) : Expr :=
  .binary op (.assign "x" (.literal left)) (.literal right)

/-- The quotient of `-1496` and `25` is truncated toward zero. At the ends of the range every
operator overflows, the quotient of the least value and `-1` included, and the assignment made
before stays. A quotient by zero is an error of its own. -/
theorem evaluate_eq_exact_usesAll :
    (∃ v, (Expr.usesAll.evaluate ∅).result = .ok v ∧ v.toInt = -59 ∧
      (Expr.usesAll.evaluate ∅).env.exact = (Env.exact ∅).assign "x" 17) ∧
    (∀ o ∈ ([(.add, ⟨9223372036854775807, by decide⟩, ⟨1, by decide⟩),
        (.subtract, ⟨-9223372036854775808, by decide⟩, ⟨1, by decide⟩),
        (.multiply, ⟨4294967296, by decide⟩, ⟨2147483648, by decide⟩),
        (.divide, ⟨-9223372036854775808, by decide⟩, ⟨-1, by decide⟩)] :
          List (Operator × Value × Value)),
      ((Expr.assigning o.1 o.2.1 o.2.2).evaluate ∅).result =
          .error (.overflow o.1 o.2.1 o.2.2) ∧
        ((Expr.assigning o.1 o.2.1 o.2.2).evaluate ∅).env.exact =
          (Env.exact ∅).assign "x" o.2.1.toInt) ∧
    ((Expr.assigning .divide ⟨17, by decide⟩ .zero).evaluate ∅).result =
        .error (.divisionByZero ⟨17, by decide⟩ .zero) ∧
      ((Expr.assigning .divide ⟨17, by decide⟩ .zero).evaluate ∅).env.exact =
        (Env.exact ∅).assign "x" 17 := by
  have hfails : ∀ op left right error,
      Operation.Raises ⟨op, left.toInt, right.toInt, (Env.exact ∅).assign "x" left.toInt⟩ error →
      ¬ Operation.Succeeds ⟨op, left.toInt, right.toInt, (Env.exact ∅).assign "x" left.toInt⟩ →
      ((Expr.assigning op left right).evaluate ∅).result = .error error ∧
        ((Expr.assigning op left right).evaluate ∅).env.exact =
          (Env.exact ∅).assign "x" left.toInt := by
    intro op left right error hraises hfails
    obtain ⟨other, hother, hunique, henv⟩ :=
      (evaluate_eq_exact (Expr.assigning op left right) ∅).2 [] _ [] rfl (by simp) hfails
    exact ⟨hother.trans (congrArg _ (hunique.unique hraises)), henv⟩
  refine ⟨(evaluate_eq_exact Expr.usesAll ∅).1 (by decide +kernel), fun o ho => ?_, ?_⟩
  · simp only [List.mem_cons, List.not_mem_nil, or_false] at ho
    rcases ho with rfl | rfl | rfl | rfl
    all_goals exact hfails _ _ _ _ ⟨by decide, rfl, rfl, rfl⟩ (by decide)
  · exact hfails _ _ _ _ ⟨by decide, rfl, rfl⟩ (by decide)

end Reckoner
