import Reckoner.Operator
import Reckoner.Value

/-!
# Checked arithmetic

Operators on values. A division by zero is refused as such, and any other result that leaves the
range of values is refused as an overflow; both refusals keep the operands.

* `Operator.apply_of_divisor_zero`, `Operator.apply_of_not_dividesByZero`: an operator by its
  divisor.
-/

namespace Reckoner

/-- Why an operator yields no value. -/
inductive ArithmeticError
  | divisionByZero (left right : Value)
  | overflow (op : Operator) (left right : Value)
  deriving DecidableEq

/-- The one-line text of an arithmetic error. -/
def ArithmeticError.message : ArithmeticError → String
  | divisionByZero left right => s!"Division by zero in {left} / {right}"
  | overflow op left right => s!"Integer overflow while computing {left} {op} {right}"

namespace Operator

/-- Whether an operator with this right operand divides by zero. -/
def DividesByZero (op : Operator) (right : Value) : Prop :=
  op = divide ∧ right = .zero

instance (op : Operator) (right : Value) : Decidable (op.DividesByZero right) :=
  inferInstanceAs (Decidable (_ ∧ _))

/-- The value of an operator at two values, where it is in range. A quotient is truncated toward
zero. -/
def checked? : Operator → Value → Value → Option Value
  | add, left, right => Value.ofInt? (left.toInt + right.toInt)
  | subtract, left, right => Value.ofInt? (left.toInt - right.toInt)
  | multiply, left, right => Value.ofInt? (left.toInt * right.toInt)
  | divide, left, right => Value.ofInt? (left.toInt.tdiv right.toInt)

/-- The value of an operator at two values, or why it has none. -/
def apply (op : Operator) (left right : Value) : Except ArithmeticError Value :=
  if op.DividesByZero right then .error (.divisionByZero left right)
  else match op.checked? left right with
    | some v => .ok v
    | none => .error (.overflow op left right)

theorem apply_of_divisor_zero {op : Operator} {right : Value} (h : op.DividesByZero right)
    (left : Value) : op.apply left right = .error (.divisionByZero left right) :=
  if_pos h

theorem apply_of_not_dividesByZero {op : Operator} {right : Value} (h : ¬ op.DividesByZero right)
    (left : Value) :
    op.apply left right =
      match op.checked? left right with
      | some v => .ok v
      | none => .error (.overflow op left right) :=
  if_neg h

end Operator

end Reckoner
