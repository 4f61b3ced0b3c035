/-!
# Operators

The four arithmetic operators, their symbols and their precedence.
-/

namespace Reckoner

/-- How tightly an operator binds. -/
inductive Precedence
  | additive
  | multiplicative
  deriving DecidableEq

/-- The arithmetic operators. -/
inductive Operator
  | add
  | subtract
  | multiply
  | divide
  deriving DecidableEq

namespace Operator

/-- How an operator is written in a source. -/
def symbol : Operator → String
  | add => "+"
  | subtract => "-"
  | multiply => "*"
  | divide => "/"

instance : ToString Operator := ⟨symbol⟩

/-- Multiplication and division bind tighter than addition and subtraction. -/
def precedence : Operator → Precedence
  | add | subtract => .additive
  | multiply | divide => .multiplicative

/-- All operators. -/
def all : List Operator := [add, subtract, multiply, divide]

/-- The operator with a given symbol. -/
def ofSymbol? (s : String) : Option Operator :=
  all.find? fun op => op.symbol == s

theorem ofSymbol?_symbol (op : Operator) : ofSymbol? op.symbol = some op := by
  cases op <;> decide

end Operator

end Reckoner
