import Reckoner.Operator
import Reckoner.Value

/-!
# Expressions

An expression is a literal, a variable, an assignment to a name, or an operator between two
expressions. Its text is a prefix form in which every assignment and every operation shows its
operands in parentheses.
-/

namespace Reckoner

/-- Expressions. -/
inductive Expr
  | literal (value : Value)
  | var (name : String)
  | assign (name : String) (value : Expr)
  | binary (op : Operator) (left right : Expr)
  deriving DecidableEq

/-- What a node of an expression is, its operands aside. -/
inductive Expr.Kind
  | literal
  | var
  | assignment
  | operation (op : Operator)
  deriving DecidableEq

namespace Expr

/-- The name of a kind in messages: a word, or the symbol of the operator. -/
def Kind.label : Kind → String
  | literal => "number"
  | var => "variable"
  | assignment => "assignment"
  | operation op => op.symbol

instance : ToString Kind := ⟨Kind.label⟩

/-- The kind of the root. -/
def kind : Expr → Kind
  | literal _ => .literal
  | var _ => .var
  | assign _ _ => .assignment
  | binary op _ _ => .operation op

/-- The kinds of all nodes: the root, then the nodes of the left operand, then the right. -/
def kinds : Expr → List Kind
  | literal _ => [.literal]
  | var _ => [.var]
  | assign _ value => .assignment :: value.kinds
  | binary op left right => .operation op :: (left.kinds ++ right.kinds)

/-- The text of an expression. -/
def text : Expr → String
  | literal value => toString value
  | var name => name
  | assign name value => "Assignment(" ++ name ++ ", " ++ value.text ++ ")"
  | binary op left right =>
    "BinaryOp(" ++ op.symbol ++ ", " ++ left.text ++ ", " ++ right.text ++ ")"

instance : ToString Expr := ⟨text⟩

end Expr

end Reckoner
