import Reckoner.Expr

/-!
# Postfix code

An expression written out in postorder is code for a stack machine: literals and variables push,
an assignment stores the top and keeps it, an operation takes its right and then its left operand.

* `Expr.ofCode?_code`: the code of an expression determines it.
-/

namespace Reckoner

/-- Instructions of postfix code. -/
inductive Instr
  | push (value : Value)
  | load (name : String)
  | store (name : String)
  | apply (op : Operator)
  deriving DecidableEq

/-- What an instruction makes of a stack of expressions. -/
def Instr.build : Instr → List Expr → Option (List Expr)
  | push value, stack => some (.literal value :: stack)
  | load name, stack => some (.var name :: stack)
  | store name, value :: stack => some (.assign name value :: stack)
  | apply op, right :: left :: stack => some (.binary op left right :: stack)
  | _, _ => none

namespace Expr

/-- The postfix code of an expression. -/
def code : Expr → List Instr
  | literal value => [.push value]
  | var name => [.load name]
  | assign name value => value.code ++ [.store name]
  | binary op left right => left.code ++ right.code ++ [.apply op]

/-- The expressions on the stack after some code. -/
def build (code : List Instr) (stack : List Expr) : Option (List Expr) :=
  code.foldlM (fun stack i => i.build stack) stack

/-- The expression with the given code, if the code leaves exactly one. -/
def ofCode? (code : List Instr) : Option Expr :=
  match build code [] with
  | some [e] => some e
  | _ => none

theorem build_append (c d : List Instr) (stack : List Expr) :
    build (c ++ d) stack = (build c stack).bind (build d) := by
  simp only [build, List.foldlM_append]
  rfl

@[simp] theorem build_code (e : Expr) (stack : List Expr) :
    build e.code stack = some (e :: stack) := by
  induction e generalizing stack with
  | literal | var => rfl
  | assign name value ih =>
    rw [code, build_append, ih]
    rfl
  | binary op left right ihl ihr =>
    rw [code, build_append, build_append, ihl, Option.bind_some, ihr]
    rfl

theorem ofCode?_code (e : Expr) : ofCode? e.code = some e := by
  simp [ofCode?]

end Expr

end Reckoner
