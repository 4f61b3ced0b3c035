import Reckoner.Proofs.Evaluation.Completion
import Reckoner.Proofs.Grammar.Height

/-!
# How often paths turn

A chain of operators grows to the left, so that the left operands on a path are bounded by the
tokens alone. A path that leaves them turns: to a right operand, or to the value of an assignment.
Turns are bounded by the limit on nesting. Between two levels a path turns once from a sum to a
product, once from a product to a factor and, if an assignment opens the level, once to its value.

* `Derivation.turns_le`: the bound, by induction on derivations, with what each symbol adds to the
  levels.
* `turns_le_of_parseWithin`: the bound for whole lists of tokens, and that it is reached under every
  limit.
-/

namespace Reckoner

open Parse

/-! ## Turns -/

namespace Expr

/-- The expression has no operands. -/
def IsLeaf : Expr → Prop
  | literal _ => True
  | var _ => True
  | assign _ _ => False
  | binary _ _ _ => False

namespace Node

/-- The edges on the way down to a node that lead to no left operand. -/
def turns (n : Node) : Nat := n.path.countP (· ≠ .left)

@[simp] theorem turns_under_value (n : Node) : (n.under .value).turns = n.turns + 1 :=
  List.countP_cons_of_pos rfl

@[simp] theorem turns_under_left (n : Node) : (n.under .left).turns = n.turns :=
  List.countP_cons_of_neg (by decide)

@[simp] theorem turns_under_right (n : Node) : (n.under .right).turns = n.turns + 1 :=
  List.countP_cons_of_pos rfl

end Node

end Expr

/-- The turns in a phrase of the symbol before a path comes to a factor. -/
def Symbol.turns : Symbol → Nat
  | .factor => 0
  | .chain .multiplicative => 1
  | .chain .additive => 2

theorem Symbol.turns_chain (level : Precedence) :
    (Symbol.chain level).turns = level.operand.turns + 1 := by
  cases level <;> rfl

namespace Derivation

/-- A path turns three times for a level, and as often as it takes from the symbol to a factor. -/
theorem turns_le {X : Symbol} (D : Derivation X) :
    ∀ n ∈ D.tree.nodes, n.turns ≤ 3 * D.nesting + X.turns := by
  induction D with
  | number | name =>
    intro n hn
    obtain rfl := List.mem_singleton.mp hn
    exact Nat.zero_le _
  | assign t sign kind sign_kind value ih =>
    intro n hn
    obtain hn | hn := List.mem_append.mp hn
    · obtain ⟨m, hm, rfl⟩ := List.mem_map.mp hn
      have hvalue : m.turns ≤ 3 * value.nesting + 2 := ih m hm
      rw [Expr.Node.turns_under_value, nesting]
      omega
    · obtain rfl := List.mem_singleton.mp hn
      exact Nat.zero_le _
  | group opening closing opening_kind closing_kind inner ih =>
    intro n hn
    have hinner : n.turns ≤ 3 * inner.nesting + 2 := ih n hn
    rw [nesting]
    omega
  | @single level operand ih =>
    intro n hn
    have hoperand := ih n hn
    rw [nesting, Symbol.turns_chain]
    omega
  | @binary level left sign op sign_kind precedence right ihl ihr =>
    intro n hn
    rw [nesting, Symbol.turns_chain]
    rw [Symbol.turns_chain] at ihl
    obtain hn | hn := List.mem_append.mp hn
    · obtain hn | hn := List.mem_append.mp hn
      · obtain ⟨m, hm, rfl⟩ := List.mem_map.mp hn
        have hleft := ihl m hm
        rw [Expr.Node.turns_under_left]
        omega
      · obtain ⟨m, hm, rfl⟩ := List.mem_map.mp hn
        have hright := ihr m hm
        rw [Expr.Node.turns_under_right]
        omega
    · obtain rfl := List.mem_singleton.mp hn
      exact Nat.zero_le _

/-! ## Stairs -/

/-- A factor, as the last of a sum of a name and a product: `x + x * …`. -/
def stair (last : Derivation .factor) : Derivation .expression :=
  operation .add (.single (.single (ofName "x"))) (operation .multiply (.single (ofName "x")) last)

/-- Such sums, each the value of an assignment in the one before: `x + x * x = x + x * x = … x`. -/
def stairs : Nat → Derivation .expression
  | 0 => stair (ofName "x")
  | levels + 1 => stair (assignTo "x" (stairs levels))

theorem leftClosed_stairs (levels : Nat) : (stairs levels).LeftClosed := by
  induction levels with
  | zero => exact ⟨id, trivial, id, trivial, trivial⟩
  | succ levels ih => exact ⟨id, trivial, id, trivial, ih⟩

theorem nesting_stairs (levels : Nat) : (stairs levels).nesting = levels := by
  induction levels with
  | zero => rfl
  | succ levels ih =>
    change max 0 (max 0 ((stairs levels).nesting + 1)) = levels + 1
    omega

/-- A path that goes to the right at every operator. -/
theorem exists_leaf_stairs (levels : Nat) :
    ∃ n ∈ (stairs levels).tree.nodes, n.expr.IsLeaf ∧ n.turns = 3 * levels + 2 := by
  induction levels with
  | zero => exact ⟨⟨[.right, .right], .var "x"⟩, by decide, trivial, rfl⟩
  | succ levels ih =>
    obtain ⟨n, hn, hleaf, hturns⟩ := ih
    refine ⟨((n.under .value).under .right).under .right, ?_, hleaf, ?_⟩
    · simp only [stairs, stair, operation, assignTo, tree, Expr.nodes, List.mem_append,
        List.mem_map]
      exact Or.inl (Or.inr ⟨_, Or.inl (Or.inr ⟨_, Or.inl ⟨n, hn, rfl⟩, rfl⟩), rfl⟩)
    · rw [Expr.Node.turns_under_right, Expr.Node.turns_under_right, Expr.Node.turns_under_value]
      omega

theorem parseWithin_stairs (levels : Nat) :
    parseWithin levels (stairs levels).tokens = .ok (stairs levels).tree :=
  parseWithin_eq_ok_iff_derivation.mpr ⟨_, (body_tokens _).symm, rfl, leftClosed_stairs levels,
    (nesting_stairs levels).le⟩

end Derivation

/-! ## The bound -/

/-- In the tree of an accepted list of tokens no path turns more than three times for each level of
the limit and twice besides, and under every limit some path to a leaf turns as often. -/
theorem turns_le_of_parseWithin (limit : Nat) :
    (∀ tokens tree, parseWithin limit tokens = .ok tree →
      ∀ n ∈ tree.nodes, n.turns ≤ 3 * limit + 2) ∧
    ∃ tokens tree, parseWithin limit tokens = .ok tree ∧
      ∃ n ∈ tree.nodes, n.expr.IsLeaf ∧ n.turns = 3 * limit + 2 := by
  constructor
  · intro tokens tree h n hn
    obtain ⟨D, -, rfl, -, hnesting⟩ := parseWithin_eq_ok_iff_derivation.mp h
    have hturns : n.turns ≤ 3 * D.nesting + 2 := D.turns_le n hn
    omega
  · exact ⟨_, _, Derivation.parseWithin_stairs limit, Derivation.exists_leaf_stairs limit⟩

/-- The path to the last name of `x + x * x = x + x * x` turns as often as the limit allows. -/
theorem turns_le_of_parseWithin_stairs :
    parseWithin 1 (Derivation.stairs 1).tokens = .ok (Derivation.stairs 1).tree ∧
      ⟨[.right, .right, .value, .right, .right], .var "x"⟩ ∈ (Derivation.stairs 1).tree.nodes ∧
      Expr.Node.turns ⟨[.right, .right, .value, .right, .right], .var "x"⟩ ≤ 5 := by
  have hparse := Derivation.parseWithin_stairs 1
  have hmem : ⟨[.right, .right, .value, .right, .right], .var "x"⟩ ∈
      (Derivation.stairs 1).tree.nodes := by
    decide
  exact ⟨hparse, hmem, (turns_le_of_parseWithin 1).1 _ _ hparse _ hmem⟩

end Reckoner
