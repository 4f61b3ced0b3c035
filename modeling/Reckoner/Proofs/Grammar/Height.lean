import Reckoner.Evaluation
import Reckoner.Proofs.Grammar.Acceptance
import Mathlib.Order.Nat

/-!
# How high trees get

A limit bounds the parentheses and assignments that are open at once. The operators of a chain
open no level: each one puts the tree so far under a new root. So the tree of a list of tokens is
at most as high as the limit and the operators in the tokens together, and for every limit and
every number of operators some tree is that high. No bound depends on the limit alone.

* `Derivation.height_tree_le`: the bound, by induction on derivations.
* `height_le_of_parseWithin`: the bound for whole lists of tokens, and that it is reached, also by
  the recursion of evaluation.
* `not_exists_height_bound`: the limit alone bounds neither.
-/

namespace Reckoner

open Parse

namespace Expr

/-- The edges of the longest path from the root to a leaf. -/
def height : Expr → Nat
  | literal _ => 0
  | var _ => 0
  | assign _ value => value.height + 1
  | binary _ left right => max left.height right.height + 1

/-- How deep evaluation recurs: the most evaluations of operands that are under way at once. A
right operand is left out where the left one fails. -/
def recursion : Expr → Env → Nat
  | literal _, _ => 0
  | var _, _ => 0
  | assign _ value, env => value.recursion env + 1
  | binary _ left right, env =>
    match (left.evaluate env).result with
    | .ok _ => max (left.recursion env) (right.recursion (left.evaluate env).env) + 1
    | .error _ => left.recursion env + 1

theorem recursion_le_height (e : Expr) (env : Env) : e.recursion env ≤ e.height := by
  induction e generalizing env with
  | literal | var => exact Nat.le_refl 0
  | assign name value ih => exact Nat.succ_le_succ (ih env)
  | binary op left right ihl ihr =>
    have hl := ihl env
    have hr := ihr (left.evaluate env).env
    rw [recursion, height]
    split <;> omega

theorem recursion_left_lt (op : Operator) (left right : Expr) (env : Env) :
    left.recursion env < (binary op left right).recursion env := by
  rw [recursion]
  split <;> omega

end Expr

/-- The token is the sign of an operator. -/
def Token.isOperator (t : Token) : Bool :=
  match t.kind with
  | .operator _ => true
  | _ => false

theorem Token.isOperator_of_kind {t : Token} {op : Operator} (h : t.kind = .operator op) :
    t.isOperator = true := by
  simp [isOperator, h]

namespace Derivation

/-- A path descends by an operator, or into an assignment. -/
theorem height_tree_le {X : Symbol} (D : Derivation X) :
    D.tree.height ≤ D.nesting + D.tokens.countP Token.isOperator := by
  induction D with
  | number | name => exact Nat.zero_le _
  | assign t sign kind sign_kind value ih =>
    rw [tree, Expr.height, nesting, tokens, List.countP_cons, List.countP_cons]
    omega
  | group opening closing opening_kind closing_kind inner ih =>
    rw [tree, nesting, tokens, List.countP_cons, List.countP_append]
    omega
  | single operand ih => exact ih
  | binary left sign op sign_kind precedence right ihl ihr =>
    have hsign : sign.isOperator = true := Token.isOperator_of_kind sign_kind
    rw [tree, Expr.height, nesting, tokens, List.countP_append, List.countP_cons_of_pos hsign]
    omega

/-! ## Towers -/

/-- A name added to itself so many times: `x + x + … + x`. -/
def repeated : Nat → Derivation .expression
  | 0 => .single (.single (ofName "x"))
  | n + 1 => .binary (repeated n) (signOf .add) .add rfl rfl (.single (ofName "x"))

/-- Assignments, one in the other, around such a sum: `x = x = … = x + x + … + x`. -/
def tower (operators : Nat) : Nat → Derivation .expression
  | 0 => repeated operators
  | levels + 1 => .single (.single (assignTo "x" (tower operators levels)))

theorem leftClosed_repeated (n : Nat) : (repeated n).LeftClosed ∧ ¬ (repeated n).IsOpen := by
  induction n with
  | zero => exact ⟨trivial, id⟩
  | succ n ih => exact ⟨⟨ih.2, ih.1, trivial⟩, id⟩

theorem leftClosed_tower (operators levels : Nat) : (tower operators levels).LeftClosed := by
  induction levels with
  | zero => exact (leftClosed_repeated operators).1
  | succ levels ih => exact ih

theorem nesting_repeated (n : Nat) : (repeated n).nesting = 0 := by
  induction n with
  | zero => rfl
  | succ n ih => exact congrArg (max · 0) ih

theorem nesting_tower (operators levels : Nat) : (tower operators levels).nesting = levels := by
  induction levels with
  | zero => exact nesting_repeated operators
  | succ levels ih => exact congrArg (· + 1) ih

theorem countP_repeated (n : Nat) : (repeated n).tokens.countP Token.isOperator = n := by
  induction n with
  | zero => rfl
  | succ n ih => exact List.countP_append.trans (congrArg (· + 1) ih)

theorem countP_tower (operators levels : Nat) :
    (tower operators levels).tokens.countP Token.isOperator = operators := by
  induction levels with
  | zero => exact countP_repeated operators
  | succ levels ih => exact ih

theorem le_recursion_repeated (n : Nat) (env : Env) : n ≤ (repeated n).tree.recursion env := by
  induction n with
  | zero => exact Nat.zero_le _
  | succ n ih => exact Nat.lt_of_le_of_lt ih (Expr.recursion_left_lt ..)

theorem le_recursion_tower (operators levels : Nat) (env : Env) :
    levels + operators ≤ (tower operators levels).tree.recursion env := by
  induction levels with
  | zero => rw [Nat.zero_add]; exact le_recursion_repeated operators env
  | succ levels ih => rw [Nat.succ_add]; exact Nat.succ_le_succ ih

theorem body_tokens {X : Symbol} (D : Derivation X) :
    (Sentence.ofTokens D.tokens).body = D.tokens := by
  rw [Sentence.ofTokens_of_forall D.not_endMarker_of_mem]

theorem parseWithin_tower (operators levels : Nat) :
    parseWithin levels (tower operators levels).tokens = .ok (tower operators levels).tree :=
  parseWithin_eq_ok_iff_derivation.mpr ⟨_, (body_tokens _).symm, rfl,
    leftClosed_tower operators levels, (nesting_tower operators levels).le⟩

theorem height_tower (operators levels : Nat) :
    (tower operators levels).tree.height = levels + operators := by
  have hle := (tower operators levels).height_tree_le
  rw [nesting_tower, countP_tower] at hle
  have hrecursion := le_recursion_tower operators levels ∅
  exact Nat.le_antisymm hle (hrecursion.trans (Expr.recursion_le_height _ ∅))

theorem recursion_tower (operators levels : Nat) (env : Env) :
    (tower operators levels).tree.recursion env = levels + operators := by
  refine Nat.le_antisymm ?_ (le_recursion_tower operators levels env)
  exact height_tower operators levels ▸ Expr.recursion_le_height _ env

end Derivation

/-! ## The bound -/

/-- The tree of an accepted list of tokens is at most as high as the limit and the number of
operators, and evaluation recurs no deeper than the tree is high. For every limit and every number
of operators, a tree and every evaluation of it come to that. -/
theorem height_le_of_parseWithin (limit : Nat) :
    (∀ tokens tree, parseWithin limit tokens = .ok tree →
      tree.height ≤ limit + (Sentence.ofTokens tokens).body.countP Token.isOperator ∧
        ∀ env, tree.recursion env ≤ tree.height) ∧
    ∀ n, ∃ tokens tree, parseWithin limit tokens = .ok tree ∧
      (Sentence.ofTokens tokens).body.countP Token.isOperator = n ∧ tree.height = limit + n ∧
        ∀ env, tree.recursion env = limit + n := by
  constructor
  · intro tokens tree h
    obtain ⟨D, htokens, rfl, -, hnesting⟩ := parseWithin_eq_ok_iff_derivation.mp h
    have hheight := D.height_tree_le
    rw [htokens] at hheight
    exact ⟨by omega, D.tree.recursion_le_height⟩
  · intro n
    have hcount := (Derivation.body_tokens _).symm ▸ Derivation.countP_tower n limit
    exact ⟨_, _, Derivation.parseWithin_tower n limit, hcount, Derivation.height_tower n limit,
      Derivation.recursion_tower n limit⟩

theorem height_le_of_parseWithin_tower :
    parseWithin 1 (Derivation.tower 2 1).tokens = .ok (Derivation.tower 2 1).tree ∧
      (Derivation.tower 2 1).tree.height ≤ 3 := by
  have hparse := Derivation.parseWithin_tower 2 1
  exact ⟨hparse, ((height_le_of_parseWithin 1).1 _ _ hparse).1⟩

/-- No function of the limit bounds the height of trees, and none bounds the recursion of
evaluation: the operators of a long sum are all on one path. -/
theorem not_exists_height_bound :
    (¬ ∃ bound : Nat → Nat, ∀ limit tokens tree, parseWithin limit tokens = .ok tree →
      tree.height ≤ bound limit) ∧
    ¬ ∃ bound : Nat → Nat, ∀ limit tokens tree, parseWithin limit tokens = .ok tree →
      ∀ env, tree.recursion env ≤ bound limit := by
  constructor
  · rintro ⟨bound, h⟩
    have hheight := h 0 _ _ (Derivation.parseWithin_tower (bound 0 + 1) 0)
    rw [Derivation.height_tower] at hheight
    omega
  · rintro ⟨bound, h⟩
    have hrecursion := h 0 _ _ (Derivation.parseWithin_tower (bound 0 + 1) 0) ∅
    rw [Derivation.recursion_tower] at hrecursion
    omega

end Reckoner
