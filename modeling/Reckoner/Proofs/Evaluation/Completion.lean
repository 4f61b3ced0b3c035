import Reckoner.Evaluation
import Mathlib.Data.List.Nodup

/-!
# Completed nodes

A node of an expression is completed when its evaluation comes to a value. Evaluation completes
nodes in postorder, each at most once, up to the operation that fails or to the end. The
environment it leaves is the one it began with, changed by the completed assignments in this order,
whether or not it comes to a value.

* `Expr.nodes`, `Expr.completions`: all nodes in postorder, and those that are completed, with
  their values.
* `Expr.Evaluates`: the rules of evaluation, error paths included, with the nodes completed by each;
  `Expr.evaluates` says that evaluation follows them, so that a statement about all evaluations is
  proved by one induction over the rules.
* `evaluate_effects`: what evaluation does to the environment, and which nodes it completes.
-/

namespace Reckoner

/-! ## Nodes -/

namespace Expr

/-- Which operand of its parent a node is. -/
inductive Side
  | value
  | left
  | right
  deriving DecidableEq

/-- A node of an expression: the way down to it from the root, and the expression it heads. -/
structure Node where
  path : List Side
  expr : Expr
  deriving DecidableEq

def root (e : Expr) : Node := ⟨[], e⟩

/-- The name that the root assigns to, if it is an assignment. -/
def target? : Expr → Option String
  | assign name _ => some name
  | _ => none

namespace Node

/-- The node, seen from the parent of the root. -/
def under (side : Side) (n : Node) : Node := { n with path := side :: n.path }

def operand (n : Node) (side : Side) (e : Expr) : Node := ⟨n.path ++ [side], e⟩

/-- The node is an assignment to the name. -/
def Assigns (n : Node) (name : String) : Prop := n.expr.target? = some name

instance (n : Node) (name : String) : Decidable (n.Assigns name) :=
  inferInstanceAs (Decidable (_ = _))

end Node

/-- The nodes of an expression in postorder: those of its operands from left to right, then its
root. -/
def nodes : Expr → List Node
  | literal value => [(literal value).root]
  | var name => [(var name).root]
  | assign name value => value.nodes.map (.under .value) ++ [(assign name value).root]
  | binary op left right =>
    left.nodes.map (.under .left) ++ right.nodes.map (.under .right) ++
      [(binary op left right).root]

/-- Whether one node stands inside another is the same from the parent of the root. -/
theorem Node.under_prefix_under_iff {side : Side} {m n : Node} :
    (m.under side).path <+: (n.under side).path ↔ m.path <+: n.path := by
  simp [under, List.cons_prefix_cons]

/-- No node stands inside one that comes before it. -/
theorem pairwise_nodes (e : Expr) : e.nodes.Pairwise fun m n => ¬ m.path <+: n.path := by
  induction e with
  | literal | var => exact List.pairwise_singleton ..
  | assign name value ih =>
    rw [nodes, List.pairwise_append, List.pairwise_map]
    refine ⟨ih.imp (mt Node.under_prefix_under_iff.mp), List.pairwise_singleton .., ?_⟩
    simp [Node.under, root]
  | binary op left right ihl ihr =>
    rw [nodes, List.pairwise_append, List.pairwise_append, List.pairwise_map, List.pairwise_map]
    refine ⟨⟨ihl.imp (mt Node.under_prefix_under_iff.mp),
      ihr.imp (mt Node.under_prefix_under_iff.mp), ?_⟩, List.pairwise_singleton .., ?_⟩
    · simp [Node.under, List.cons_prefix_cons]
    · simp only [List.mem_append, List.mem_map, List.mem_singleton]
      rintro m (⟨n, -, rfl⟩ | ⟨n, -, rfl⟩) _ rfl <;> simp [Node.under, root]

/-- No node comes twice. -/
theorem nodup_nodes (e : Expr) : e.nodes.Nodup :=
  e.pairwise_nodes.imp fun {m n} h (heq : m = n) => h (heq ▸ List.prefix_rfl)

end Expr

/-! ## Completions -/

/-- A node that evaluation has completed, and the value it came to. -/
structure Completion where
  node : Expr.Node
  value : Value
  deriving DecidableEq

namespace Completion

/-- The completion, seen from the parent of the root. -/
def under (side : Expr.Side) (c : Completion) : Completion := { c with node := c.node.under side }

/-- The step that evaluation records for the completion. -/
def step (c : Completion) : Step := ⟨c.node.expr.kind, c.value⟩

/-- The environment behind the completion: changed if the node is an assignment. -/
def perform (env : Env) (c : Completion) : Env :=
  match c.node.expr.target? with
  | some name => env.assign name c.value
  | none => env

@[simp] theorem map_step_under (side : Expr.Side) (cs : List Completion) :
    (cs.map (under side)).map step = cs.map step :=
  List.map_map

@[simp] theorem map_node_under (side : Expr.Side) (cs : List Completion) :
    (cs.map (under side)).map node = (cs.map node).map (.under side) := by
  rw [List.map_map, List.map_map]
  rfl

end Completion

/-- The environment behind some completions, in their order. -/
def Env.after (env : Env) (cs : List Completion) : Env := cs.foldl Completion.perform env

namespace Expr

/-- The completion of the root, if the expression comes to a value. -/
def rootCompletion (e : Expr) (env : Env) : List Completion :=
  match (e.evaluate env).result with
  | .ok value => [⟨e.root, value⟩]
  | .error _ => []

/-- The completions in their order, when an expression is evaluated. Each node counts with the
environment in which its evaluation begins; a right operand is evaluated only behind a left one
that came to a value. -/
def completions : Expr → Env → List Completion
  | literal value, env => (literal value).rootCompletion env
  | var name, env => (var name).rootCompletion env
  | assign name value, env =>
    (value.completions env).map (.under .value) ++ (assign name value).rootCompletion env
  | binary op left right, env =>
    (left.completions env).map (.under .left) ++
      (match (left.evaluate env).result with
        | .ok _ => (right.completions (left.evaluate env).env).map (.under .right)
        | .error _ => []) ++
      (binary op left right).rootCompletion env

/-! ## The rules of evaluation -/

/-- `e.Evaluates env result env' cs`: evaluating `e` in `env` has the result, leaves `env'` and
completes `cs`. -/
inductive Evaluates : Expr → Env → Except ArithmeticError Value → Env → List Completion → Prop
  | literal (value : Value) (env : Env) :
    Evaluates (.literal value) env (.ok value) env [⟨(Expr.literal value).root, value⟩]
  | var (name : String) (env : Env) :
    Evaluates (.var name) env (.ok (env.get name)) env [⟨(Expr.var name).root, env.get name⟩]
  | assign (name : String) {value : Expr} {env env' : Env} {v : Value} {cs : List Completion} :
    Evaluates value env (.ok v) env' cs →
    Evaluates (.assign name value) env (.ok v) (env'.assign name v)
      (cs.map (.under .value) ++ [⟨(Expr.assign name value).root, v⟩])
  | assign_error (name : String) {value : Expr} {env env' : Env} {error : ArithmeticError}
      {cs : List Completion} :
    Evaluates value env (.error error) env' cs →
    Evaluates (.assign name value) env (.error error) env' (cs.map (.under .value))
  | left_error (op : Operator) {left : Expr} (right : Expr) {env env' : Env}
      {error : ArithmeticError} {cs : List Completion} :
    Evaluates left env (.error error) env' cs →
    Evaluates (.binary op left right) env (.error error) env' (cs.map (.under .left))
  | right_error (op : Operator) {left right : Expr} {env env' env'' : Env} {l : Value}
      {error : ArithmeticError} {cs ds : List Completion} :
    Evaluates left env (.ok l) env' cs → Evaluates right env' (.error error) env'' ds →
    Evaluates (.binary op left right) env (.error error) env''
      (cs.map (.under .left) ++ ds.map (.under .right))
  | apply_error {op : Operator} {left right : Expr} {env env' env'' : Env} {l r : Value}
      {error : ArithmeticError} {cs ds : List Completion} :
    Evaluates left env (.ok l) env' cs → Evaluates right env' (.ok r) env'' ds →
    op.apply l r = .error error →
    Evaluates (.binary op left right) env (.error error) env''
      (cs.map (.under .left) ++ ds.map (.under .right))
  | binary {op : Operator} {left right : Expr} {env env' env'' : Env} {l r v : Value}
      {cs ds : List Completion} :
    Evaluates left env (.ok l) env' cs → Evaluates right env' (.ok r) env'' ds →
    op.apply l r = .ok v →
    Evaluates (.binary op left right) env (.ok v) env''
      (cs.map (.under .left) ++ ds.map (.under .right) ++ [⟨(Expr.binary op left right).root, v⟩])

/-- Every evaluation follows the rules. -/
theorem exists_evaluates (e : Expr) (env : Env) :
    ∃ result env' cs, e.Evaluates env result env' cs := by
  induction e generalizing env with
  | literal value => exact ⟨_, _, _, .literal value env⟩
  | var name => exact ⟨_, _, _, .var name env⟩
  | assign name value ih =>
    obtain ⟨result, env', cs, h⟩ := ih env
    cases result with
    | ok v => exact ⟨_, _, _, .assign name h⟩
    | error error => exact ⟨_, _, _, .assign_error name h⟩
  | binary op left right ihl ihr =>
    obtain ⟨result, env', cs, hl⟩ := ihl env
    cases result with
    | error error => exact ⟨_, _, _, .left_error op right hl⟩
    | ok l =>
      obtain ⟨result, env'', ds, hr⟩ := ihr env'
      cases result with
      | error error => exact ⟨_, _, _, .right_error op hl hr⟩
      | ok r =>
        cases happly : op.apply l r with
        | error error => exact ⟨_, _, _, .apply_error hl hr happly⟩
        | ok v => exact ⟨_, _, _, .binary hl hr happly⟩

namespace Evaluates

variable {e : Expr} {env env' : Env} {result : Except ArithmeticError Value} {value : Value}
  {error : ArithmeticError} {cs : List Completion}

/-- What follows the rules is the evaluation, which records one step for each completion. -/
theorem evaluate_eq (h : e.Evaluates env result env' cs) :
    e.evaluate env = ⟨result, env', cs.map Completion.step⟩ := by
  induction h with
  | literal | var => rfl
  | assign name _ ih =>
    rw [evaluate_assign, ih, List.map_append, Completion.map_step_under]
    rfl
  | assign_error name _ ih =>
    rw [evaluate_assign, ih, Completion.map_step_under]
    rfl
  | left_error op right _ ih =>
    rw [evaluate_binary, ih, Completion.map_step_under]
    rfl
  | right_error op _ _ ihl ihr =>
    rw [evaluate_binary, ihl, List.map_append, Completion.map_step_under,
      Completion.map_step_under]
    simp only [Evaluation.andThen, ihr]
  | apply_error _ _ happly ihl ihr =>
    rw [evaluate_binary, ihl, List.map_append, Completion.map_step_under,
      Completion.map_step_under]
    simp only [Evaluation.andThen, ihr, Operator.evaluate, happly, Evaluation.fail,
      List.append_nil]
  | binary _ _ happly ihl ihr =>
    rw [evaluate_binary, ihl, List.map_append, List.map_append, Completion.map_step_under,
      Completion.map_step_under, List.append_assoc]
    simp only [Evaluation.andThen, ihr, Operator.evaluate, happly]
    rfl

/-- What the rules complete is what evaluation completes. -/
theorem completions_eq (h : e.Evaluates env result env' cs) : e.completions env = cs := by
  induction h with
  | literal | var => rfl
  | assign name h ih => rw [completions, ih, rootCompletion, (assign name h).evaluate_eq]
  | assign_error name h ih =>
    rw [completions, ih, rootCompletion, (assign_error name h).evaluate_eq]
    exact List.append_nil _
  | left_error op right h ih =>
    rw [completions, ih, rootCompletion, (left_error op right h).evaluate_eq, h.evaluate_eq]
    simp only [List.append_nil]
  | right_error op hl hr ihl ihr =>
    rw [completions, ihl, rootCompletion, (right_error op hl hr).evaluate_eq, hl.evaluate_eq, ihr]
    exact List.append_nil _
  | apply_error hl hr happly ihl ihr =>
    rw [completions, ihl, rootCompletion, (apply_error hl hr happly).evaluate_eq, hl.evaluate_eq,
      ihr]
    exact List.append_nil _
  | binary hl hr happly ihl ihr =>
    rw [completions, ihl, rootCompletion, (binary hl hr happly).evaluate_eq, hl.evaluate_eq, ihr]

end Evaluates

/-- Evaluation follows the rules. -/
theorem evaluates (e : Expr) (env : Env) :
    e.Evaluates env (e.evaluate env).result (e.evaluate env).env (e.completions env) := by
  obtain ⟨result, env', cs, h⟩ := e.exists_evaluates env
  rw [h.evaluate_eq, h.completions_eq]
  exact h

theorem steps_evaluate (e : Expr) (env : Env) :
    (e.evaluate env).steps = (e.completions env).map Completion.step := by
  rw [(e.evaluates env).evaluate_eq]

end Expr

/-! ## The environment behind completions -/

namespace Env

variable {env : Env} {name : String} {c : Completion} {cs ds : List Completion}

@[simp] theorem after_cons (env : Env) (c : Completion) (cs : List Completion) :
    env.after (c :: cs) = (c.perform env).after cs := rfl

@[simp] theorem after_append (env : Env) (cs ds : List Completion) :
    env.after (cs ++ ds) = (env.after cs).after ds :=
  List.foldl_append

@[simp] theorem after_map_under (env : Env) (side : Expr.Side) (cs : List Completion) :
    env.after (cs.map (.under side)) = env.after cs :=
  List.foldl_map

theorem find?_perform_of_assigns (h : c.node.Assigns name) :
    (c.perform env).find? name = some c.value := by
  rw [Expr.Node.Assigns] at h
  simp [Completion.perform, h, assign]

theorem find?_perform_of_not_assigns (h : ¬ c.node.Assigns name) :
    (c.perform env).find? name = env.find? name := by
  rw [Expr.Node.Assigns] at h
  cases htarget : c.node.expr.target? with
  | none => simp [Completion.perform, htarget]
  | some other =>
    have hne : name ≠ other := fun heq => h (heq ▸ htarget)
    simp [Completion.perform, htarget, assign, hne]

/-- A name that no completion assigns is left as it was. -/
theorem find?_after_of_forall_not (h : ∀ c ∈ cs, ¬ c.node.Assigns name) :
    (env.after cs).find? name = env.find? name := by
  induction cs generalizing env with
  | nil => rfl
  | cons c cs ih =>
    rw [List.forall_mem_cons] at h
    rw [after_cons, ih h.2, find?_perform_of_not_assigns h.1]

/-- The last completion that assigns a name decides its value. -/
theorem find?_after_append_cons (hc : c.node.Assigns name)
    (hds : ∀ d ∈ ds, ¬ d.node.Assigns name) :
    (env.after (cs ++ c :: ds)).find? name = some c.value := by
  rw [after_append, after_cons, find?_after_of_forall_not hds, find?_perform_of_assigns hc]

/-- Some completion that assigns a name is the last one. -/
theorem exists_last (h : ∃ c ∈ cs, c.node.Assigns name) :
    ∃ before c after, cs = before ++ c :: after ∧ c.node.Assigns name ∧
      ∀ d ∈ after, ¬ d.node.Assigns name := by
  -- the last one is the first from the back
  have hsome : (cs.reverse.find? fun c => c.node.Assigns name).isSome := by simpa using h
  obtain ⟨c, hfind⟩ := Option.isSome_iff_exists.mp hsome
  obtain ⟨hc, after, before, hsplit, hafter⟩ := List.find?_eq_some_iff_append.mp hfind
  refine ⟨before.reverse, c, after.reverse, ?_, by simpa using hc, by simpa using hafter⟩
  rw [← List.reverse_reverse cs, hsplit]
  simp

/-- Completions bind a name to the same value in every environment, or leave it as it was in every
environment. -/
theorem find?_after_cases (name : String) (cs : List Completion) :
    ((∃ c ∈ cs, c.node.Assigns name) ∧ ∃ v, ∀ env : Env, (env.after cs).find? name = some v) ∨
      (∀ c ∈ cs, ¬ c.node.Assigns name) ∧
        ∀ env : Env, (env.after cs).find? name = env.find? name := by
  by_cases h : ∃ c ∈ cs, c.node.Assigns name
  · refine Or.inl ⟨h, ?_⟩
    obtain ⟨before, c, after, rfl, hc, hafter⟩ := exists_last h
    exact ⟨c.value, fun env => find?_after_append_cons hc hafter⟩
  · have hnone : ∀ c ∈ cs, ¬ c.node.Assigns name := fun c hc hassigns => h ⟨c, hc, hassigns⟩
    exact Or.inr ⟨hnone, fun env => find?_after_of_forall_not hnone⟩

/-- A name is bound if it was bound before or some completion assigns it. -/
theorem isSome_find?_after_iff :
    ((env.after cs).find? name).isSome ↔
      (env.find? name).isSome ∨ ∃ c ∈ cs, c.node.Assigns name := by
  obtain ⟨hassigns, v, hv⟩ | ⟨hnone, hsame⟩ := find?_after_cases name cs
  · rw [hv]
    exact iff_of_true rfl (Or.inr hassigns)
  · rw [hsame]
    exact (or_iff_left fun ⟨c, hc, hassigns⟩ => hnone c hc hassigns).symm

end Env

namespace Expr.Evaluates

variable {e : Expr} {env env' : Env} {result : Except ArithmeticError Value} {value : Value}
  {error : ArithmeticError} {cs : List Completion}

/-- Completions change the environment, and nothing else does. -/
theorem env_eq (h : e.Evaluates env result env' cs) : env' = env.after cs := by
  induction h with
  | literal | var => rfl
  | assign name _ ih =>
    rw [Env.after_append, Env.after_map_under, ← ih]
    rfl
  | assign_error name _ ih | left_error op right _ ih => rw [Env.after_map_under, ← ih]
  | right_error op _ _ ihl ihr | apply_error _ _ _ ihl ihr =>
    rw [Env.after_append, Env.after_map_under, Env.after_map_under, ← ihl, ← ihr]
  | binary _ _ _ ihl ihr =>
    rw [Env.after_append, Env.after_append, Env.after_map_under, Env.after_map_under, ← ihl, ← ihr]
    rfl

end Expr.Evaluates

/-! ## Failures -/

/-- The values at which the operation failed. -/
def ArithmeticError.operands : ArithmeticError → Value × Value
  | divisionByZero left right => (left, right)
  | overflow _ left right => (left, right)

theorem Operator.operands_of_apply {op : Operator} {left right : Value} {error : ArithmeticError}
    (h : op.apply left right = .error error) : error.operands = (left, right) := by
  by_cases hdivides : op.DividesByZero right
  · rw [apply_of_divisor_zero hdivides] at h
    cases h
    rfl
  · rw [apply_of_not_dividesByZero hdivides] at h
    split at h <;> cases h
    rfl

namespace Expr

/-- The node is an operation, its operands are completed, and at their values, which the error
carries, its operator raises the error. -/
def Node.Raises (n : Node) (error : ArithmeticError) (cs : List Completion) : Prop :=
  ∃ op left right l r, n.expr = binary op left right ∧ ⟨n.operand .left left, l⟩ ∈ cs ∧
    ⟨n.operand .right right, r⟩ ∈ cs ∧ op.apply l r = .error error ∧ error.operands = (l, r)

/-- The expression fails with the error after the completions: they are those of the nodes before
an operation that raises it, in postorder, so that no node around the operation or behind it is
completed. -/
def FailsAfter (e : Expr) (cs : List Completion) (error : ArithmeticError) : Prop :=
  ∃ failing after, e.nodes = cs.map Completion.node ++ failing :: after ∧
    failing.Raises error cs ∧
    ∀ n, n.path <+: failing.path ∨ n ∈ after → n ∉ cs.map Completion.node

theorem Node.Raises.mono {n : Node} {error : ArithmeticError} {cs ds : List Completion}
    (h : n.Raises error cs) (hsub : cs ⊆ ds) : n.Raises error ds := by
  obtain ⟨op, left, right, l, r, hexpr, hl, hr, happly⟩ := h
  exact ⟨op, left, right, l, r, hexpr, hsub hl, hsub hr, happly⟩

theorem Node.Raises.under {n : Node} {error : ArithmeticError} {cs : List Completion}
    (h : n.Raises error cs) (side : Side) :
    (n.under side).Raises error (cs.map (.under side)) := by
  obtain ⟨op, left, right, l, r, hexpr, hl, hr, happly⟩ := h
  exact ⟨op, left, right, l, r, hexpr, List.mem_map_of_mem hl, List.mem_map_of_mem hr, happly⟩

/-! ## Which nodes are completed -/

namespace Evaluates

variable {e : Expr} {env env' : Env} {result : Except ArithmeticError Value} {value : Value}
  {error : ArithmeticError} {cs : List Completion}

/-- An expression that comes to a value completes all its nodes, in postorder. -/
theorem map_node_of_ok (h : e.Evaluates env result env' cs) (hresult : result = .ok value) :
    cs.map Completion.node = e.nodes := by
  induction h generalizing value with
  | literal | var => rfl
  | assign name _ ih =>
    rw [List.map_append, Completion.map_node_under, ih rfl]
    rfl
  | binary _ _ _ ihl ihr =>
    rw [List.map_append, List.map_append, Completion.map_node_under, Completion.map_node_under,
      ihl rfl, ihr rfl]
    rfl
  | assign_error | left_error | right_error | apply_error => cases hresult

theorem root_mem (h : e.Evaluates env (.ok value) env' cs) : ⟨e.root, value⟩ ∈ cs := by
  cases h <;> simp

/-- An evaluation that fails completes the nodes that come before the failing operation. -/
theorem exists_raises (h : e.Evaluates env result env' cs) (hresult : result = .error error) :
    ∃ failing after, e.nodes = cs.map Completion.node ++ failing :: after ∧
      failing.Raises error cs := by
  induction h with
  | literal | var | assign | binary => cases hresult
  | @assign_error name value _ _ _ _ _ ih =>
    obtain ⟨failing, after, hnodes, hraises⟩ := ih hresult
    refine ⟨failing.under .value, after.map (.under .value) ++ [(Expr.assign name value).root], ?_,
      hraises.under .value⟩
    rw [nodes, hnodes]
    simp only [List.map_append, List.map_cons, Completion.map_node_under, List.append_assoc,
      List.cons_append]
  | @left_error op left right _ _ _ _ _ ih =>
    obtain ⟨failing, after, hnodes, hraises⟩ := ih hresult
    refine ⟨failing.under .left, after.map (.under .left) ++ right.nodes.map (.under .right) ++
      [(Expr.binary op left right).root], ?_, hraises.under .left⟩
    rw [nodes, hnodes]
    simp only [List.map_append, List.map_cons, Completion.map_node_under, List.append_assoc,
      List.cons_append]
  | @right_error op left right _ _ _ _ _ _ _ hl _ _ ih =>
    -- the left operand came to a value, so that all its nodes stand before the failing one
    obtain ⟨failing, after, hnodes, hraises⟩ := ih hresult
    refine ⟨failing.under .right, after.map (.under .right) ++ [(Expr.binary op left right).root],
      ?_, (hraises.under .right).mono (List.subset_append_right ..)⟩
    rw [nodes, hnodes, ← hl.map_node_of_ok rfl]
    simp only [List.map_append, List.map_cons, Completion.map_node_under, List.append_assoc,
      List.cons_append]
  | @apply_error op left right _ _ _ l r _ _ _ hl hr happly =>
    -- the root itself fails, behind all nodes of both operands
    cases hresult
    refine ⟨(Expr.binary op left right).root, [], ?_, op, left, right, l, r, rfl,
      List.mem_append_left _ (List.mem_map_of_mem hl.root_mem),
      List.mem_append_right _ (List.mem_map_of_mem hr.root_mem), happly,
      Operator.operands_of_apply happly⟩
    rw [nodes, ← hl.map_node_of_ok rfl, ← hr.map_node_of_ok rfl, List.map_append,
      Completion.map_node_under, Completion.map_node_under]

end Evaluates

variable {e : Expr} {env : Env} {value : Value} {error : ArithmeticError} {c : Completion}

theorem map_node_completions (h : (e.evaluate env).result = .ok value) :
    (e.completions env).map Completion.node = e.nodes :=
  (e.evaluates env).map_node_of_ok h

theorem failsAfter_completions (h : (e.evaluate env).result = .error error) :
    e.FailsAfter (e.completions env) error := by
  obtain ⟨failing, after, hnodes, hraises⟩ := (e.evaluates env).exists_raises h
  refine ⟨failing, after, hnodes, hraises, ?_⟩
  have hpairwise := e.pairwise_nodes
  rw [hnodes, List.pairwise_append] at hpairwise
  rintro n (hinside | hafter) hbefore
  · exact hpairwise.2.2 n hbefore failing (List.mem_cons_self ..) hinside
  · exact hpairwise.2.2 n hbefore n (List.mem_cons_of_mem _ hafter) List.prefix_rfl

theorem env_evaluate (e : Expr) (env : Env) :
    (e.evaluate env).env = env.after (e.completions env) :=
  (e.evaluates env).env_eq

/-- Only nodes of the expression are completed. -/
theorem node_mem_nodes (h : c ∈ e.completions env) : c.node ∈ e.nodes := by
  have hmem : c.node ∈ (e.completions env).map Completion.node := List.mem_map_of_mem h
  cases hresult : (e.evaluate env).result with
  | ok value => exact map_node_completions hresult ▸ hmem
  | error error =>
    obtain ⟨failing, after, hnodes, -, -⟩ := failsAfter_completions hresult
    rw [hnodes]
    exact List.mem_append_left _ hmem

end Expr

/-! ## The effect of an evaluation -/

/-- Whether or not an evaluation comes to a value: it records a step for each completion; a name is
bound behind it if it was bound before or a completed assignment assigns it, to the value of the
last one that does, and to what it was bound to if there is none. With a value all nodes are
completed, in postorder, each of them once; with an error exactly the nodes before the failing
operation are, so that none behind it and none around it is. -/
theorem evaluate_effects (e : Expr) (env : Env) :
    (e.evaluate env).steps = (e.completions env).map Completion.step ∧
    (∀ name,
      (((e.evaluate env).env.find? name).isSome ↔
        (env.find? name).isSome ∨ ∃ c ∈ e.completions env, c.node.Assigns name) ∧
      (∀ before c after, e.completions env = before ++ c :: after → c.node.Assigns name →
        (∀ d ∈ after, ¬ d.node.Assigns name) →
        (e.evaluate env).env.find? name = some c.value) ∧
      ((∀ c ∈ e.completions env, ¬ c.node.Assigns name) →
        (e.evaluate env).env.find? name = env.find? name)) ∧
    (∀ value, (e.evaluate env).result = .ok value →
      (e.completions env).map Completion.node = e.nodes ∧
        ∀ n ∈ e.nodes, ((e.completions env).map Completion.node).count n = 1) ∧
    ∀ error, (e.evaluate env).result = .error error →
      e.FailsAfter (e.completions env) error := by
  refine ⟨e.steps_evaluate env, fun name => ?_, fun value hvalue => ?_,
    fun error herror => Expr.failsAfter_completions herror⟩
  · rw [e.env_evaluate env]
    refine ⟨Env.isSome_find?_after_iff, fun before c after hcs hc hafter => ?_,
      Env.find?_after_of_forall_not⟩
    rw [hcs, Env.find?_after_append_cons hc hafter]
  · rw [Expr.map_node_completions hvalue]
    exact ⟨rfl, fun n hn => List.count_eq_one_of_mem e.nodup_nodes hn⟩

/-- `(x = 5) + (y = (x = x * 6) / z)`: `x` is assigned twice, and the quotient may fail. -/
def Expr.assignsAgain : Expr :=
  .binary .add (.assign "x" (.literal ⟨5, by decide⟩))
    (.assign "y" (.binary .divide
      (.assign "x" (.binary .multiply (.var "x") (.literal ⟨6, by decide⟩))) (.var "z")))

/-- An environment in which the quotient has no divisor. -/
def Env.withoutDivisor : Env := assign ∅ "y" ⟨8, by decide⟩

/-- An environment in which it has one. -/
def Env.withDivisor : Env := withoutDivisor.assign "z" ⟨7, by decide⟩

/-- Without a divisor `x` has its second value, and `y` is as it was. With one, the last node is
completed, once. -/
theorem evaluate_effects_assignsAgain :
    (∃ error, (Expr.assignsAgain.evaluate Env.withoutDivisor).result = .error error ∧
      Expr.assignsAgain.FailsAfter (Expr.assignsAgain.completions Env.withoutDivisor) error) ∧
    (Expr.assignsAgain.evaluate Env.withoutDivisor).env.find? "x" = some ⟨30, by decide⟩ ∧
    (Expr.assignsAgain.evaluate Env.withoutDivisor).env.find? "y" =
      Env.withoutDivisor.find? "y" ∧
    ∃ value, (Expr.assignsAgain.evaluate Env.withDivisor).result = .ok value ∧
      ((Expr.assignsAgain.completions Env.withDivisor).map Completion.node).count
        Expr.assignsAgain.root = 1 := by
  obtain ⟨-, heffect, -, hfails⟩ := evaluate_effects Expr.assignsAgain Env.withoutDivisor
  obtain ⟨-, -, hcompletes, -⟩ := evaluate_effects Expr.assignsAgain Env.withDivisor
  refine ⟨⟨_, rfl, hfails _ rfl⟩, ?_, (heffect "y").2.2 (by decide), _, rfl,
    (hcompletes _ rfl).2 _ (by decide)⟩
  refine (heffect "x").2.1 ((Expr.assignsAgain.completions Env.withoutDivisor).take 5)
    ⟨⟨[.right, .value, .left],
      .assign "x" (.binary .multiply (.var "x") (.literal ⟨6, by decide⟩))⟩, ⟨30, by decide⟩⟩
    [⟨⟨[.right, .value, .right], .var "z"⟩, .zero⟩] rfl rfl (by decide)

end Reckoner
