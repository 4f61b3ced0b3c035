import Reckoner.Proofs.Evaluation.Dependence
import Reckoner.Run

/-!
# The order of two runs

Two expressions of which neither assigns a name that stands in the other can be evaluated in either
order: what the one assigns is not read by the other, so each comes to the same result, and the
names they assign are different, so the environment is the same. The same holds of the runs of two
sources. Nothing is asked of their outcomes: a run that fails has assigned some of its names.

* `Expr.completions_behind`, `Expr.result_behind`: an evaluation behind one that assigns none of
  the names it reads.
* `run_comm`: the two orders.
-/

namespace Reckoner

namespace Expr

/-- Some node of the expression is an assignment to the name. -/
def Assigns (e : Expr) (name : String) : Prop := ∃ n ∈ e.nodes, n.Assigns name

/-- Some node of the expression is a variable of the name. -/
def References (e : Expr) (name : String) : Prop := ∃ n ∈ e.nodes, n.expr = var name

section

variable {name other : String} {op : Operator} {value left right : Expr} {v : Value}

@[simp] theorem not_assigns_literal : ¬ (literal v).Assigns name := by
  simp [Assigns, nodes, root, Node.Assigns, target?]

@[simp] theorem not_assigns_var : ¬ (var other).Assigns name := by
  simp [Assigns, nodes, root, Node.Assigns, target?]

@[simp] theorem assigns_assign_iff :
    (assign other value).Assigns name ↔ value.Assigns name ∨ other = name := by
  simp [Assigns, nodes, root, Node.under, Node.Assigns, target?, or_and_right, exists_or]

@[simp] theorem assigns_binary_iff :
    (binary op left right).Assigns name ↔ left.Assigns name ∨ right.Assigns name := by
  simp [Assigns, nodes, root, Node.under, Node.Assigns, target?, or_and_right, exists_or]

@[simp] theorem references_var_iff : (var other).References name ↔ other = name := by
  simp [References, nodes, root]

@[simp] theorem references_assign_iff :
    (assign other value).References name ↔ value.References name := by
  simp [References, nodes, root, Node.under, or_and_right, exists_or]

@[simp] theorem references_binary_iff :
    (binary op left right).References name ↔ left.References name ∨ right.References name := by
  simp [References, nodes, root, Node.under, or_and_right, exists_or]

end

variable {d e : Expr} {env : Env} {name : String}

theorem Exposes.references (h : e.Exposes name) : e.References name := by
  obtain ⟨before, n, after, hnodes, hexpr, -⟩ := h
  exact ⟨n, by simp [hnodes], hexpr⟩

theorem not_assigns_of_mem_completions (h : ¬ e.Assigns name) :
    ∀ c ∈ e.completions env, ¬ c.node.Assigns name :=
  fun _ hc hassigns => h ⟨_, node_mem_nodes hc, hassigns⟩

theorem find?_evaluate_of_not_assigns (h : ¬ e.Assigns name) :
    (e.evaluate env).env.find? name = env.find? name := by
  rw [env_evaluate, Env.find?_after_of_forall_not (not_assigns_of_mem_completions h)]

/-- Behind the evaluation of an expression that assigns none of them, exposed names read the
same. -/
theorem get_behind (h : ∀ name, d.Assigns name → ¬ e.References name) :
    ∀ name, e.Exposes name → (d.evaluate env).env.get name = env.get name := by
  intro name hname
  have hd : ¬ d.Assigns name := fun hd => h name hd hname.references
  rw [Env.get, Env.get, find?_evaluate_of_not_assigns hd]

theorem completions_behind (h : ∀ name, d.Assigns name → ¬ e.References name) :
    e.completions (d.evaluate env).env = e.completions env :=
  completions_congr (get_behind h)

theorem result_behind (h : ∀ name, d.Assigns name → ¬ e.References name) :
    (e.evaluate (d.evaluate env).env).result = (e.evaluate env).result :=
  result_congr (get_behind h)

end Expr

/-- Completions that assign different names can change the environment in either order. -/
theorem Env.after_comm {cs ds : List Completion}
    (h : ∀ c ∈ cs, ∀ d ∈ ds, ∀ name, c.node.Assigns name → ¬ d.node.Assigns name) (env : Env) :
    (env.after cs).after ds = (env.after ds).after cs := by
  -- at most one of the two lists assigns the name, and where that list stands does not matter
  refine Bindings.ext_find? fun name => ?_
  obtain ⟨⟨c, hc, hassigns⟩, v, hv⟩ | ⟨-, hsame⟩ := find?_after_cases name cs
  · have hds : ∀ d ∈ ds, ¬ d.node.Assigns name := fun d hd => h c hc d hd name hassigns
    rw [find?_after_of_forall_not hds, hv, hv]
  · rw [hsame (env.after ds)]
    obtain ⟨-, w, hw⟩ | ⟨-, hsame'⟩ := find?_after_cases name ds
    · rw [hw, hw]
    · rw [hsame', hsame', hsame]

namespace Expr

variable {d e : Expr} {env : Env}

theorem env_evaluate_comm (hde : ∀ name, d.Assigns name → ¬ e.References name)
    (hed : ∀ name, e.Assigns name → ¬ d.References name)
    (hassigns : ∀ name, d.Assigns name → ¬ e.Assigns name) :
    (e.evaluate (d.evaluate env).env).env = (d.evaluate (e.evaluate env).env).env := by
  rw [env_evaluate e, env_evaluate d (e.evaluate env).env, completions_behind hde,
    completions_behind hed, env_evaluate d, env_evaluate e]
  refine Env.after_comm (fun c hc c' hc' name h h' => ?_) env
  exact hassigns name ⟨_, node_mem_nodes hc, h⟩ ⟨_, node_mem_nodes hc', h'⟩

end Expr

/-! ## Runs -/

/-- The source spells an expression that assigns the name. -/
def SourceAssigns (source name : String) : Prop :=
  ∃ tree, compile source = .ok tree ∧ tree.Assigns name

/-- The source spells an expression that assigns the name or has it as a variable. -/
def SourceMentions (source name : String) : Prop :=
  ∃ tree, compile source = .ok tree ∧ (tree.Assigns name ∨ tree.References name)

section

variable {source name : String} {tree : Expr}

theorem sourceAssigns_iff (h : compile source = .ok tree) :
    SourceAssigns source name ↔ tree.Assigns name := by
  simp [SourceAssigns, h]

theorem sourceMentions_iff (h : compile source = .ok tree) :
    SourceMentions source name ↔ tree.Assigns name ∨ tree.References name := by
  simp [SourceMentions, h]

end

/-- Two sources of which neither assigns a name that the other assigns or refers to can be run in
either order, whether or not the runs come to values: each has the same result, and the environment
behind both is the same. -/
theorem run_comm (a b : String) (env : Env)
    (hab : ∀ name, SourceAssigns a name → ¬ SourceMentions b name)
    (hba : ∀ name, SourceAssigns b name → ¬ SourceMentions a name) :
    (run a (run b env).env).result = (run a env).result ∧
      (run b (run a env).env).result = (run b env).result ∧
      (run b (run a env).env).env = (run a (run b env).env).env := by
  -- a source that does not compile leaves the environment alone, in whatever place it is run
  cases ha : compile a with
  | error error =>
    rw [run_of_compile_error ha, run_of_compile_error ha]
    exact ⟨rfl, rfl, rfl⟩
  | ok s =>
    cases hb : compile b with
    | error error =>
      rw [run_of_compile_error hb, run_of_compile_error hb]
      exact ⟨rfl, rfl, rfl⟩
    | ok t =>
      simp only [sourceAssigns_iff ha, sourceAssigns_iff hb, sourceMentions_iff ha,
        sourceMentions_iff hb, not_or] at hab hba
      have hst : ∀ name, s.Assigns name → ¬ t.References name := fun name hs => (hab name hs).2
      have hts : ∀ name, t.Assigns name → ¬ s.References name := fun name ht => (hba name ht).2
      simp only [run_of_compile_ok ha, run_of_compile_ok hb]
      rw [Expr.result_behind hst, Expr.result_behind hts,
        Expr.env_evaluate_comm hst hts fun name hs => (hab name hs).1]
      exact ⟨rfl, rfl, rfl⟩

/-- `x = (y = u) / z`: without a value of `z` it fails behind the assignment to `y`. -/
def Expr.assignsQuotient : Expr :=
  .assign "x" (.binary .divide (.assign "y" (.var "u")) (.var "z"))

/-- `w = u * u`. -/
def Expr.assignsSquare : Expr := .assign "w" (.binary .multiply (.var "u") (.var "u"))

theorem run_comm_assignsQuotient :
    (∀ name, SourceAssigns "x = (y = u) / z" name → ¬ SourceMentions "w = u * u" name) ∧
    (∀ name, SourceAssigns "w = u * u" name → ¬ SourceMentions "x = (y = u) / z" name) ∧
    (run "x = (y = u) / z" ∅).result = .error (.evaluating (.divisionByZero .zero .zero)) ∧
    (run "x = (y = u) / z" (run "w = u * u" ∅).env).result = (run "x = (y = u) / z" ∅).result ∧
    (run "w = u * u" (run "x = (y = u) / z" ∅).env).env =
      (run "x = (y = u) / z" (run "w = u * u" ∅).env).env := by
  have hquotient : compile "x = (y = u) / z" = .ok .assignsQuotient := by decide +kernel
  have hsquare : compile "w = u * u" = .ok .assignsSquare := by decide +kernel
  have hab : ∀ name, SourceAssigns "x = (y = u) / z" name →
      ¬ SourceMentions "w = u * u" name := by
    intro name ha hb
    simp only [sourceAssigns_iff hquotient, sourceMentions_iff hsquare] at ha hb
    simp [Expr.assignsQuotient, Expr.assignsSquare] at ha hb
    rcases ha with rfl | rfl <;> simp at hb
  have hba : ∀ name, SourceAssigns "w = u * u" name →
      ¬ SourceMentions "x = (y = u) / z" name := by
    intro name hb ha
    simp only [sourceAssigns_iff hsquare, sourceMentions_iff hquotient] at ha hb
    simp [Expr.assignsQuotient, Expr.assignsSquare] at ha hb
    subst hb
    simp at ha
  obtain ⟨hresult, -, henv⟩ := run_comm "x = (y = u) / z" "w = u * u" ∅ hab hba
  refine ⟨hab, hba, ?_, hresult, henv⟩
  rw [run_of_compile_ok hquotient]
  rfl

end Reckoner
