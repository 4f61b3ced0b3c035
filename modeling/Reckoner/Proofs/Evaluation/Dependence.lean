import Reckoner.Proofs.Evaluation.Completion

/-!
# What evaluation depends on

A name is exposed in an expression if it is read before anything is assigned to it: some variable
of the name has no assignment to it earlier in postorder. Evaluation depends on the values of the
exposed names and on nothing else in its environment. From environments in which these read the
same, it completes the same nodes with the same values, so that its result and all that it assigns
are the same.

* `Expr.Evaluates.congr`: the two evaluations, by induction over the rules.
* `evaluate_congr`: the same result and the same assigned values, and that nothing tells a name
  bound to zero from one that is not bound.
-/

namespace Reckoner

namespace Expr

/-! ## Exposed names -/

/-- Some variable of the name stands in the list without an assignment to the name before it. -/
def ExposedIn (nodes : List Node) (name : String) : Prop :=
  ∃ before n after, nodes = before ++ n :: after ∧ n.expr = var name ∧
    ∀ m ∈ before, ¬ m.Assigns name

/-- Some variable of the name has no assignment to the name before it in postorder. -/
def Exposes (e : Expr) (name : String) : Prop := ExposedIn e.nodes name

namespace ExposedIn

variable {ns : List Node} {name : String}

theorem cons_iff {n : Node} :
    ExposedIn (n :: ns) name ↔ n.expr = var name ∨ ¬ n.Assigns name ∧ ExposedIn ns name := by
  constructor
  · rintro ⟨_ | ⟨m, before⟩, k, after, hsplit, hexpr, hbefore⟩
    · obtain ⟨rfl, -⟩ := List.cons.inj hsplit
      exact Or.inl hexpr
    · obtain ⟨rfl, hrest⟩ := List.cons.inj hsplit
      rw [List.forall_mem_cons] at hbefore
      exact Or.inr ⟨hbefore.1, before, k, after, hrest, hexpr, hbefore.2⟩
  · rintro (hexpr | ⟨hassigns, before, k, after, rfl, hexpr, hbefore⟩)
    · exact ⟨[], n, ns, rfl, hexpr, by simp⟩
    · exact ⟨n :: before, k, after, rfl, hexpr, List.forall_mem_cons.mpr ⟨hassigns, hbefore⟩⟩

instance decidable (name : String) : (ns : List Node) → Decidable (ExposedIn ns name)
  | [] => isFalse (by simp [ExposedIn])
  | _ :: ns =>
    have := decidable name ns
    decidable_of_iff' _ cons_iff

theorem map_under (side : Side) (h : ExposedIn ns name) :
    ExposedIn (ns.map (.under side)) name := by
  obtain ⟨before, n, after, rfl, hexpr, hbefore⟩ := h
  refine ⟨before.map (.under side), n.under side, after.map (.under side), by simp, hexpr, ?_⟩
  rw [List.forall_mem_map]
  exact hbefore

theorem append_right (ms : List Node) (h : ExposedIn ns name) : ExposedIn (ns ++ ms) name := by
  obtain ⟨before, n, after, rfl, hexpr, hbefore⟩ := h
  exact ⟨before, n, after ++ ms, by simp, hexpr, hbefore⟩

theorem append_left {ms : List Node} (hms : ∀ m ∈ ms, ¬ m.Assigns name) (h : ExposedIn ns name) :
    ExposedIn (ms ++ ns) name := by
  obtain ⟨before, n, after, rfl, hexpr, hbefore⟩ := h
  refine ⟨ms ++ before, n, after, by simp, hexpr, fun m hm => ?_⟩
  obtain hm | hm := List.mem_append.mp hm
  · exact hms m hm
  · exact hbefore m hm

end ExposedIn

instance (e : Expr) (name : String) : Decidable (e.Exposes name) :=
  inferInstanceAs (Decidable (ExposedIn e.nodes name))

variable {name other : String} {op : Operator} {value left right : Expr}

theorem exposes_var (name : String) : (var name).Exposes name :=
  ⟨[], (var name).root, [], rfl, rfl, by simp⟩

theorem exposes_assign (h : value.Exposes name) : (assign other value).Exposes name :=
  (h.map_under .value).append_right _

theorem exposes_left (h : left.Exposes name) : (binary op left right).Exposes name :=
  ((h.map_under .left).append_right _).append_right _

theorem exposes_right (hleft : ∀ n ∈ left.nodes, ¬ n.Assigns name) (h : right.Exposes name) :
    (binary op left right).Exposes name := by
  refine ((h.map_under .right).append_left ?_).append_right _
  rw [List.forall_mem_map]
  exact hleft

end Expr

/-! ## Two evaluations -/

namespace Env

variable {env₁ env₂ : Env} {name : String} {cs : List Completion}

/-- A name that is not bound reads as one that is bound to zero. -/
theorem get_assign_zero {env : Env} (h : env.find? name = none) (other : String) :
    (env.assign name .zero).get other = env.get other := by
  rw [get_assign]
  split
  · rename_i heq
    rw [heq, get, h]
    rfl
  · rfl

/-- Behind the same completions a name reads the same if it did before, or if one of them assigns
it. -/
theorem get_after_congr
    (h : (∀ c ∈ cs, ¬ c.node.Assigns name) → env₁.get name = env₂.get name) :
    (env₁.after cs).get name = (env₂.after cs).get name := by
  obtain ⟨-, v, hv⟩ | ⟨hnone, hsame⟩ := find?_after_cases name cs
  · rw [get, get, hv, hv]
  · rw [get, get, hsame, hsame]
    exact h hnone

end Env

namespace Expr.Evaluates

/-- Behind a left operand that came to a value, the names exposed in the right operand read the
same: what the left one assigns is the same, and the others are exposed in the whole. -/
theorem agree_right {op : Operator} {left right : Expr} {env₁ env₁' env₂ env₂' : Env} {l : Value}
    {cs : List Completion} (h₁ : left.Evaluates env₁ (.ok l) env₁' cs)
    (h₂ : left.Evaluates env₂ (.ok l) env₂' cs)
    (hagree : ∀ name, (Expr.binary op left right).Exposes name → env₁.get name = env₂.get name) :
    ∀ name, right.Exposes name → env₁'.get name = env₂'.get name := by
  intro name hname
  rw [h₁.env_eq, h₂.env_eq]
  refine Env.get_after_congr fun hcs => hagree name (exposes_right ?_ hname)
  rw [← h₁.map_node_of_ok rfl, List.forall_mem_map]
  exact hcs

/-- From environments in which the exposed names read the same, evaluation has the same result and
the same completions. -/
theorem congr {e : Expr} {env₁ env₁' env₂ : Env} {result : Except ArithmeticError Value}
    {cs : List Completion} (h : e.Evaluates env₁ result env₁' cs)
    (hagree : ∀ name, e.Exposes name → env₁.get name = env₂.get name) :
    ∃ env₂', e.Evaluates env₂ result env₂' cs := by
  induction h generalizing env₂ with
  | literal value => exact ⟨env₂, .literal value env₂⟩
  | var name =>
    rw [hagree name (exposes_var name)]
    exact ⟨env₂, .var name env₂⟩
  | assign name _ ih =>
    obtain ⟨_, h⟩ := ih fun other h => hagree other (exposes_assign h)
    exact ⟨_, .assign name h⟩
  | assign_error name _ ih =>
    obtain ⟨_, h⟩ := ih fun other h => hagree other (exposes_assign h)
    exact ⟨_, .assign_error name h⟩
  | left_error op right _ ih =>
    obtain ⟨_, h⟩ := ih fun other h => hagree other (exposes_left h)
    exact ⟨_, .left_error op right h⟩
  | right_error op hl _ ihl ihr =>
    -- agreement is carried to where the right operand begins
    obtain ⟨_, hl₂⟩ := ihl fun other h => hagree other (exposes_left h)
    obtain ⟨_, hr₂⟩ := ihr (hl.agree_right hl₂ hagree)
    exact ⟨_, .right_error op hl₂ hr₂⟩
  | apply_error hl _ happly ihl ihr =>
    obtain ⟨_, hl₂⟩ := ihl fun other h => hagree other (exposes_left h)
    obtain ⟨_, hr₂⟩ := ihr (hl.agree_right hl₂ hagree)
    exact ⟨_, .apply_error hl₂ hr₂ happly⟩
  | binary hl _ happly ihl ihr =>
    obtain ⟨_, hl₂⟩ := ihl fun other h => hagree other (exposes_left h)
    obtain ⟨_, hr₂⟩ := ihr (hl.agree_right hl₂ hagree)
    exact ⟨_, .binary hl₂ hr₂ happly⟩

end Expr.Evaluates

namespace Expr

variable {e : Expr} {env₁ env₂ : Env}

theorem result_congr (h : ∀ name, e.Exposes name → env₁.get name = env₂.get name) :
    (e.evaluate env₁).result = (e.evaluate env₂).result := by
  obtain ⟨env₂', h₂⟩ := (e.evaluates env₁).congr h
  rw [h₂.evaluate_eq]

theorem completions_congr (h : ∀ name, e.Exposes name → env₁.get name = env₂.get name) :
    e.completions env₁ = e.completions env₂ := by
  obtain ⟨env₂', h₂⟩ := (e.evaluates env₁).congr h
  rw [h₂.completions_eq]

end Expr

/-- From two environments in which the exposed names of an expression read the same, its evaluation
has the same result, and assigns the same names and leaves them with the same values. So nothing
tells a name bound to zero from one that is not bound: the result is the same, and behind the
evaluation all names read the same again. -/
theorem evaluate_congr (e : Expr) :
    (∀ env₁ env₂ : Env, (∀ name, e.Exposes name → env₁.get name = env₂.get name) →
      (e.evaluate env₁).result = (e.evaluate env₂).result ∧
      ∀ name,
        ((∃ c ∈ e.completions env₁, c.node.Assigns name) ↔
          ∃ c ∈ e.completions env₂, c.node.Assigns name) ∧
        ((∃ c ∈ e.completions env₁, c.node.Assigns name) →
          ∃ v, (e.evaluate env₁).env.find? name = some v ∧
            (e.evaluate env₂).env.find? name = some v)) ∧
    ∀ (env : Env) (name : String), env.find? name = none →
      (e.evaluate (env.assign name .zero)).result = (e.evaluate env).result ∧
      ∀ other, (e.evaluate (env.assign name .zero)).env.get other =
        (e.evaluate env).env.get other := by
  refine ⟨fun env₁ env₂ h => ⟨Expr.result_congr h, fun name => ?_⟩, fun env name hname => ?_⟩
  · rw [e.env_evaluate, e.env_evaluate, Expr.completions_congr h]
    refine ⟨Iff.rfl, fun ⟨c, hc, hassigns⟩ => ?_⟩
    obtain ⟨-, v, hv⟩ | ⟨hnone, -⟩ := Env.find?_after_cases name (e.completions env₂)
    · exact ⟨v, hv env₁, hv env₂⟩
    · exact absurd hassigns (hnone c hc)
  · have hsame := Env.get_assign_zero hname
    refine ⟨Expr.result_congr fun other _ => hsame other, fun other => ?_⟩
    rw [e.env_evaluate, e.env_evaluate, Expr.completions_congr fun other _ => hsame other]
    exact Env.get_after_congr fun _ => hsame other

/-- `(x = y + 1) * (x - z)`: `x` is read behind its assignment only. -/
def Expr.readsBehind : Expr :=
  .binary .multiply (.assign "x" (.binary .add (.var "y") (.literal ⟨1, by decide⟩)))
    (.binary .subtract (.var "x") (.var "z"))

/-- Different values of `x`, and a `y` that is bound to zero or not at all, make no difference. -/
theorem evaluate_congr_readsBehind :
    (∀ name, Expr.readsBehind.Exposes name →
      (Env.assign ∅ "x" ⟨6, by decide⟩).get name = (Env.assign ∅ "y" .zero).get name) ∧
    (Expr.readsBehind.evaluate (Env.assign ∅ "x" ⟨6, by decide⟩)).result =
      (Expr.readsBehind.evaluate (Env.assign ∅ "y" .zero)).result ∧
    (∃ v, (Expr.readsBehind.evaluate (Env.assign ∅ "x" ⟨6, by decide⟩)).env.find? "x" = some v ∧
      (Expr.readsBehind.evaluate (Env.assign ∅ "y" .zero)).env.find? "x" = some v) ∧
    (∅ : Env).find? "y" = none ∧
    (Expr.readsBehind.evaluate (Env.assign ∅ "y" .zero)).result =
      (Expr.readsBehind.evaluate ∅).result := by
  have hagree : ∀ name, Expr.readsBehind.Exposes name →
      (Env.assign ∅ "x" ⟨6, by decide⟩).get name = (Env.assign ∅ "y" .zero).get name := by
    intro name hname
    have hx : name ≠ "x" := by
      rintro rfl
      exact absurd hname (by decide)
    rw [Env.get_assign, Env.get_assign, if_neg hx]
    split <;> rfl
  obtain ⟨hcongr, hzero⟩ := evaluate_congr Expr.readsBehind
  obtain ⟨hresult, hassigned⟩ := hcongr _ _ hagree
  exact ⟨hagree, hresult, (hassigned "x").2 (by decide), rfl, (hzero ∅ "y" rfl).1⟩

end Reckoner
