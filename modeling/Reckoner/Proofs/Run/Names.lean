import Reckoner.Proofs.Display.Environment
import Reckoner.Proofs.Display.Tree
import Reckoner.Proofs.Run.Commutation
import Reckoner.Proofs.Run.Events

/-!
# The names in environments

What the scanner reads as a name is all that a source can assign to. So runs, however they end,
bring no other names into an environment, and an environment that runs have reached can be told
from every other by its text.

* `Expr.Named.named_evaluate`, `named_run`: evaluations and runs keep to names of the language.
* `environments_named`: so does every environment that a sequence of runs reaches, and among such
  environments the text determines the environment.
-/

namespace Reckoner

open Token.Pattern

namespace Expr

variable {e : Expr} {env : Env} {name : String}

theorem Named.matches_of_assigns (h : e.Named) (hassigns : e.Assigns name) :
    identifier.Matches name.toList := by
  induction e with
  | literal => exact absurd hassigns not_assigns_literal
  | var => exact absurd hassigns not_assigns_var
  | assign other value ih =>
    obtain hvalue | rfl := assigns_assign_iff.mp hassigns
    · exact ih h.2 hvalue
    · exact h.1
  | binary op left right ihl ihr =>
    obtain hleft | hright := assigns_binary_iff.mp hassigns
    · exact ihl h.1 hleft
    · exact ihr h.2 hright

/-- The names behind an evaluation are those before it and those that it assigns. -/
theorem Named.named_evaluate (h : e.Named) (henv : env.Named) : (e.evaluate env).env.Named := by
  rw [Env.named_iff] at henv ⊢
  intro name hname
  rw [env_evaluate, Env.isSome_find?_after_iff] at hname
  obtain hbefore | ⟨c, hc, hassigns⟩ := hname
  · exact henv name hbefore
  · exact h.matches_of_assigns ⟨_, node_mem_nodes hc, hassigns⟩

end Expr

/-- What a source spells has names of the language only. -/
theorem named_of_compile {source : String} {tree : Expr} (h : compile source = .ok tree) :
    tree.Named := by
  obtain ⟨tokens, hscan, hparse⟩ := compile_eq_ok_iff.mp h
  exact Expr.named_of_parseWithin hscan hparse

/-- Whatever a run comes to, it brings names of the language only. -/
theorem named_run {env : Env} (h : env.Named) (source : String) : (run source env).env.Named := by
  cases hcompile : compile source with
  | error error =>
    rw [run_of_compile_error hcompile]
    exact h
  | ok tree =>
    rw [run_of_compile_ok hcompile]
    exact (named_of_compile hcompile).named_evaluate h

/-- The environments that the runs of some sources, one behind the other, pass through: the one they
begin with and the one behind every run. -/
def Env.reached (env : Env) (sources : List String) : List Env :=
  sources.scanl (fun env source => (run source env).env) env

theorem named_of_mem_reached {env env' : Env} {sources : List String} (h : env.Named)
    (hmem : env' ∈ env.reached sources) : env'.Named := by
  induction sources generalizing env with
  | nil =>
    rw [Env.reached, List.scanl_nil] at hmem
    exact List.mem_singleton.mp hmem ▸ h
  | cons source sources ih =>
    rw [Env.reached, List.scanl_cons] at hmem
    obtain rfl | hmem := List.mem_cons.mp hmem
    · exact h
    · exact ih (named_run h source) hmem

/-- From an environment whose names are names of the language, such as the empty one, runs reach
only environments of this kind, whether they come to values or fail. Two environments of this kind
with the same text are equal. -/
theorem environments_named :
    Env.Named ∅ ∧
    (∀ (env : Env) (sources : List String), env.Named →
      ∀ env' ∈ env.reached sources, env'.Named) ∧
    ∀ s t : Env, s.Named → t.Named → toString s = toString t → s = t :=
  ⟨Env.named_empty, fun _ _ h _ hmem => named_of_mem_reached h hmem,
    fun _ _ hs ht h => Env.eq_of_text_eq hs ht h⟩

/-- A run that fails behind an assignment, and one that does not scan: what the first leaves is told
from the empty environment by its text. -/
theorem environments_named_failing :
    (run "(_a1 = 7) / 0" ∅).result =
        .error (.evaluating (.divisionByZero ⟨7, by decide⟩ .zero)) ∧
      (run "b = @" (run "(_a1 = 7) / 0" ∅).env).env.Named ∧
      toString (run "(_a1 = 7) / 0" ∅).env ≠ toString (∅ : Env) := by
  obtain ⟨hempty, hreached, htext⟩ := environments_named
  have hcompile : compile "(_a1 = 7) / 0" = .ok (.binary .divide
      (.assign "_a1" (.literal ⟨7, by decide⟩)) (.literal .zero)) := by
    decide +kernel
  have hbound : (run "(_a1 = 7) / 0" ∅).env.find? "_a1" = some ⟨7, by decide⟩ := by
    rw [run_of_compile_ok hcompile]
    rfl
  have hnamed : ∀ env ∈ Env.reached ∅ ["(_a1 = 7) / 0", "b = @"], env.Named :=
    hreached ∅ _ hempty
  refine ⟨?_, hnamed _ (by simp [Env.reached]), fun h => ?_⟩
  · rw [run_of_compile_ok hcompile]
    rfl
  · rw [htext _ ∅ (hnamed _ (by simp [Env.reached])) hempty h] at hbound
    cases hbound

end Reckoner
