import Reckoner.Bindings
import Reckoner.Value

/-!
# Environments

An environment binds names to values. A name without a binding reads as zero.

* `Env.get_assign`: an assignment changes one name.
-/

namespace Reckoner

/-- A table of variables. -/
abbrev Env := Bindings Value

namespace Env

/-- The value of a name: zero unless it was assigned. -/
def get (env : Env) (name : String) : Value :=
  (env.find? name).getD .zero

/-- The environment after an assignment. -/
def assign (env : Env) (name : String) (value : Value) : Env :=
  env.insert name value

/-- The text of an environment: its entries in order, in braces. -/
def text (env : Env) : String :=
  "\x7b" ++ ", ".intercalate (env.toList.map fun e => e.1 ++ ": " ++ toString e.2) ++ "\x7d"

instance : ToString Env := ⟨text⟩

theorem get_assign (env : Env) (name other : String) (value : Value) :
    (env.assign name value).get other = if other = name then value else env.get other := by
  simp only [get, assign, Bindings.find?_insert]
  split <;> rfl

end Env

end Reckoner
