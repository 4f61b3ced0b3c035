import Reckoner.Env
import Mathlib.Data.Finset.Card

/-!
# Environments by what was written to them

An environment that begins with some entries and goes on through assignments has been written to,
entry by entry and assignment by assignment. It holds the last value written to each name and
nothing else, and it holds this in one way only: the order of writes to different names leaves no
trace.

* `Env.lastWrite?`: the last value that some writes bring to a name.
* `Env.find?_built`: what is held of a name.
* `env_built_by_writes`: look-up, listing, size and equality of environments in terms of what was
  written to them.
-/

namespace Reckoner

namespace Env

/-- The writes to a name, in their order. -/
def writesTo (name : String) (ws : List (String × Value)) : List (String × Value) :=
  ws.filter fun w => w.1 = name

/-- The last value written to a name. -/
def lastWrite? (ws : List (String × Value)) (name : String) : Option Value :=
  (writesTo name ws).getLast?.map Prod.snd

/-- The names written to. -/
def writtenNames (ws : List (String × Value)) : Finset String := (ws.map Prod.fst).toFinset

/-- The environment that begins with some entries and goes on through some assignments. -/
def built (entries assignments : List (String × Value)) : Env :=
  assignments.foldl (fun env w => env.assign w.1 w.2) (Bindings.ofList entries)

variable {ws vs : List (String × Value)} {name : String} {value : Value}

/-! ## The last write -/

theorem mem_writtenNames_iff : name ∈ writtenNames ws ↔ ∃ w ∈ ws, w.1 = name := by
  rw [writtenNames, List.mem_toFinset, List.mem_map]

theorem lastWrite?_eq_none_iff : lastWrite? ws name = none ↔ name ∉ writtenNames ws := by
  rw [lastWrite?, Option.map_eq_none_iff, List.getLast?_eq_none_iff, writesTo,
    List.filter_eq_nil_iff, mem_writtenNames_iff]
  simp only [decide_eq_true_eq, not_exists, not_and]

/-- The last values agree everywhere if the names written to agree, and the values at these. -/
theorem forall_lastWrite?_eq_iff :
    (∀ name, lastWrite? ws name = lastWrite? vs name) ↔
      writtenNames ws = writtenNames vs ∧
        ∀ name ∈ writtenNames ws, lastWrite? ws name = lastWrite? vs name := by
  constructor
  · intro h
    refine ⟨?_, fun name _ => h name⟩
    ext name
    rw [← not_iff_not, ← lastWrite?_eq_none_iff, ← lastWrite?_eq_none_iff, h]
  · rintro ⟨hnames, h⟩ name
    by_cases hname : name ∈ writtenNames ws
    · exact h name hname
    · rw [lastWrite?_eq_none_iff.mpr hname, lastWrite?_eq_none_iff.mpr (hnames ▸ hname)]

theorem lastWrite?_concat (ws : List (String × Value)) (w : String × Value) (name : String) :
    lastWrite? (ws ++ [w]) name = if name = w.1 then some w.2 else lastWrite? ws name := by
  rw [lastWrite?, writesTo, List.filter_append]
  by_cases h : w.1 = name
  · simp [h]
  · simp [h, Ne.symm h, lastWrite?, writesTo]

/-! ## What is held -/

/-- Assignments go on where the entries end. -/
theorem built_eq (entries assignments : List (String × Value)) :
    built entries assignments =
      (entries ++ assignments).foldl (fun env w => env.assign w.1 w.2) ∅ :=
  List.foldl_append.symm

theorem find?_foldl_assign (ws : List (String × Value)) (name : String) :
    (ws.foldl (fun env w => env.assign w.1 w.2) (∅ : Env)).find? name = lastWrite? ws name := by
  -- the last write decides, so the writes are taken from the back
  induction ws using List.reverseRecOn with
  | nil => rfl
  | append_singleton ws w ih =>
    rw [List.foldl_concat, assign, Bindings.find?_insert, ih, lastWrite?_concat]

/-- The environment holds the last value written to a name. -/
theorem find?_built (entries assignments : List (String × Value)) (name : String) :
    (built entries assignments).find? name = lastWrite? (entries ++ assignments) name := by
  rw [built_eq, find?_foldl_assign]

/-- What is held of the names determines the environment. -/
theorem built_eq_built_iff {entries assignments entries' assignments' : List (String × Value)} :
    built entries assignments = built entries' assignments' ↔
      ∀ name, lastWrite? (entries ++ assignments) name =
        lastWrite? (entries' ++ assignments') name := by
  constructor
  · intro h name
    rw [← find?_built, h, find?_built]
  · intro h
    refine Bindings.ext_find? fun name => ?_
    rw [find?_built, find?_built, h]

/-! ## Listing -/

theorem mem_toList_built_iff {entries assignments : List (String × Value)} :
    (name, value) ∈ (built entries assignments).toList ↔
      lastWrite? (entries ++ assignments) name = some value := by
  rw [Bindings.mem_toList_iff, find?_built]

/-- The names in ascending order are in ascending order of their code points. -/
theorem pairwise_codePoints (env : Env) :
    env.toList.Pairwise fun d e => d.1.toList.map Char.toNat < e.1.toList.map Char.toNat :=
  env.ascending.imp fun h =>
    List.map_lt (f := Char.toNat) (fun _ _ hlt => UInt32.lt_iff_toNat_lt.mp hlt) h

theorem toFinset_names_built (entries assignments : List (String × Value)) :
    ((built entries assignments).toList.map Prod.fst).toFinset =
      writtenNames (entries ++ assignments) := by
  ext name
  rw [List.mem_toFinset, List.mem_map, ← not_iff_not, ← lastWrite?_eq_none_iff,
    Option.eq_none_iff_forall_ne_some]
  constructor
  · intro h value hvalue
    exact h ⟨(name, value), mem_toList_built_iff.mpr hvalue, rfl⟩
  · rintro h ⟨⟨_, value⟩, hmem, rfl⟩
    exact h value (mem_toList_built_iff.mp hmem)

theorem nodup_names (env : Env) : (env.toList.map Prod.fst).Nodup :=
  List.pairwise_map.mpr (env.ascending.imp String.ne_of_lt)

theorem size_built (entries assignments : List (String × Value)) :
    (built entries assignments).size = (writtenNames (entries ++ assignments)).card := by
  rw [← toFinset_names_built, List.toFinset_card_of_nodup (nodup_names _), List.length_map]
  rfl

theorem isEmpty_built_iff {entries assignments : List (String × Value)} :
    (built entries assignments).isEmpty = true ↔ entries ++ assignments = [] := by
  rw [Bindings.isEmpty, List.isEmpty_iff_length_eq_zero]
  change (built entries assignments).size = 0 ↔ _
  rw [size_built, Finset.card_eq_zero, writtenNames, List.toFinset_eq_empty_iff,
    List.map_eq_nil_iff]

end Env

open Env in
/-- An environment that begins with some entries and goes on through some assignments reads the last
value written to each name, and zero where nothing was written. It lists the names written to, each
once and with this value, in ascending order of their code points; their number is its size, and it
is empty exactly if nothing was written. Two such environments are equal exactly if the same names
were written to and the last values are the same. So they and their texts are the same where the
writes differ in the order of different names only, also across the first entries and the
assignments behind them. -/
theorem env_built_by_writes (entries assignments : List (String × Value)) :
    (∀ name, (built entries assignments).get name =
      (lastWrite? (entries ++ assignments) name).getD .zero) ∧
    ((built entries assignments).toList.Pairwise fun d e =>
      d.1.toList.map Char.toNat < e.1.toList.map Char.toNat) ∧
    ((built entries assignments).toList.map Prod.fst).toFinset =
      writtenNames (entries ++ assignments) ∧
    (∀ name value, (name, value) ∈ (built entries assignments).toList ↔
      lastWrite? (entries ++ assignments) name = some value) ∧
    (built entries assignments).size = (writtenNames (entries ++ assignments)).card ∧
    ((built entries assignments).isEmpty = true ↔ entries ++ assignments = []) ∧
    ∀ entries' assignments' : List (String × Value),
      (built entries assignments = built entries' assignments' ↔
        writtenNames (entries ++ assignments) = writtenNames (entries' ++ assignments') ∧
        ∀ name ∈ writtenNames (entries ++ assignments),
          lastWrite? (entries ++ assignments) name =
            lastWrite? (entries' ++ assignments') name) ∧
      ((∀ name, writesTo name (entries ++ assignments) =
          writesTo name (entries' ++ assignments')) →
        built entries assignments = built entries' assignments' ∧
        toString (built entries assignments) = toString (built entries' assignments')) := by
  refine ⟨fun name => ?_, pairwise_codePoints _, toFinset_names_built .., fun name value =>
    mem_toList_built_iff, size_built .., isEmpty_built_iff, fun entries' assignments' =>
    ⟨built_eq_built_iff.trans forall_lastWrite?_eq_iff, fun hwrites => ?_⟩⟩
  · rw [Env.get, find?_built]
  · have heq : built entries assignments = built entries' assignments' :=
      built_eq_built_iff.mpr fun name => by rw [lastWrite?, hwrites, lastWrite?]
    exact ⟨heq, congrArg toString heq⟩

/-- Two writes to `y`, and one to `x` between them. -/
def writesBetween : List (String × Value) :=
  [("y", ⟨21, by decide⟩), ("x", ⟨22, by decide⟩), ("y", ⟨23, by decide⟩)]

/-- The same with the write to `x` in front. -/
def writesInFront : List (String × Value) :=
  [("x", ⟨22, by decide⟩), ("y", ⟨21, by decide⟩), ("y", ⟨23, by decide⟩)]

theorem env_built_by_writes_inFront :
    (∀ name, Env.writesTo name ([] ++ writesBetween) = Env.writesTo name (writesInFront ++ [])) ∧
      Env.built [] writesBetween = Env.built writesInFront [] ∧
      (Env.built [] writesBetween).get "y" = ⟨23, by decide⟩ ∧
      (Env.built [] writesBetween).size = 2 := by
  obtain ⟨hget, -, -, -, hsize, -, hbuilt⟩ := env_built_by_writes [] writesBetween
  have hwrites (name : String) :
      Env.writesTo name ([] ++ writesBetween) = Env.writesTo name (writesInFront ++ []) := by
    by_cases hx : "x" = name
    · subst hx
      rfl
    · simp [Env.writesTo, writesBetween, writesInFront, List.filter_cons, hx]
  exact ⟨hwrites, ((hbuilt writesInFront []).2 hwrites).1, hget "y", hsize⟩

end Reckoner
