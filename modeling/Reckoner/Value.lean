import Reckoner.Numeral

/-!
# Values

The numbers of the language: the integers that fit a signed word of 64 bits.

* `Value.ofInt?_eq_some_iff`: exactly the integers in range are values.
* `Value.ofNumeral?`: the value a numeral denotes, where it denotes one.
-/

namespace Reckoner

/-- The range of a signed word of 64 bits: from minus two to the 63rd to two to the 63rd less
one. -/
def Value.InRange (n : Int) : Prop := -9223372036854775808 ≤ n ∧ n ≤ 9223372036854775807

instance (n : Int) : Decidable (Value.InRange n) :=
  inferInstanceAs (Decidable (_ ∧ _))

/-- An integer in range. -/
structure Value where
  toInt : Int
  inRange : Value.InRange toInt
  deriving DecidableEq

namespace Value

/-- The value zero, which every name has before it is assigned. -/
def zero : Value := ⟨0, by decide⟩

instance : Inhabited Value := ⟨zero⟩

/-- The integer as a value, if it is in range. -/
def ofInt? (n : Int) : Option Value :=
  if h : InRange n then some ⟨n, h⟩ else none

/-- The value that a numeral denotes. -/
def ofNumeral? (text : String) : Option Value :=
  (Numeral.read? text.toList).bind ofInt?

instance : ToString Value := ⟨fun v => String.ofList (Numeral.write v.toInt)⟩

@[ext] theorem ext {v w : Value} (h : v.toInt = w.toInt) : v = w := by
  cases v; cases w; simp_all

theorem ofInt?_eq_some_iff {n : Int} {v : Value} : ofInt? n = some v ↔ v.toInt = n := by
  unfold ofInt?
  split
  · rw [Option.some.injEq, Value.ext_iff]
    exact eq_comm
  · rename_i h
    refine ⟨by simp, fun hv => absurd (hv ▸ v.inRange) h⟩

theorem ofInt?_eq_none_iff {n : Int} : ofInt? n = none ↔ ¬ InRange n := by
  unfold ofInt?
  split <;> simp_all

@[simp] theorem ofInt?_toInt (v : Value) : ofInt? v.toInt = some v :=
  ofInt?_eq_some_iff.mpr rfl

@[simp] theorem toList_toString (v : Value) : (toString v).toList = Numeral.write v.toInt :=
  String.toList_ofList

theorem ofNumeral?_toString (v : Value) : ofNumeral? (toString v) = some v := by
  simp [ofNumeral?]

end Value

end Reckoner
