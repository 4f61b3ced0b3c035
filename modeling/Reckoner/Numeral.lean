/-!
# Decimal numerals

A numeral is an optional single sign and one or more ASCII digits. Reading refuses everything
else: separators, blanks, a lone sign and digits of other scripts.

* `Numeral.read?_write`: a written number reads back.
* `Numeral.write_injective`: different numbers are written differently.
-/

namespace Reckoner.Numeral

/-- The number a non-empty run of ASCII digits denotes. -/
def digits? (cs : List Char) : Option Nat :=
  if cs ≠ [] ∧ cs.all Char.isDigit then some (Nat.ofDigitChars 10 cs 0) else none

/-- The number a signed or unsigned numeral denotes. -/
def read? : List Char → Option Int
  | '-' :: cs => (digits? cs).map fun n : Nat => -(n : Int)
  | '+' :: cs => (digits? cs).map fun n : Nat => (n : Int)
  | cs => (digits? cs).map fun n : Nat => (n : Int)

/-- The shortest numeral of a number: a minus sign where one is needed, and the digits. -/
def write : Int → List Char
  | .ofNat n => Nat.toDigits 10 n
  | .negSucc n => '-' :: Nat.toDigits 10 (n + 1)

theorem digits?_toDigits (n : Nat) : digits? (Nat.toDigits 10 n) = some n := by
  rw [digits?, if_pos, Nat.ofDigitChars_ten_toDigits]
  refine ⟨Nat.toDigits_ne_nil, List.all_eq_true.mpr fun c hc => ?_⟩
  exact Nat.isDigit_of_mem_toDigits (by decide) (by decide) hc

theorem read?_of_isDigit {c : Char} {cs : List Char} (h : c.isDigit = true) :
    read? (c :: cs) = (digits? (c :: cs)).map fun n : Nat => (n : Int) := by
  unfold read?
  split
  · rename_i heq
    simp only [List.cons.injEq] at heq
    rw [heq.1] at h
    exact absurd h (by decide)
  · rename_i heq
    simp only [List.cons.injEq] at heq
    rw [heq.1] at h
    exact absurd h (by decide)
  · rfl

@[simp] theorem read?_write (n : Int) : read? (write n) = some n := by
  cases n with
  | ofNat n =>
    have hd : digits? (Nat.toDigits 10 n) = some n := digits?_toDigits n
    cases hc : Nat.toDigits 10 n with
    | nil => exact absurd hc Nat.toDigits_ne_nil
    | cons c cs =>
      have hmem : c ∈ Nat.toDigits 10 n := hc ▸ List.mem_cons_self ..
      have : c.isDigit = true := Nat.isDigit_of_mem_toDigits (by decide) (by decide) hmem
      rw [write, hc, read?_of_isDigit this, ← hc, hd]
      rfl
  | negSucc n =>
    rw [write, read?, digits?_toDigits]
    rfl

theorem write_injective {m n : Int} (h : write m = write n) : m = n := by
  have := congrArg read? h
  simpa using this

end Reckoner.Numeral
