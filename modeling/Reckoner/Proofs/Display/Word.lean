import Reckoner.Proofs.Scan.Cut
import Reckoner.Value

/-!
# Words in texts

The texts of expressions and of environments are words with marks between them. A word is a name or
a number with its sign: a run of word characters and minus signs, which every mark ends. Where a
text begins with a word is therefore decided by the text.

* `Display.IsWord.append_inj`: a text that begins with a word determines it and what is behind it.
* `Display.isWord_of_matches`, `Display.isWord_write`: names and numbers are words.
* `Display.not_matches_write`: no name is a number.
-/

namespace Reckoner

namespace Display

open Text Token.Pattern

/-- Whether the character can stand in a name or a number. -/
def inWord (c : Char) : Bool := isWord c || c == '-'

/-- The text is nothing but such characters. -/
def IsWord (cs : List Char) : Prop := ∀ c ∈ cs, inWord c = true

/-- The text goes on with no such character. -/
def Ends (cs : List Char) : Prop := ∀ c ∈ cs.head?, inWord c = false

/-- The marks that stand behind words. -/
def marks : List Char := ['(', ')', ',', ':', '\x7d']

variable {as bs cs r s : List Char}

theorem ends_cons {c : Char} (h : c ∈ marks) (cs : List Char) : Ends (c :: cs) := by
  rintro _ ⟨⟩
  simp only [marks, List.mem_cons, List.not_mem_nil, or_false] at h
  rcases h with rfl | rfl | rfl | rfl | rfl <;> decide +kernel

theorem takeWhile_append (hcs : IsWord cs) (hr : Ends r) : (cs ++ r).takeWhile inWord = cs := by
  rw [List.takeWhile_append_of_pos hcs]
  cases r with
  | nil => simp
  | cons c r => simp [hr c rfl]

/-- A text that begins with a word determines the word and what is behind it. -/
theorem IsWord.append_inj (ha : IsWord as) (hb : IsWord bs) (hr : Ends r) (hs : Ends s)
    (h : as ++ r = bs ++ s) : as = bs ∧ r = s := by
  have hword : as = bs := by
    rw [← takeWhile_append ha hr, h, takeWhile_append hb hs]
  subst hword
  exact ⟨rfl, List.append_cancel_left h⟩

/-- The same where two characters stand behind the word, the first of them a mark. -/
theorem IsWord.append_mark_inj {c d : Char} (hc : c ∈ marks) (ha : IsWord as) (hb : IsWord bs)
    (h : as ++ c :: d :: r = bs ++ c :: d :: s) : as = bs ∧ r = s := by
  obtain ⟨hword, hrest⟩ := ha.append_inj hb (ends_cons hc _) (ends_cons hc _) h
  exact ⟨hword, List.tail_eq_of_cons_eq (List.tail_eq_of_cons_eq hrest)⟩

theorem isWord_of_matches (h : identifier.Matches cs) : IsWord cs := by
  cases cs with
  | nil => exact absurd h id
  | cons c cs =>
    intro d hd
    have hword : isWord d = true := by
      obtain rfl | hd := List.mem_cons.mp hd
      · exact isWord_of_isNameStart h.1
      · exact h.2 d hd
    simp [inWord, hword]

/-- A number is written in digits, behind a minus sign if it is negative. -/
theorem mem_write {n : Int} {c : Char} (h : c ∈ Numeral.write n) : c.isDigit = true ∨ c = '-' := by
  have hdigit : ∀ {k : Nat}, c ∈ Nat.toDigits 10 k → c.isDigit = true :=
    fun h => Nat.isDigit_of_mem_toDigits (by decide) (by decide) h
  cases n with
  | ofNat k => exact Or.inl (hdigit h)
  | negSucc k =>
    obtain rfl | h := List.mem_cons.mp h
    · exact Or.inr rfl
    · exact Or.inl (hdigit h)

theorem isWord_write (n : Int) : IsWord (Numeral.write n) := by
  intro c hc
  obtain hdigit | rfl := mem_write hc
  · simp [inWord, isWord_of_isDigit hdigit]
  · simp [inWord]

/-- No name is a number. -/
theorem not_matches_write (n : Int) : ¬ identifier.Matches (Numeral.write n) := by
  intro h
  cases hwrite : Numeral.write n with
  | nil => exact h.ne_nil hwrite
  | cons c cs =>
    rw [hwrite] at h
    have hstart : isNameStart c = true := h.1
    obtain hdigit | rfl := mem_write (hwrite ▸ List.mem_cons_self ..)
    · rw [isDigit_eq_false_of_isNameStart hstart] at hdigit
      cases hdigit
    · exact absurd hstart (by decide)

end Display

namespace Value

theorem isWord_toString (v : Value) : Display.IsWord (toString v).toList := by
  rw [toList_toString]
  exact Display.isWord_write _

theorem not_matches_toString (v : Value) :
    ¬ Token.Pattern.identifier.Matches (toString v).toList := by
  rw [toList_toString]
  exact Display.not_matches_write _

theorem toString_injective {v w : Value} (h : toString v = toString w) : v = w := by
  have hwritten := congrArg String.toList h
  rw [toList_toString, toList_toString] at hwritten
  exact Value.ext (Numeral.write_injective hwritten)

end Value

end Reckoner
