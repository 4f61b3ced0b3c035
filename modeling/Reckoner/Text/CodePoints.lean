/-!
# Sets of code points

A character class of a standard is published as closed ranges of code points in ascending
order. `CodePoints` holds such a table and `CodePoints.contains` looks a character up in it,
giving up at the first range that starts above the character.

* `CodePoints.contains_iff`: in an ascending table the look-up finds exactly the characters that
  lie in one of the ranges.
* `CodePoints.not_contains_of_apart`: two ascending tables without a common code point, found
  so by one walk along both, share no character.
-/

namespace Reckoner.Text

/-- A set of code points: closed ranges `(first, last)`. -/
structure CodePoints where
  ranges : List (Nat × Nat)

namespace CodePoints

/-- Every range is non-empty and ends before the next one starts. -/
def ascending : List (Nat × Nat) → Bool
  | [] => true
  | [r] => decide (r.1 ≤ r.2)
  | r :: s :: rest => decide (r.1 ≤ r.2) && decide (r.2 < s.1) && ascending (s :: rest)

/-- Look-up of a code point in ascending ranges. -/
def lookup (n : Nat) : List (Nat × Nat) → Bool
  | [] => false
  | r :: rest => if n < r.1 then false else if n ≤ r.2 then true else lookup n rest

/-- Whether the character belongs to the set. -/
def contains (s : CodePoints) (c : Char) : Bool :=
  lookup c.toNat s.ranges

/-- One walk along two ascending lists of ranges: whether no range of the first meets a range
of the second. -/
def apart : List (Nat × Nat) → List (Nat × Nat) → Bool
  | [], _ => true
  | _ :: _, [] => true
  | r :: rs, s :: ss =>
    if r.2 < s.1 then apart rs (s :: ss)
    else if s.2 < r.1 then apart (r :: rs) ss
    else false
  termination_by rs ss => rs.length + ss.length

/-! ## The look-up finds the members -/

theorem ascending_tail {r : Nat × Nat} {rest : List (Nat × Nat)}
    (h : ascending (r :: rest) = true) : ascending rest = true := by
  cases rest with
  | nil => rfl
  | cons s rest => simp only [ascending, Bool.and_eq_true] at h; exact h.2

theorem le_of_ascending {r : Nat × Nat} {rest : List (Nat × Nat)}
    (h : ascending (r :: rest) = true) : r.1 ≤ r.2 := by
  cases rest with
  | nil => simpa [ascending] using h
  | cons s rest => simp only [ascending, Bool.and_eq_true, decide_eq_true_eq] at h; exact h.1.1

theorem lt_of_ascending {r : Nat × Nat} {rest : List (Nat × Nat)}
    (h : ascending (r :: rest) = true) : ∀ s ∈ rest, r.2 < s.1 := by
  induction rest generalizing r with
  | nil => simp
  | cons t rest ih =>
    have ht := ascending_tail h
    simp only [ascending, Bool.and_eq_true, decide_eq_true_eq] at h
    have htt := le_of_ascending ht
    intro s hs
    rcases List.mem_cons.mp hs with rfl | hs
    · exact h.1.2
    · have := ih ht s hs
      omega

theorem lookup_iff {n : Nat} {ranges : List (Nat × Nat)} (h : ascending ranges = true) :
    lookup n ranges = true ↔ ∃ r ∈ ranges, r.1 ≤ n ∧ n ≤ r.2 := by
  induction ranges with
  | nil => simp [lookup]
  | cons r rest ih =>
    have hlt := lt_of_ascending h
    have hr := le_of_ascending h
    simp only [lookup, List.mem_cons, exists_eq_or_imp]
    split
    · refine ⟨by simp, fun hx => ?_⟩
      rcases hx with ⟨_, _⟩ | ⟨s, hs, h1, _⟩
      · omega
      · have := hlt s hs
        omega
    · split
      · refine ⟨fun _ => Or.inl ⟨by omega, by omega⟩, fun _ => rfl⟩
      · rw [ih (ascending_tail h)]
        refine ⟨Or.inr, fun hx => hx.resolve_left fun hx => by omega⟩

theorem contains_iff {s : CodePoints} (h : ascending s.ranges = true) (c : Char) :
    s.contains c = true ↔ ∃ r ∈ s.ranges, r.1 ≤ c.toNat ∧ c.toNat ≤ r.2 :=
  lookup_iff h

theorem lookup_eq_false_of_apart {rs ss : List (Nat × Nat)} (hr : ascending rs = true)
    (hs : ascending ss = true) (h : apart rs ss = true) {n : Nat} (hn : lookup n rs = true) :
    lookup n ss = false := by
  fun_induction apart rs ss with
  | case1 => simp [lookup] at hn
  | case2 => rfl
  | case3 r rs s ss hlt ih =>
    by_cases hle : n ≤ r.2
    · rw [lookup, if_pos (by omega)]
    · refine ih (ascending_tail hr) hs h ?_
      rw [lookup] at hn
      split at hn
      · simp at hn
      · exact hn
  | case4 r rs s ss _ hlt ih =>
    have hrn : r.1 ≤ n := by
      rw [lookup] at hn
      split at hn
      · simp at hn
      · omega
    have hss := le_of_ascending hs
    rw [lookup, if_neg (by omega), if_neg (by omega)]
    exact ih hr (ascending_tail hs) h hn
  | case5 => simp at h

theorem not_contains_of_apart {s t : CodePoints} (hs : ascending s.ranges = true)
    (ht : ascending t.ranges = true) (h : apart s.ranges t.ranges = true) {c : Char}
    (hc : s.contains c = true) : t.contains c = false :=
  lookup_eq_false_of_apart hs ht h hc

end CodePoints

end Reckoner.Text
