import Reckoner.Location
import Mathlib.Data.List.DropRight
import Mathlib.Data.Prod.Lex

/-!
# Places in a text

The place behind a text is reached by passing its characters one by one, and found just as well by
counting: its line from the line feeds, its column from the characters behind the last of them.
Places are ordered by line and then by column, and every character passed goes up in this order.
Counting leads back: a place in a text has a number of characters in front of it.

* `Location.after_start`: passing the characters of a text comes to the place that is counted.
* `Location.lt_after`: what is passed lies in front of the place behind it.
* `Location.offsetIn_ofText`: the number of characters in front of the place behind a text.
* `Location.shift_ofText`: the places of a text that begins somewhere else.
-/

namespace Reckoner

namespace Location

/-! ## Counting -/

/-- The place behind a text: its line is counted by the line feeds, its column by the characters
behind the last of them. -/
def ofText (text : List Char) : Location :=
  ⟨1 + text.count '\n', 1 + (text.rtakeWhile (· != '\n')).length⟩

theorem ofText_concat (text : List Char) (c : Char) :
    ofText (text ++ [c]) = (ofText text).step c := by
  by_cases hc : c = '\n'
  · subst hc
    rw [step, if_pos rfl, ofText, List.rtakeWhile_concat_neg _ _ _ (by simp)]
    simp [ofText, Nat.add_assoc]
  · rw [step, if_neg hc, ofText, List.rtakeWhile_concat_pos _ _ _ (by simpa using hc)]
    simp [ofText, hc, Nat.add_assoc]

/-- Passing the characters of a text comes to the place that is counted. -/
theorem after_start (text : List Char) : start.after text = ofText text := by
  induction text using List.reverseRecOn with
  | nil => rfl
  | append_singleton text c ih => rw [after_append, ih, ofText_concat, after_cons, after_nil]

theorem after_ofText (before text : List Char) :
    (ofText before).after text = ofText (before ++ text) := by
  rw [← after_start, ← after_start, after_append]

/-! ## The order of places -/

/-- Places are ordered by line, then by column. -/
instance : LinearOrder Location :=
  LinearOrder.lift' (fun l => toLex (l.line, l.column)) fun l m h => by
    cases l
    cases m
    simpa using h

theorem lt_iff {l m : Location} :
    l < m ↔ l.line < m.line ∨ l.line = m.line ∧ l.column < m.column :=
  Prod.Lex.lt_iff

theorem lt_step (l : Location) (c : Char) : l < l.step c := by
  rw [lt_iff, step]
  split
  · exact Or.inl (Nat.lt_succ_self _)
  · exact Or.inr ⟨rfl, Nat.lt_succ_self _⟩

theorem le_after (l : Location) (text : List Char) : l ≤ l.after text := by
  induction text generalizing l with
  | nil => exact le_refl l
  | cons c text ih => exact (lt_step l c).le.trans (ih _)

theorem lt_after (l : Location) {text : List Char} (h : text ≠ []) : l < l.after text := by
  cases text with
  | nil => exact absurd rfl h
  | cons c text => exact (lt_step l c).trans_le (le_after _ text)

/-- What lies further on in a text lies at a later place. -/
theorem ofText_le_of_prefix {before more : List Char} (h : before <+: more) :
    ofText before ≤ ofText more := by
  obtain ⟨text, rfl⟩ := h
  rw [← after_ofText]
  exact le_after _ text

/-! ## Counting back -/

/-- The number of characters in so many lines of a text, with their line feeds. -/
def lengthOfLines : Nat → List Char → Nat
  | 0, _ => 0
  | _ + 1, [] => 0
  | lines + 1, c :: cs => lengthOfLines (if c = '\n' then lines else lines + 1) cs + 1

/-- The number of characters of a text in front of a place. -/
def offsetIn (l : Location) (text : List Char) : Nat :=
  lengthOfLines (l.line - 1) text + (l.column - 1)

theorem lengthOfLines_append_newline (before behind : List Char) :
    lengthOfLines (before.count '\n' + 1) (before ++ '\n' :: behind) = before.length + 1 := by
  induction before with
  | nil => simp [lengthOfLines]
  | cons c before ih =>
    by_cases hc : c = '\n'
    · simp [hc, lengthOfLines, ih]
    · simp [hc, lengthOfLines, ih]

/-- The place behind a text has the characters of the text in front of it, whatever follows. -/
theorem offsetIn_ofText (before behind : List Char) :
    (ofText before).offsetIn (before ++ behind) = before.length := by
  induction before using List.reverseRecOn generalizing behind with
  | nil => simp [offsetIn, ofText, lengthOfLines]
  | append_singleton before c ih =>
    have hbefore := ih (c :: behind)
    rw [ofText_concat, List.append_assoc, List.singleton_append, List.length_append, offsetIn, step]
    rw [offsetIn, ofText] at hbefore
    split
    · rename_i hc
      have hline : (ofText before).line + 1 - 1 = before.count '\n' + 1 := by
        simp [ofText, Nat.add_comm]
      rw [hline, hc, lengthOfLines_append_newline]
      rfl
    · simp only [ofText, List.length_singleton] at hbefore ⊢
      omega

/-! ## Texts that begin elsewhere -/

/-- The place of a text that a given place becomes if the text begins `here`. -/
def shift (here l : Location) : Location :=
  if l.line = 1 then ⟨here.line, here.column + l.column - 1⟩
  else ⟨here.line + l.line - 1, l.column⟩

theorem shift_step (here : Location) {l : Location} (hline : 1 ≤ l.line) (hcolumn : 1 ≤ l.column)
    (c : Char) : here.shift (l.step c) = (here.shift l).step c := by
  unfold shift step
  by_cases hc : c = '\n'
  · have hnext : l.line + 1 ≠ 1 := by omega
    have hsum : here.line + (l.line + 1) - 1 = here.line + l.line - 1 + 1 := by omega
    rw [if_pos hc, if_pos hc, if_neg hnext, hsum]
    split
    · rename_i hl
      rw [hl, Nat.add_sub_cancel]
    · rfl
  · have hsum : here.column + (l.column + 1) - 1 = here.column + l.column - 1 + 1 := by omega
    rw [if_neg hc, if_neg hc, hsum]
    split <;> rfl

/-- Where a text begins `here`, its places are those behind its characters from there. -/
theorem shift_ofText (here : Location) (text : List Char) :
    here.shift (ofText text) = here.after text := by
  induction text using List.reverseRecOn with
  | nil => rfl
  | append_singleton text c ih =>
    rw [ofText_concat, shift_step here (Nat.le_add_right ..) (Nat.le_add_right ..), ih,
      after_append, after_cons, after_nil]

end Location

namespace Span

/-- The text between the ends of a span. -/
def textIn (s : Span) (text : List Char) : List Char :=
  (text.take (s.stop.offsetIn text)).drop (s.start.offsetIn text)

theorem textIn_append (before text behind : List Char) :
    textIn ⟨.ofText before, .ofText (before ++ text)⟩ (before ++ (text ++ behind)) = text := by
  have hstop := Location.offsetIn_ofText (before ++ text) behind
  rw [List.append_assoc] at hstop
  rw [textIn, hstop, Location.offsetIn_ofText, ← List.append_assoc, List.take_left',
    List.drop_left']
  · rfl
  · rfl

end Span

end Reckoner
