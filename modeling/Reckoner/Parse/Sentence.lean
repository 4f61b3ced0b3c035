import Reckoner.Token

/-!
# Sentences

What a list of tokens offers to be parsed: the tokens before the first end marker, and that end
marker. A list without an end marker is closed by one at the end of its last token, and the empty
list by one at the start of the text.

* `Sentence.not_endMarker_of_mem`: no end marker stands in the body.
* `Sentence.ofTokens_append_cons`: nothing behind the first end marker plays a part.
* `Sentence.exists_tail`: what stands behind the body.
-/

namespace Reckoner

/-- The tokens in front of an end marker, and the end marker. -/
structure Sentence where
  body : List Token
  stop : Token

namespace Sentence

/-- The place at the end of the last token, or the start of the text if there is none. -/
def placeAfter (tokens : List Token) : Location :=
  (tokens.getLast?.map fun t => t.span.stop).getD .start

theorem placeAfter_of_getLast? {tokens : List Token} {last : Token}
    (h : tokens.getLast? = some last) : placeAfter tokens = last.span.stop := by
  rw [placeAfter, h]
  rfl

/-- The sentence at the front of a list of tokens. -/
def ofTokens (tokens : List Token) : Sentence where
  body := tokens.takeWhile fun t => t.kind ≠ .endMarker
  stop := (tokens.find? fun t => t.kind = .endMarker).getD (.endMarker (placeAfter tokens))

theorem not_endMarker_of_mem {tokens : List Token} {t : Token} (h : t ∈ (ofTokens tokens).body) :
    t.kind ≠ .endMarker := by
  simpa using List.all_eq_true.mp List.all_takeWhile t h

theorem kind_stop (tokens : List Token) : (ofTokens tokens).stop.kind = .endMarker := by
  unfold ofTokens
  cases h : tokens.find? fun t => decide (t.kind = .endMarker) with
  | none => rfl
  | some t => simpa using List.find?_some h

/-! ## Sentences in a list of tokens -/

variable {tokens before : List Token} {stop : Token}

theorem ofTokens_append_cons (h : ∀ t ∈ before, t.kind ≠ .endMarker)
    (hstop : stop.kind = .endMarker) (after : List Token) :
    ofTokens (before ++ stop :: after) = ⟨before, stop⟩ := by
  have hbody : (before ++ stop :: after).takeWhile (fun t => t.kind ≠ .endMarker) = before := by
    rw [List.takeWhile_append_of_pos (by simpa using h)]
    simp [hstop]
  have hfind : (before ++ stop :: after).find? (fun t => t.kind = .endMarker) = some stop := by
    rw [List.find?_append, List.find?_eq_none.mpr (by simpa using h)]
    simp [hstop]
  rw [ofTokens, hbody, hfind]
  rfl

theorem ofTokens_of_forall (h : ∀ t ∈ tokens, t.kind ≠ .endMarker) :
    ofTokens tokens = ⟨tokens, .endMarker (placeAfter tokens)⟩ := by
  have hbody : tokens.takeWhile (fun t => t.kind ≠ .endMarker) = tokens := by
    rw [← List.append_nil tokens, List.takeWhile_append_of_pos (by simpa using h),
      List.takeWhile_nil]
  have hfind : tokens.find? (fun t => t.kind = .endMarker) = none := by
    simpa using h
  rw [ofTokens, hbody, hfind]
  rfl

/-- Tokens go on behind the body of their sentence with the end marker that closes it, or else end
there. -/
theorem exists_tail (tokens : List Token) :
    ∃ tail, tokens = (ofTokens tokens).body ++ tail ∧
      tail.headD (.endMarker (placeAfter tokens)) = (ofTokens tokens).stop := by
  cases hfind : tokens.find? fun t => t.kind = .endMarker with
  | none =>
    have hnone : ∀ t ∈ tokens, t.kind ≠ .endMarker := by simpa using hfind
    rw [ofTokens_of_forall hnone]
    exact ⟨[], (List.append_nil _).symm, rfl⟩
  | some stop =>
    obtain ⟨hstop, before, after, rfl, hbefore⟩ := List.find?_eq_some_iff_append.mp hfind
    rw [ofTokens_append_cons (by simpa using hbefore) (by simpa using hstop) after]
    exact ⟨stop :: after, rfl, rfl⟩

end Sentence

end Reckoner
