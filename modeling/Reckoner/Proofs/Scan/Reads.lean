import Reckoner.Proofs.Scan.Cut
import Reckoner.Proofs.Scan.Location

/-!
# What is read of a text

Reading passes over a blank, or cuts off a lexeme that does not go on behind its end, until it
comes to a text off which no pattern cuts anything. `Scan.Reads` lists these rules. They leave out
how a text is cut, so that a statement about all texts is proved by one induction over a reading.

* `Scan.reads_read`, `Scan.read_of_reads`: a text is read exactly as the rules list.
* `Scan.Reads.consumed`: what is read of a text reads alone to the same tokens.
* `Scan.Reads.append`: two texts are read one behind the other where no lexeme goes on across the
  border.
-/

namespace Reckoner

open Text Token.Pattern

namespace Scan

/-! ## The rules -/

/-- `Reads here cs s`: from a place on, a text is read to its tokens, the place behind them and the
rest. -/
inductive Reads : Location → List Char → Scan → Prop
  | stuck {here : Location} {cs : List Char} :
    firstCut? all cs = none → Reads here cs ⟨[], here, cs⟩
  | blank {here : Location} {c : Char} {cs : List Char} {s : Scan} :
    isBlank c = true → Reads (here.step c) cs s → Reads here (c :: cs) s
  | lexeme {here : Location} {kind : Token.Kind} {lexeme cs : List Char} {s : Scan} :
    kind.Matches lexeme → (∀ c ∈ cs.head?, kind.continues c = false) →
    Reads (here.after lexeme) cs s →
    Reads here (lexeme ++ cs) (s.keep ⟨kind, String.ofList lexeme, here, here.after lexeme⟩)

variable {here : Location} {a b cs : List Char} {s u : Scan}

theorem read_of_reads (h : Reads here cs s) : read (firstCut? all) here cs = s := by
  induction h with
  | stuck hcut => exact read_of_none _ hcut
  | blank hc _ ih => rw [read_blank_cons _ hc, ih]
  | lexeme hmatches hcs _ ih => rw [read_lexeme_append _ hmatches hcs, ih]

theorem Reads.gap {gap : List Char} (hgap : ∀ c ∈ gap, isBlank c = true)
    (h : Reads (here.after gap) cs s) : Reads here (gap ++ cs) s := by
  induction gap generalizing here with
  | nil => exact h
  | cons c gap ih =>
    exact .blank (hgap c (by simp)) (ih (fun d hd => hgap d (by simp [hd])) h)

theorem reads_read (here : Location) (cs : List Char) :
    Reads here cs (read (firstCut? all) here cs) := by
  induction hn : cs.length using Nat.strongRecOn generalizing here cs with
  | ind n ih =>
  cases hcut : firstCut? all cs with
  | none =>
    rw [read_of_none here hcut]
    exact .stuck hcut
  | some piece =>
    obtain ⟨p, hp, hkind, hmatches, hrest⟩ := of_firstCut? hcut
    have hlt := piece.length_rest_lt
    have hreads := ih piece.rest.length (by omega) (here.after piece.lexeme) piece.rest rfl
    have hsplit := piece.lexeme_append_rest
    cases hk : piece.kind with
    | none =>
      have hgap := hreads.gap (isBlank_of_matches hp (hkind ▸ hk) hmatches)
      rw [read_of_gap here hcut hk]
      rwa [hsplit] at hgap
    | some kind =>
      have hpkind : p.kind = some kind := hkind ▸ hk
      rw [Token.Kind.continues_of_mem_all hp hpkind] at hrest
      have hlexeme := Reads.lexeme ⟨p, hp, hpkind, hmatches⟩ hrest hreads
      rw [read_of_token here hcut hk]
      rwa [hsplit] at hlexeme

/-- Off what is left no pattern cuts anything. -/
theorem Reads.firstCut?_rest (h : Reads here cs s) : firstCut? all s.rest = none := by
  induction h with
  | stuck hcut => exact hcut
  | blank _ _ ih => exact ih
  | lexeme _ _ _ ih => exact ih

theorem reads_nil (here : Location) : Reads here [] ⟨[], here, []⟩ := .stuck rfl

/-! ## What is consumed -/

/-- What is read of a text can be read on its own: it has the same tokens, and nothing is left. -/
theorem Reads.consumed (h : Reads here cs s) :
    ∃ before, cs = before ++ s.rest ∧ s.stop = here.after before ∧
      Reads here before ⟨s.tokens, s.stop, []⟩ := by
  induction h with
  | @stuck here cs _ => exact ⟨[], rfl, rfl, reads_nil here⟩
  | @blank here c cs s hc _ ih =>
    obtain ⟨before, hsplit, hstop, hreads⟩ := ih
    exact ⟨c :: before, congrArg (c :: ·) hsplit, hstop, .blank hc hreads⟩
  | @lexeme here kind lexeme cs s hmatches hcs _ ih =>
    obtain ⟨before, hsplit, hstop, hreads⟩ := ih
    -- the lexeme goes on no further in front of what is consumed behind it
    have hbefore : ∀ c ∈ before.head?, kind.continues c = false := by
      intro c hc
      refine hcs c ?_
      rw [Option.mem_def] at hc
      rw [hsplit, List.head?_append, hc]
      rfl
    refine ⟨lexeme ++ before, ?_, ?_, .lexeme hmatches hbefore hreads⟩
    · rw [List.append_assoc]
      exact congrArg (lexeme ++ ·) hsplit
    · rw [Location.after_append]
      exact hstop

theorem Reads.stop_eq (h : Reads here cs s) (hrest : s.rest = []) : s.stop = here.after cs := by
  obtain ⟨before, hsplit, hstop, -⟩ := h.consumed
  rw [hstop, hsplit, hrest, List.append_nil]

theorem Reads.matches (h : Reads here cs s) :
    ∀ t ∈ s.tokens, t.kind.Matches t.lexeme.toList := by
  induction h with
  | stuck _ => exact fun t ht => absurd ht List.not_mem_nil
  | blank _ _ ih => exact ih
  | lexeme hmatches _ _ ih =>
    intro t ht
    obtain rfl | ht := List.mem_cons.mp ht
    · rwa [String.toList_ofList]
    · exact ih t ht

/-! ## Borders -/

/-- No lexeme that ends where reading stopped goes on into a text. -/
def Borders (s : Scan) (text : List Char) : Prop :=
  ∀ t ∈ s.tokens, t.span.stop = s.stop → ∀ c ∈ text.head?, t.kind.continues c = false

/-- Lexemes are cut off as long as they go on. -/
theorem Reads.borders (h : Reads here cs s) : s.Borders s.rest := by
  induction h with
  | stuck _ => exact fun t ht => absurd ht List.not_mem_nil
  | blank _ _ ih => exact ih
  | @lexeme here kind lexeme cs s _ hcs hreads ih =>
    intro t ht hstop
    obtain rfl | ht := List.mem_cons.mp ht
    · -- it ends where reading stopped only if nothing is read behind it
      obtain ⟨before, hsplit, hafter, -⟩ := hreads.consumed
      have hbefore : before = [] := by
        by_contra hne
        have hlt := Location.lt_after (here.after lexeme) hne
        rw [← hafter] at hlt
        exact hlt.ne hstop
      rw [hbefore, List.nil_append] at hsplit
      exact hsplit ▸ hcs
    · exact ih t ht hstop

/-- Behind a text that is read to its end only the last lexeme could go on. -/
theorem Reads.borders_of_getLast? (h : Reads here cs s) (hrest : s.rest = []) {text : List Char}
    (hlast : ∀ t ∈ s.tokens.getLast?, ∀ c ∈ text.head?, t.kind.continues c = false) :
    s.Borders text := by
  induction h with
  | stuck _ => exact fun t ht => absurd ht List.not_mem_nil
  | blank _ _ ih => exact ih hrest hlast
  | @lexeme here kind lexeme cs s _ _ hreads ih =>
    intro t ht hstop
    obtain rfl | ht := List.mem_cons.mp ht
    · -- it ends where reading stopped only if nothing is read behind it
      have hcs : cs = [] := by
        by_contra hne
        have hlt := Location.lt_after (here.after lexeme) hne
        rw [← hreads.stop_eq hrest] at hlt
        exact hlt.ne hstop
      subst hcs
      obtain rfl := (read_of_reads hreads).symm.trans (read_of_reads (reads_nil _))
      exact hlast _ rfl
    · refine ih hrest (fun u hu => hlast u ?_) t ht hstop
      rw [Option.mem_def] at hu ⊢
      rw [keep, List.getLast?_cons, hu, Option.getD_some]

/-- Two texts are read one behind the other where no lexeme goes on across the border. -/
theorem Reads.append (ha : Reads here a s) (hrest : s.rest = []) (hborders : s.Borders b)
    (hb : Reads s.stop b u) : Reads here (a ++ b) ⟨s.tokens ++ u.tokens, u.stop, u.rest⟩ := by
  induction ha with
  | stuck _ =>
    subst hrest
    exact hb
  | blank hc _ ih => exact .blank hc (ih hrest hborders hb)
  | @lexeme here kind lexeme cs s hmatches hcs hreads ih =>
    have htail : s.Borders b := fun t ht => hborders t (List.mem_cons_of_mem _ ht)
    have hhead : ∀ c ∈ (cs ++ b).head?, kind.continues c = false := by
      cases cs with
      | nil => exact hborders _ (List.mem_cons_self ..) (hreads.stop_eq hrest).symm
      | cons d cs => exact hcs
    rw [List.append_assoc]
    exact .lexeme hmatches hhead (ih hrest htail hb)

/-- Where reading has stopped in front of a character, it stops whatever follows the text. -/
theorem Reads.append_rest (h : Reads here cs s) (hrest : s.rest ≠ []) (text : List Char) :
    Reads here (cs ++ text) ⟨s.tokens, s.stop, s.rest ++ text⟩ := by
  have hhead : (s.rest ++ text).head? = s.rest.head? := List.head?_append_of_ne_nil _ hrest
  have hborders := h.borders
  have hstuck := firstCut?_eq_none_iff.mp h.firstCut?_rest
  obtain ⟨before, hsplit, -, hreads⟩ := h.consumed
  rw [Borders, ← hhead] at hborders
  rw [← hhead] at hstuck
  have happend := hreads.append rfl hborders (.stuck (firstCut?_eq_none_iff.mpr hstuck))
  rw [List.append_nil, ← List.append_assoc] at happend
  rwa [hsplit]

/-! ## Whole sources -/

theorem reads_ofSource (source : String) : Reads .start source.toList (ofSource source) :=
  reads_read .start source.toList

theorem ofSource_eq {source : String} (h : Reads .start source.toList s) : ofSource source = s :=
  read_of_reads h

theorem scan_eq_ok_iff {source : String} {tokens : List Token} :
    scan source = .ok tokens ↔
      ∃ s, Reads .start source.toList s ∧ s.rest = [] ∧
        tokens = s.tokens ++ [.endMarker s.stop] := by
  refine result_eq_ok_iff.trans ⟨fun h => ⟨_, reads_ofSource source, h⟩, ?_⟩
  rintro ⟨s, hs, h⟩
  rwa [ofSource_eq hs]

theorem scan_eq_error_iff {source : String} {error : ScanError} :
    scan source = .error error ↔
      ∃ s, Reads .start source.toList s ∧ s.rest ≠ [] ∧
        error = ⟨String.ofList s.rest, s.stop⟩ := by
  refine result_eq_error_iff.trans ⟨fun h => ⟨_, reads_ofSource source, h⟩, ?_⟩
  rintro ⟨s, hs, h⟩
  rwa [ofSource_eq hs]

/-- A source is what is consumed of it, which is read to the same tokens and place, and the rest. -/
theorem exists_consumed (source : String) :
    ∃ consumed, source = consumed ++ String.ofList (ofSource source).rest ∧
      (ofSource source).stop = .ofText consumed.toList ∧
      ofSource consumed = ⟨(ofSource source).tokens, (ofSource source).stop, []⟩ := by
  obtain ⟨before, hsplit, hstop, hreads⟩ := (reads_ofSource source).consumed
  refine ⟨String.ofList before, ?_, ?_, ?_⟩
  · rw [← String.ofList_append, ← hsplit, String.ofList_toList]
  · rw [hstop, String.toList_ofList, Location.after_start]
  · rw [← String.toList_ofList (l := before)] at hreads
    exact ofSource_eq hreads

end Scan

end Reckoner
