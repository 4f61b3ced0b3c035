import Reckoner.Proofs.Parse.Viable
import Reckoner.Proofs.Run.Events
import Mathlib.Data.List.Forall2

/-!
# What of a token parsing looks at

Parsing looks at the kinds of tokens, and at the lexemes of numbers and names. Lists of tokens that
agree in these parse alike: to one tree, or to one error at one place, which each list reports with
the token that it has there. The places of tokens, and the lexemes of marks, are only passed on.

* `Derivation.exists_alike`: tokens alike those of a derivation have one of the same form.
* `Automaton.run_alike`: the automaton halts at the same place in lists of tokens that are alike.
* `parseWithin_alike`: what parsing, and the runs of sources, make of tokens that are alike.
-/

namespace Reckoner

open List (Forall₂)

/-! ## Tokens that are alike -/

/-- Parsing does not tell the tokens apart: they have one kind and, if they are numbers or names,
one lexeme. -/
def Token.Alike (t u : Token) : Prop :=
  t.kind = u.kind ∧ (t.kind = .number ∨ t.kind = .identifier → t.lexeme = u.lexeme)

instance (t u : Token) : Decidable (t.Alike u) :=
  inferInstanceAs (Decidable (_ ∧ _))

theorem Token.forall₂_alike_self (ts : List Token) : Forall₂ Alike ts ts :=
  List.forall₂_same.mpr fun _ _ => ⟨rfl, fun _ => rfl⟩

theorem Token.alike_of_unplaced_eq {t u : Token} (h : t.unplaced = u.unplaced) : t.Alike u :=
  have ⟨hkind, hlexeme⟩ := unplaced_eq_iff.mp h
  ⟨hkind, fun _ => hlexeme⟩

theorem forall₂_append_right {α β : Type} {R : α → β → Prop} {as : List α} {bs cs : List β}
    (h : Forall₂ R as (bs ++ cs)) :
    ∃ as₁ as₂, as = as₁ ++ as₂ ∧ Forall₂ R as₁ bs ∧ Forall₂ R as₂ cs :=
  ⟨_, _, (List.take_append_drop ..).symm, List.forall₂_take_append _ _ _ h,
    List.forall₂_drop_append _ _ _ h⟩

namespace Sentence

variable {R : Token → Token → Prop} {ts us : List Token}

theorem forall₂_body (hR : ∀ t u, R t u → t.kind = u.kind) (h : Forall₂ R us ts) :
    Forall₂ R (ofTokens us).body (ofTokens ts).body := by
  simp only [ofTokens]
  induction h with
  | nil => exact .nil
  | @cons u t us ts hut _ ih =>
    have hkind := hR u t hut
    by_cases ht : t.kind = .endMarker
    · simp [hkind, ht]
    · rw [List.takeWhile_cons_of_pos (by simp [hkind, ht]),
        List.takeWhile_cons_of_pos (by simp [ht])]
      exact .cons hut ih

theorem forall₂_closed (hR : ∀ t u, R t u → t.kind = u.kind)
    (hstop : ∀ l m, R (.endMarker l) (.endMarker m)) (h : Forall₂ R us ts) :
    Forall₂ R (closed us) (closed ts) := by
  have hends : (∃ t ∈ us, t.kind = .endMarker) ↔ ∃ t ∈ ts, t.kind = .endMarker := by
    induction h with
    | nil => simp
    | @cons u t us ts hut _ ih => simp [hR u t hut, ih]
  by_cases hts : ∃ t ∈ ts, t.kind = .endMarker
  · rwa [closed_of_exists hts, closed_of_exists (hends.mpr hts)]
  · rw [closed_of_not_exists hts, closed_of_not_exists (mt hends.mp hts)]
    exact List.rel_append h (.cons (hstop ..) .nil)

end Sentence

/-! ## Trees -/

namespace Derivation

/-- Tokens alike those of a derivation have one of the same form, with the same expression. -/
theorem exists_alike {X : Symbol} (D : Derivation X) {us : List Token}
    (h : Forall₂ Token.Alike us D.tokens) :
    ∃ E : Derivation X, E.tokens = us ∧ E.tree = D.tree ∧ E.nesting = D.nesting ∧
      (E.IsOpen ↔ D.IsOpen) ∧ (D.LeftClosed → E.LeftClosed) := by
  induction D generalizing us with
  | number t v kind numeral =>
    obtain ⟨u, _, ⟨hkind, hlexeme⟩, hnil, rfl⟩ := List.forall₂_cons_right_iff.mp h
    obtain rfl := List.forall₂_nil_right_iff.mp hnil
    have hu : u.kind = .number := hkind.trans kind
    have hnumeral : Value.ofNumeral? u.lexeme = some v := by rwa [hlexeme (Or.inl hu)]
    exact ⟨.number u v hu hnumeral, rfl, rfl, rfl, Iff.rfl, id⟩
  | name t kind =>
    obtain ⟨u, _, ⟨hkind, hlexeme⟩, hnil, rfl⟩ := List.forall₂_cons_right_iff.mp h
    obtain rfl := List.forall₂_nil_right_iff.mp hnil
    have hu : u.kind = .identifier := hkind.trans kind
    refine ⟨.name u hu, rfl, ?_, rfl, Iff.rfl, id⟩
    rw [tree, tree, hlexeme (Or.inr hu)]
  | assign t sign kind sign_kind value ih =>
    obtain ⟨u, _, ⟨hkind, hlexeme⟩, hbehind, rfl⟩ := List.forall₂_cons_right_iff.mp h
    obtain ⟨v, us, ⟨hsign, -⟩, hvalue, rfl⟩ := List.forall₂_cons_right_iff.mp hbehind
    obtain ⟨V, rfl, htree, hnesting, -, hclosed⟩ := ih hvalue
    have hu : u.kind = .identifier := hkind.trans kind
    refine ⟨.assign u v hu (hsign.trans sign_kind) V, rfl, ?_, congrArg (· + 1) hnesting, Iff.rfl,
      hclosed⟩
    rw [tree, tree, hlexeme (Or.inr hu), htree]
  | group opening closing opening_kind closing_kind inner ih =>
    obtain ⟨u, _, ⟨hopening, -⟩, hbehind, rfl⟩ := List.forall₂_cons_right_iff.mp h
    obtain ⟨_, _, rfl, hinner, hlast⟩ := forall₂_append_right hbehind
    obtain ⟨v, _, ⟨hclosing, -⟩, hnil, rfl⟩ := List.forall₂_cons_right_iff.mp hlast
    obtain rfl := List.forall₂_nil_right_iff.mp hnil
    obtain ⟨I, rfl, htree, hnesting, -, hclosed⟩ := ih hinner
    exact ⟨.group u v (hopening.trans opening_kind) (hclosing.trans closing_kind) I, rfl, htree,
      congrArg (· + 1) hnesting, Iff.rfl, hclosed⟩
  | single operand ih =>
    obtain ⟨Y, htokens, htree, hnesting, hopen, hclosed⟩ := ih h
    exact ⟨.single Y, htokens, htree, hnesting, hopen, hclosed⟩
  | binary left sign op sign_kind precedence right ihl ihr =>
    obtain ⟨_, _, rfl, hleft, hbehind⟩ := forall₂_append_right h
    obtain ⟨u, _, ⟨hsign, -⟩, hright, rfl⟩ := List.forall₂_cons_right_iff.mp hbehind
    obtain ⟨L, rfl, hLtree, hLnesting, hLopen, hLclosed⟩ := ihl hleft
    obtain ⟨R, rfl, hRtree, hRnesting, hRopen, hRclosed⟩ := ihr hright
    refine ⟨.binary L u op (hsign.trans sign_kind) precedence R, rfl, ?_, ?_, hRopen, ?_⟩
    · rw [tree, tree, hLtree, hRtree]
    · rw [nesting, nesting, hLnesting, hRnesting]
    · rintro ⟨hopen, hl, hr⟩
      exact ⟨mt hLopen.mp hopen, hLclosed hl, hRclosed hr⟩

end Derivation

theorem parseWithin_eq_ok_of_alike {limit : Nat} {ts us : List Token} {tree : Expr}
    (h : parseWithin limit ts = .ok tree) (hus : Forall₂ Token.Alike us ts) :
    parseWithin limit us = .ok tree := by
  obtain ⟨D, htokens, rfl, hclosed, hnesting⟩ := parseWithin_eq_ok_iff_derivation.mp h
  have hbody := Sentence.forall₂_body (fun _ _ h => h.1) hus
  rw [← htokens] at hbody
  obtain ⟨E, hEtokens, hEtree, hEnesting, -, hEclosed⟩ := D.exists_alike hbody
  exact parseWithin_eq_ok_iff_derivation.mpr
    ⟨E, hEtokens, hEtree, hEclosed hclosed, hEnesting.le.trans hnesting⟩

/-! ## Errors -/

namespace Automaton

variable {limit : Nat} {s : State} {S : List Mark} {t u : Token} {ts us : List Token}
  {e : ParseError}

/-- The reply with another token in its error. -/
def Reply.mapFound (f : Token → Token) : Reply → Reply
  | .go next => .go next
  | .halt verdict => .halt (verdict.mapError (·.mapFound f))

theorem push_mapFound (limit : Nat) (mark : Mark) (t u : Token) (S : List Mark) :
    push limit mark u S = (push limit mark t S).mapFound fun _ => u := by
  rw [push, push]
  split <;> rfl

theorem close_mapFound (h : u.kind = t.kind) (S : List Mark) :
    close u S = (close t S).mapFound fun _ => u := by
  induction S with
  | nil =>
    rw [close, close, h]
    split <;> rfl
  | cons mark S ih =>
    cases mark with
    | assign => exact ih
    | paren =>
      rw [close, close, h]
      split <;> rfl

theorem stepAfterOperand_mapFound (h : u.kind = t.kind) (S : List Mark) :
    stepAfterOperand S u = (stepAfterOperand S t).mapFound fun _ => u := by
  rw [stepAfterOperand, stepAfterOperand, h]
  split
  · rfl
  · exact close_mapFound h S

theorem stepOperand_mapFound (h : u.Alike t) (S : List Mark) :
    stepOperand limit S u = (stepOperand limit S t).mapFound fun _ => u := by
  obtain ⟨hkind, hlexeme⟩ := h
  rw [stepOperand, stepOperand, ← hkind]
  split
  · rename_i hnumber
    rw [hlexeme (Or.inl hnumber)]
    split <;> rfl
  · rfl
  · exact push_mapFound ..
  · rfl

/-- A step tells apart no tokens that are alike. -/
theorem step_mapFound (h : u.Alike t) (s : State) :
    step limit s u = (step limit s t).mapFound fun _ => u := by
  rw [step, step]
  split
  · exact stepOperand_mapFound h _
  · rw [h.1]
    split
    · exact push_mapFound ..
    · exact stepAfterOperand_mapFound h.1 _
  · exact stepAfterOperand_mapFound h.1 _

/-- The automaton halts at the same place in lists of tokens that are alike. -/
theorem run_alike (h : run limit s ts = some (.error e)) :
    ∃ i : Nat, ∀ us, Forall₂ Token.Alike us ts →
      ∃ u, us[i]? = some u ∧ run limit s us = some (.error (e.mapFound fun _ => u)) := by
  induction ts generalizing s with
  | nil => cases h
  | cons t ts ih =>
    cases hstep : step limit s t with
    | go next =>
      rw [run_of_go hstep] at h
      obtain ⟨i, hi⟩ := ih h
      refine ⟨i + 1, fun us hus => ?_⟩
      obtain ⟨u, us, hut, htail, rfl⟩ := List.forall₂_cons_right_iff.mp hus
      obtain ⟨v, hv, hrun⟩ := hi us htail
      have hgo : step limit s u = .go next := by rw [step_mapFound hut, hstep]; rfl
      exact ⟨v, hv, (run_of_go hgo us).trans hrun⟩
    | halt verdict =>
      rw [run_of_halt hstep, Option.some.injEq] at h
      subst h
      refine ⟨0, fun us hus => ?_⟩
      obtain ⟨u, us, hut, -, rfl⟩ := List.forall₂_cons_right_iff.mp hus
      have hhalt : step limit s u = .halt (.error (e.mapFound fun _ => u)) := by
        rw [step_mapFound hut, hstep]
        rfl
      exact ⟨u, rfl, run_of_halt hhalt us⟩

/-- The parser reports the error of the automaton. -/
theorem parseWithin_eq_error_of_run (h : run limit start (Sentence.closed ts) = some (.error e)) :
    parseWithin limit ts = .error e := by
  cases hparse : parseWithin limit ts with
  | ok tree =>
    rw [run_closed_of_ok hparse] at h
    cases h
  | error e' =>
    rw [run_closed_of_error hparse] at h
    cases h
    rfl

end Automaton

open Sentence

theorem exists_index_of_parseWithin_eq_error {limit : Nat} {ts : List Token} {e : ParseError}
    (h : parseWithin limit ts = .error e) :
    ∃ i : Nat, ∀ us, Forall₂ Token.Alike us ts →
      ∃ u, (closed us)[i]? = some u ∧ parseWithin limit us = .error (e.mapFound fun _ => u) := by
  obtain ⟨i, hi⟩ := Automaton.run_alike (Automaton.run_closed_of_error h)
  refine ⟨i, fun us hus => ?_⟩
  obtain ⟨u, hu, hrun⟩ := hi _ (forall₂_closed (fun _ _ h => h.1) (fun _ _ => ⟨rfl, nofun⟩) hus)
  exact ⟨u, hu, Automaton.parseWithin_eq_error_of_run hrun⟩

/-! ## Runs -/

/-- The error without the place it names. -/
def RunError.unplaced : RunError → RunError
  | scanning e => scanning { e with location := .start }
  | parsing e => parsing e.unplaced
  | evaluating e => evaluating e

theorem ParseError.unplaced_mapFound_of_eq (e : ParseError) {t u : Token}
    (h : t.unplaced = u.unplaced) :
    (e.mapFound fun _ => t).unplaced = (e.mapFound fun _ => u).unplaced := by
  cases e <;> simp only [mapFound, unplaced, h]

/-- Sources whose tokens differ in their places only spell one expression, or fail with errors that
differ in their places only. -/
theorem compile_of_map_unplaced_eq {a b : String} {as bs : List Token} (ha : scan a = .ok as)
    (hb : scan b = .ok bs) (h : as.map Token.unplaced = bs.map Token.unplaced) :
    (∃ tree, compile a = .ok tree ∧ compile b = .ok tree) ∨
      ∃ d e : RunError, compile a = .error d ∧ compile b = .error e ∧ d.unplaced = e.unplaced := by
  have hplaces : Forall₂ (fun t u => t.unplaced = u.unplaced) bs as := by
    rw [← List.forall₂_eq_eq_eq, List.forall₂_map_left_iff, List.forall₂_map_right_iff] at h
    exact h.flip.imp fun _ _ => Eq.symm
  have halike : Forall₂ Token.Alike bs as := hplaces.imp fun _ _ => Token.alike_of_unplaced_eq
  rw [compile_of_scan_ok ha, compile_of_scan_ok hb]
  cases hparse : parse as with
  | ok tree =>
    rw [parse, parseWithin_eq_ok_of_alike hparse halike]
    exact Or.inl ⟨tree, rfl, rfl⟩
  | error e =>
    obtain ⟨i, hi⟩ := exists_index_of_parseWithin_eq_error hparse
    obtain ⟨t, ht, has⟩ := hi as (Token.forall₂_alike_self as)
    obtain ⟨u, hu, hbs⟩ := hi bs halike
    have hclosed : Forall₂ (fun t u => t.unplaced = u.unplaced) (closed bs) (closed as) :=
      forall₂_closed (fun t u h => (Token.unplaced_eq_iff.mp h).1) (fun _ _ => rfl) hplaces
    have hunplaced : u.unplaced = t.unplaced := by
      obtain ⟨hlt, rfl⟩ := List.getElem?_eq_some_iff.mp ht
      obtain ⟨hlt', rfl⟩ := List.getElem?_eq_some_iff.mp hu
      exact hclosed.get hlt' hlt
    rw [← hparse, parse, has, parse, hbs]
    have herrors := e.unplaced_mapFound_of_eq hunplaced.symm
    exact Or.inr ⟨_, _, rfl, rfl, congrArg RunError.parsing herrors⟩

/-- What parsing makes of a list of tokens it makes of every list that is alike: one tree, or one
error, for which each list, closed by its end marker, has the token at the same index. So sources
whose tokens differ in their places only run alike: to one value, or to errors that differ in their
places only, and to one environment. -/
theorem parseWithin_alike (limit : Nat) (ts : List Token) :
    ((∃ tree, ∀ us, Forall₂ Token.Alike us ts → parseWithin limit us = .ok tree) ∨
      ∃ (e : ParseError) (i : Nat), ∀ us, Forall₂ Token.Alike us ts →
        ∃ u, (closed us)[i]? = some u ∧ parseWithin limit us = .error (e.mapFound fun _ => u)) ∧
    ∀ (a b : String) (as bs : List Token) (env : Env), scan a = .ok as → scan b = .ok bs →
      as.map Token.unplaced = bs.map Token.unplaced →
        (run a env).result.mapError RunError.unplaced =
          (run b env).result.mapError RunError.unplaced ∧
        (run a env).env = (run b env).env := by
  refine ⟨?_, fun a b as bs env ha hb h => ?_⟩
  · cases hparse : parseWithin limit ts with
    | ok tree => exact Or.inl ⟨tree, fun us hus => parseWithin_eq_ok_of_alike hparse hus⟩
    | error e => exact Or.inr ⟨e, exists_index_of_parseWithin_eq_error hparse⟩
  · obtain ⟨tree, ha, hb⟩ | ⟨d, e, ha, hb, hunplaced⟩ := compile_of_map_unplaced_eq ha hb h
    · rw [run_of_compile_ok ha, run_of_compile_ok hb]
      exact ⟨rfl, rfl⟩
    · rw [run_of_compile_error ha, run_of_compile_error hb]
      exact ⟨congrArg Except.error hunplaced, rfl⟩

/-- A sum that lacks its second operand, on two lines. -/
def lacksOperand : List Token :=
  [⟨.identifier, "x", ⟨⟨1, 1⟩, ⟨1, 2⟩⟩⟩, ⟨.operator .add, "+", ⟨⟨2, 1⟩, ⟨2, 2⟩⟩⟩]

/-- The same without the places of the tokens, and with another sign for the sum. -/
def lacksOperandSpelled : List Token :=
  [⟨.identifier, "x", .initial⟩, ⟨.operator .add, "plus", .initial⟩]

theorem parseWithin_alike_lacksOperand :
    Forall₂ Token.Alike lacksOperandSpelled lacksOperand ∧
      parseWithin 0 lacksOperand = .error (.unexpected (.endMarker ⟨2, 2⟩)) ∧
      parseWithin 0 lacksOperandSpelled = .error (.unexpected (.endMarker .start)) ∧
      scan "x 1" = .ok [⟨.identifier, "x", ⟨1, 1⟩, ⟨1, 2⟩⟩,
        ⟨.number, "1", ⟨1, 3⟩, ⟨1, 4⟩⟩, .endMarker ⟨1, 4⟩] ∧
      scan "x\n1" = .ok [⟨.identifier, "x", ⟨1, 1⟩, ⟨1, 2⟩⟩,
        ⟨.number, "1", ⟨2, 1⟩, ⟨2, 2⟩⟩, .endMarker ⟨2, 2⟩] ∧
      (run "x\n1" ∅).result.mapError RunError.unplaced =
        .error (.parsing (.trailing ⟨.number, "1", .initial⟩)) := by
  have hrefl : Forall₂ Token.Alike lacksOperand lacksOperand := by decide
  have halike : Forall₂ Token.Alike lacksOperandSpelled lacksOperand := by decide
  have hparse : parseWithin 0 lacksOperand = .error (.unexpected (.endMarker ⟨2, 2⟩)) := by
    decide +kernel
  have hspelled : parseWithin 0 lacksOperandSpelled = .error (.unexpected (.endMarker .start)) := by
    obtain ⟨tree, htree⟩ | ⟨e, i, herror⟩ := (parseWithin_alike 0 lacksOperand).1
    · cases hparse.symm.trans (htree _ hrefl)
    · obtain ⟨t, ht, h⟩ := herror _ hrefl
      obtain ⟨u, hu, h'⟩ := herror _ halike
      rw [hparse] at h
      cases e <;> cases h
      -- the end marker is the third of the tokens, here and there
      match i, ht, hu with
      | 2, _, hu =>
        cases hu
        exact h'
  have hline : scan "x 1" = .ok [⟨.identifier, "x", ⟨1, 1⟩, ⟨1, 2⟩⟩,
      ⟨.number, "1", ⟨1, 3⟩, ⟨1, 4⟩⟩, .endMarker ⟨1, 4⟩] := by
    decide +kernel
  have hlines : scan "x\n1" = .ok [⟨.identifier, "x", ⟨1, 1⟩, ⟨1, 2⟩⟩,
      ⟨.number, "1", ⟨2, 1⟩, ⟨2, 2⟩⟩, .endMarker ⟨2, 2⟩] := by
    decide +kernel
  have hrun : (run "x 1" ∅).result =
      .error (.parsing (.trailing ⟨.number, "1", ⟨1, 3⟩, ⟨1, 4⟩⟩)) := by
    decide +kernel
  have hplaces := (parseWithin_alike 0 lacksOperand).2 _ _ _ _ ∅ hline hlines (by decide)
  refine ⟨halike, hparse, hspelled, hline, hlines, hplaces.1.symm.trans ?_⟩
  rw [hrun]
  rfl

end Reckoner
