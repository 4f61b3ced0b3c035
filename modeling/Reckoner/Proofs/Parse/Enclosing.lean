import Reckoner.Proofs.Grammar.RoundTrip
import Reckoner.Proofs.Parse.EndMarker
import Reckoner.Proofs.Parse.Limit
import Reckoner.Proofs.Run.Events
import Reckoner.Proofs.Scan.Spacing

/-!
# Sources inside others

A source that parses parses to the same expression in parentheses, as an operand in parentheses and
as the value of an assignment, one level further in. A source that nests too deeply is refused there
at the same token. So levels are counted along each path on its own: what stands beside a source in
parentheses takes none of its levels, and leaves none open.

* `Automaton.run_over`: over further levels that are open the automaton refuses the same token.
* `parses_enclosed`: the three ways to put a source inside another.
-/

namespace Reckoner

open Text Token.Pattern Parse Sentence
open List (Forall₂)

/-! ## Further levels -/

namespace Automaton

variable {limit l : Nat} {s : State} {S : List Mark} {t u : Token} {ts : List Token}
  {e : ParseError}

/-- The state with further levels open around its own. -/
def State.over (s : State) (B : List Mark) : State := ⟨s.mode, s.stack ++ B⟩

/-- What becomes of a reply when further levels are open and allowed: a step is the same, and an
error of nesting reports the limit that is then given. -/
def Reply.Over (B : List Mark) : Reply → Reply → Prop
  | .go next, reply => reply = .go (next.over B)
  | .halt (.error (.tooDeeplyNested t l)), reply =>
    reply = .halt (.error (.tooDeeplyNested t (l + B.length)))
  | .halt _, _ => True

theorem push_over (B : List Mark) (limit : Nat) (mark : Mark) (t : Token) (S : List Mark) :
    (push limit mark t S).Over B (push (limit + B.length) mark t (S ++ B)) := by
  by_cases h : S.length < limit
  · rw [push_of_lt h, push_of_lt (by rw [List.length_append]; omega)]
    rfl
  · rw [push_of_le (by omega), push_of_le (by rw [List.length_append]; omega)]
    rfl

theorem close_over (B : List Mark) (t : Token) (S : List Mark) :
    (close t S).Over B (close t (S ++ B)) := by
  induction S with
  | nil =>
    rw [close]
    split <;> trivial
  | cons mark S ih =>
    cases mark with
    | assign => exact ih
    | paren =>
      rw [close, List.cons_append, close]
      split
      · rfl
      · trivial

theorem stepAfterOperand_over (B : List Mark) (S : List Mark) (t : Token) :
    (stepAfterOperand S t).Over B (stepAfterOperand (S ++ B) t) := by
  rw [stepAfterOperand, stepAfterOperand]
  split
  · rfl
  · exact close_over B t S

theorem stepOperand_over (B : List Mark) (limit : Nat) (S : List Mark) (t : Token) :
    (stepOperand limit S t).Over B (stepOperand (limit + B.length) (S ++ B) t) := by
  rw [stepOperand, stepOperand]
  split
  · split
    · rfl
    · trivial
  · rfl
  · exact push_over ..
  · trivial

theorem step_over (B : List Mark) (limit : Nat) (s : State) (t : Token) :
    (step limit s t).Over B (step (limit + B.length) (s.over B) t) := by
  obtain ⟨mode, S⟩ := s
  cases mode with
  | operand => exact stepOperand_over B limit S t
  | afterOperand => exact stepAfterOperand_over B S t
  | afterIdentifier =>
    by_cases h : t.kind = .assign
    · simp only [step, State.over, if_pos h]
      exact push_over ..
    · simp only [step, State.over, if_neg h]
      exact stepAfterOperand_over B S t

/-- Over further levels that are open the automaton refuses the same token, whatever follows. -/
theorem run_over (h : run limit s ts = some (.error (.tooDeeplyNested t l))) (B : List Mark)
    (more : List Token) :
    run (limit + B.length) (s.over B) (ts ++ more) =
      some (.error (.tooDeeplyNested t (l + B.length))) := by
  induction ts generalizing s with
  | nil => cases h
  | cons u ts ih =>
    have hover := step_over B limit s u
    cases hstep : step limit s u with
    | go next =>
      rw [run_of_go hstep] at h
      rw [hstep] at hover
      exact (run_of_go hover _).trans (ih h)
    | halt verdict =>
      rw [run_of_halt hstep, Option.some.injEq] at h
      subst h
      rw [hstep] at hover
      exact run_of_halt hover _

/-- A last token at which the automaton does not halt plays no part. -/
theorem run_of_append_singleton (h : run limit s (ts ++ [t]) = some (.error e)) (ht : e.found ≠ t) :
    run limit s ts = some (.error e) := by
  induction ts generalizing s with
  | nil =>
    cases hstep : step limit s t with
    | go next =>
      rw [List.nil_append, run_of_go hstep] at h
      cases h
    | halt verdict =>
      rw [List.nil_append, run_of_halt hstep, Option.some.injEq] at h
      subst h
      exact absurd (found_of_step hstep) ht
  | cons u ts ih =>
    cases hstep : step limit s u with
    | go next =>
      rw [List.cons_append, run_of_go hstep] at h
      rw [run_of_go hstep]
      exact ih h
    | halt verdict =>
      rw [List.cons_append, run_of_halt hstep] at h
      rwa [run_of_halt hstep]

/-- The automaton reports a token as it is in the list it runs over. -/
theorem run_map_of_tooDeeplyNested {f : Token → Token} (hf : Forall₂ Token.Alike (ts.map f) ts)
    (h : run limit s ts = some (.error (.tooDeeplyNested t l))) :
    run limit s (ts.map f) = some (.error (.tooDeeplyNested (f t) l)) := by
  obtain ⟨i, hi⟩ := run_alike h
  obtain ⟨u, hu, hrun⟩ := hi ts (Token.forall₂_alike_self ts)
  obtain ⟨v, hv, hmap⟩ := hi _ hf
  rw [h] at hrun
  simp only [ParseError.mapFound, Option.some.injEq, Except.error.injEq,
    ParseError.tooDeeplyNested.injEq, and_true] at hrun
  subst hrun
  rw [List.getElem?_map, hu] at hv
  cases hv
  exact hmap

/-- Where parsing stops at a token that nests too deeply, the automaton does so without the end
marker. -/
theorem run_of_tooDeeplyNested {stop : Location}
    (h : parseWithin limit (ts ++ [.endMarker stop]) = .error (.tooDeeplyNested t l)) :
    l = limit ∧ run limit start ts = some (.error (.tooDeeplyNested t l)) := by
  obtain ⟨hlimit, -, _, -, hopens, -⟩ := exists_opener_of_parseWithin h
  have hrun := run_closed_of_error h
  rw [closed_append_endMarker] at hrun
  -- the end marker opens no level
  have hne : (ParseError.tooDeeplyNested t l).found ≠ Token.endMarker stop := by
    rintro rfl
    cases hopens
  exact ⟨hlimit, run_of_append_singleton hrun hne⟩

/-- Where nothing is open, tokens alike these are passed if the limit allows a level, and leave the
mark open. -/
def Opens (mark : Mark) (F : List Token) : Prop :=
  ∀ fs, Forall₂ Token.Alike fs F → ∀ limit ts,
    run (limit + 1) start (fs ++ ts) = run (limit + 1) ⟨.operand, [mark]⟩ ts

theorem opens_openParen (ht : t.kind = .openParen) : Opens .paren [t] := by
  intro fs hfs limit ts
  obtain ⟨u, _, ⟨hkind, -⟩, hnil, rfl⟩ := List.forall₂_cons_right_iff.mp hfs
  obtain rfl := List.forall₂_nil_right_iff.mp hnil
  exact run_openParen (hkind.trans ht) (Nat.succ_pos limit) ts

theorem opens_assign (ht : t.kind = .identifier) (hu : u.kind = .assign) :
    Opens .assign [t, u] := by
  intro fs hfs limit ts
  obtain ⟨v, _, ⟨hkind, -⟩, hbehind, rfl⟩ := List.forall₂_cons_right_iff.mp hfs
  obtain ⟨w, _, ⟨hsign, -⟩, hnil, rfl⟩ := List.forall₂_cons_right_iff.mp hbehind
  obtain rfl := List.forall₂_nil_right_iff.mp hnil
  exact run_assign (hkind.trans ht) (hsign.trans hu) (Nat.succ_pos limit) ts

end Automaton

/-! ## Sources -/

/-- The source scans, and parsing its tokens under the limit comes to the result. -/
def Parses (limit : Nat) (source : String) (result : Except ParseError Expr) : Prop :=
  ∃ tokens, scan source = .ok tokens ∧ parseWithin limit tokens = result

variable {limit : Nat} {a b front back source : String} {result : Except ParseError Expr}
  {F B : List Token}

/-- Where the source nests too deeply under the limit, it does so between the texts under a limit
that is higher by one, at the same token. -/
def NestsTooDeeplyWithin (limit : Nat) (source front back : String) : Prop :=
  ∀ t l, Parses limit source (.error (.tooDeeplyNested t l)) →
    Parses (limit + 1) (front ++ source ++ back)
      (.error (.tooDeeplyNested (t.shift (.ofText front.toList)) (limit + 1)))

theorem exists_reads_of_scan {tokens : List Token} (h : scan source = .ok tokens) :
    ∃ (ts : List Token) (stop : Location), Scan.Reads .start source.toList ⟨ts, stop, []⟩ ∧
      tokens = ts ++ [.endMarker stop] := by
  obtain ⟨⟨ts, stop, rest⟩, hread, hrest, htokens⟩ := Scan.scan_eq_ok_iff.mp h
  obtain rfl : rest = [] := hrest
  exact ⟨ts, stop, hread, htokens⟩

/-- A source is parsed by way of the tokens that are read of it. -/
theorem parses_iff :
    Parses limit source result ↔
      ∃ (ts : List Token) (stop : Location), Scan.Reads .start source.toList ⟨ts, stop, []⟩ ∧
        (∀ t ∈ ts, t.kind ≠ .endMarker) ∧
        parseWithin limit (ts ++ [.endMarker stop]) = result := by
  constructor
  · rintro ⟨tokens, hscan, hparse⟩
    obtain ⟨ts, stop, hread, rfl⟩ := exists_reads_of_scan hscan
    exact ⟨ts, stop, hread, not_endMarker_of_scan hscan, hparse⟩
  · rintro ⟨ts, stop, hread, -, hparse⟩
    exact ⟨_, Scan.scan_eq_ok_iff.mpr ⟨_, hread, rfl, rfl⟩, hparse⟩

theorem parses_ok_iff {tree : Expr} :
    Parses limit source (.ok tree) ↔
      ∃ (D : Derivation .expression) (stop : Location),
        Scan.Reads .start source.toList ⟨D.tokens, stop, []⟩ ∧ D.tree = tree ∧ D.LeftClosed ∧
          D.nesting ≤ limit := by
  rw [parses_iff]
  constructor
  · rintro ⟨ts, stop, hread, hnone, hparse⟩
    obtain ⟨D, htokens, hD⟩ := parseWithin_eq_ok_iff_derivation.mp hparse
    rw [ofTokens_append_cons hnone rfl []] at htokens
    exact ⟨D, stop, htokens ▸ hread, hD⟩
  · rintro ⟨D, stop, hread, hD⟩
    have hnone := D.not_endMarker_of_mem
    refine ⟨D.tokens, stop, hread, hnone, parseWithin_eq_ok_iff_derivation.mpr ⟨D, ?_, hD⟩⟩
    rw [ofTokens_append_cons hnone rfl []]

/-! ## Surroundings -/

/-- Texts in front of a source and behind it that cannot run into the source, and the tokens that
they are read to. -/
structure Surrounds (front back : String) (F B : List Token) : Prop where
  readsFront : Scan.ReadsLike front.toList F
  not_continues : ∀ t ∈ F.getLast?, ∀ c, t.kind.continues c = false
  readsBack : Scan.ReadsLike back.toList B
  not_isWord : ∀ c ∈ back.toList.head?, isWord c = false

namespace Surrounds

/-- A source keeps its tokens, which are moved behind the text in front of it. -/
theorem exists_reads {s : Scan} (h : Surrounds front back F B)
    (ha : Scan.Reads .start a.toList s) (hrest : s.rest = []) :
    ∃ fs bs stop, Forall₂ Token.Alike fs F ∧ Forall₂ Token.Alike bs B ∧
      Scan.Reads .start (front ++ a ++ back).toList
        ⟨fs ++ s.tokens.map (Token.shift (.ofText front.toList)) ++ bs, stop, []⟩ := by
  obtain ⟨fs, here, hfs, hfront⟩ := h.readsFront .start
  have hhere : here = .ofText front.toList :=
    (hfront.stop_eq rfl).trans (Location.after_start _)
  subst hhere
  have hends : ∀ t ∈ fs.getLast?, ∀ c, t.kind.continues c = false :=
    Token.forall_getLast?_of_alike (P := fun k => ∀ c, k.continues c = false) hfs h.not_continues
  have hborders : Scan.Borders _ a.toList :=
    hfront.borders_of_getLast? rfl fun t ht c _ => hends t ht c
  have hmoved := hfront.append rfl hborders (Scan.Reads.shift _ [] ha)
  obtain ⟨bs, stop, hbs, hback⟩ := h.readsBack _
  have hwhole := hmoved.append hrest
    (fun t _ _ c hc => Token.Kind.not_continues_of_not_isWord _ (h.not_isWord c hc)) hback
  rw [← String.toList_append, ← String.toList_append] at hwhole
  exact ⟨fs, bs, stop, hfs, hbs, hwhole⟩

/-- A derivation around that of the source, from any symbol. -/
theorem parses_ok {D : Derivation .expression} {X : Symbol} {W : Derivation X} {stop : Location}
    (h : Surrounds front back F B) (ha : Scan.Reads .start a.toList ⟨D.tokens, stop, []⟩)
    (htokens : W.tokens = F ++ D.tokens ++ B) (hclosed : W.LeftClosed)
    (hnesting : W.nesting ≤ limit) :
    Parses limit (front ++ a ++ back) (.ok W.tree) := by
  obtain ⟨fs, bs, stop, hfs, hbs, hread⟩ := h.exists_reads ha rfl
  obtain ⟨V, hVtokens, hVtree, hVnesting, -, hVclosed⟩ := W.exists_lift (Symbol.within_expression X)
  have hmoved := Token.map_shift_alike (.ofText front.toList) D.tokens
  have halike : Forall₂ Token.Alike
      (fs ++ D.tokens.map (Token.shift (.ofText front.toList)) ++ bs) V.tokens := by
    rw [hVtokens, htokens]
    exact List.rel_append (List.rel_append hfs hmoved) hbs
  obtain ⟨E, hEtokens, hEtree, hEnesting, -, hEclosed⟩ := V.exists_alike halike
  exact parses_ok_iff.mpr ⟨E, stop, hEtokens ▸ hread, hEtree.trans hVtree,
    hEclosed (hVclosed.mpr hclosed), (hEnesting.trans hVnesting).le.trans hnesting⟩

/-- Where the text in front of a source opens one level, the source nests too deeply at the same
token under a limit that is higher by one. -/
theorem nestsTooDeeplyWithin {mark : Automaton.Mark} (h : Surrounds front back F B)
    (hF : Automaton.Opens mark F) : NestsTooDeeplyWithin limit a front back := by
  intro t l ha
  obtain ⟨as, stop, hread, hnone, hparse⟩ := parses_iff.mp ha
  obtain ⟨fs, bs, stop', hfs, -, hwhole⟩ := h.exists_reads hread rfl
  obtain ⟨rfl, hrun⟩ := Automaton.run_of_tooDeeplyNested hparse
  have hmoved := Automaton.run_map_of_tooDeeplyNested
    (Token.map_shift_alike (.ofText front.toList) as) hrun
  have hover := Automaton.run_over hmoved [mark] (bs ++ [.endMarker stop'])
  refine ⟨_, Scan.scan_eq_ok_iff.mpr ⟨_, hwhole, rfl, rfl⟩, ?_⟩
  refine Automaton.parseWithin_eq_error_of_run ?_
  rw [closed_append_endMarker, List.append_assoc, List.append_assoc, hF fs hfs]
  exact hover

/-- Pieces in front of a source and behind it. -/
theorem of_spaced (ps qs : List (String × List Token)) (hfront : Spaced (ps.map Prod.fst) front)
    (hback : Spaced (qs.map Prod.fst) back)
    (hreads : ∀ p ∈ ps ++ qs, Scan.ReadsLike p.1.toList p.2) (hps : ps.IsChain Parted)
    (hqs : qs.IsChain Parted)
    (hends : ∀ t ∈ (ps.flatMap Prod.snd).getLast?, ∀ c, t.kind.continues c = false)
    (hbegins : ∀ q ∈ (qs.map Prod.fst).head?, BeginsApart q) :
    Surrounds front back (ps.flatMap Prod.snd) (qs.flatMap Prod.snd) where
  readsFront := hfront.readsLike (fun p hp => hreads p (List.mem_append_left _ hp)) hps
  not_continues := hends
  readsBack := hback.readsLike (fun q hq => hreads q (List.mem_append_right _ hq)) hqs
  not_isWord := hback.not_isWord_head? hbegins

end Surrounds

/-! ## Derivations around others -/

namespace Derivation

/-- An opening parenthesis. -/
def opening : Token := ⟨.openParen, "(", .initial⟩

/-- A closing parenthesis. -/
def closing : Token := ⟨.closeParen, ")", .initial⟩

/-- An expression in parentheses, as a factor. -/
def parens (inner : Derivation .expression) : Derivation .factor :=
  .group opening closing rfl rfl inner

/-- Two expressions in parentheses, as the operands of an operator. -/
theorem exists_operation (op : Operator) {A B : Derivation .expression} (hA : A.LeftClosed)
    (hB : B.LeftClosed) :
    ∃ W : Derivation (.chain op.precedence),
      W.tokens =
        [opening] ++ A.tokens ++ (closing :: signOf op :: opening :: (B.tokens ++ [closing])) ∧
      W.tree = .binary op A.tree B.tree ∧ W.LeftClosed ∧
      W.nesting = max A.nesting B.nesting + 1 := by
  obtain ⟨L, hLtokens, hLtree, hLnesting, hLopen, hLclosed⟩ :=
    (parens A).exists_lift (Symbol.factor_within (.chain op.precedence))
  obtain ⟨R, hRtokens, hRtree, hRnesting, -, hRclosed⟩ :=
    (parens B).exists_lift (Symbol.factor_within op.precedence.operand)
  refine ⟨operation op L R, ?_, ?_, ?_, ?_⟩
  · change L.tokens ++ signOf op :: R.tokens = _
    rw [hLtokens, hRtokens]
    simp [parens, tokens]
  · change Expr.binary op L.tree R.tree = _
    rw [hLtree, hRtree]
    rfl
  · exact ⟨mt hLopen.mp id, hLclosed.mpr hA, hRclosed.mpr hB⟩
  · change max L.nesting R.nesting = _
    rw [hLnesting, hRnesting]
    exact Nat.add_max_add_right ..

end Derivation

/-! ## Three ways to put a source inside another -/

open Reckoner.Derivation

namespace Surrounds

theorem of_parens (hfront : Spaced ["("] front) (hback : Spaced [")"] back) :
    Surrounds front back [opening] [closing] := by
  refine .of_spaced [("(", [opening])] [(")", [closing])] hfront hback ?_ (.singleton _)
    (.singleton _) ?_ ?_
  · simp only [List.cons_append, List.nil_append, List.forall_mem_cons]
    exact ⟨isMark_openParen.readsLike, isMark_closeParen.readsLike, by simp⟩
  · rintro t ⟨⟩
    exact isMark_openParen.not_continues
  · rintro q ⟨⟩
    exact isMark_closeParen.beginsApart

theorem of_operand {op : Operator} (hfront : Spaced ["("] front)
    (hback : Spaced [")", op.symbol, "(", b, ")"] back) (hb : Scan.ReadsLike b.toList B) :
    Surrounds front back [opening] (closing :: signOf op :: opening :: (B ++ [closing])) := by
  have hsign : IsMark (.operator op) op.symbol := exists_mark op
  refine .of_spaced [("(", [opening])]
    [(")", [closing]), (op.symbol, [signOf op]), ("(", [opening]), (b, B), (")", [closing])]
    hfront hback ?_ (.singleton _) ?_ ?_ ?_
  · simp only [List.cons_append, List.nil_append, List.forall_mem_cons]
    exact ⟨isMark_openParen.readsLike, isMark_closeParen.readsLike, hsign.readsLike,
      isMark_openParen.readsLike, hb, isMark_closeParen.readsLike, by simp⟩
  · simp only [List.isChain_cons_cons]
    exact ⟨isMark_closeParen.parted _, hsign.parted _, isMark_openParen.parted _,
      Or.inr isMark_closeParen.beginsApart, .singleton _⟩
  · rintro t ⟨⟩
    exact isMark_openParen.not_continues
  · rintro q ⟨⟩
    exact isMark_closeParen.beginsApart

theorem of_assign {name : String} (hname : identifier.Matches name.toList)
    (hfront : Spaced [name, "="] front) (hback : Spaced [] back) :
    Surrounds front back [⟨.identifier, name, .initial⟩, ⟨.assign, "=", .initial⟩] [] := by
  refine .of_spaced [(name, [⟨.identifier, name, .initial⟩]), ("=", [⟨.assign, "=", .initial⟩])] []
    hfront hback ?_ ?_ .nil ?_ (by simp)
  · simp only [List.append_nil, List.forall_mem_cons]
    exact ⟨Scan.readsLike_lexeme (Token.Kind.matches_identifier_iff.mpr hname),
      isMark_assign.readsLike, by simp⟩
  · exact List.isChain_cons_cons.mpr ⟨Or.inr isMark_assign.beginsApart, .singleton _⟩
  · rintro t ⟨⟩
    exact isMark_assign.not_continues

end Surrounds

/-- What a source parses to, it parses to in parentheses, as an operand in parentheses and as the
value of an assignment, whatever blanks stand between the pieces, under a limit that is higher by
one. Under that limit a source that nests too deeply does so at the same token. -/
theorem parses_enclosed (limit : Nat) (a front back : String) :
    (Spaced ["("] front → Spaced [")"] back →
      (∀ tree, Parses limit a (.ok tree) → Parses (limit + 1) (front ++ a ++ back) (.ok tree)) ∧
      NestsTooDeeplyWithin limit a front back) ∧
    (∀ (op : Operator) (b : String), Spaced ["("] front →
      Spaced [")", op.symbol, "(", b, ")"] back →
      (∀ left right, Parses limit a (.ok left) → Parses limit b (.ok right) →
        Parses (limit + 1) (front ++ a ++ back) (.ok (.binary op left right))) ∧
      ∀ tokens, scan b = .ok tokens → NestsTooDeeplyWithin limit a front back) ∧
    ∀ name : String, identifier.Matches name.toList → Spaced [name, "="] front → Spaced [] back →
      (∀ tree, Parses limit a (.ok tree) →
        Parses (limit + 1) (front ++ a ++ back) (.ok (.assign name tree))) ∧
      NestsTooDeeplyWithin limit a front back := by
  refine ⟨fun hfront hback => ?_, fun op b hfront hback => ?_, fun name hname hfront hback => ?_⟩
  · have hsurrounds := Surrounds.of_parens hfront hback
    refine ⟨fun tree ha => ?_, hsurrounds.nestsTooDeeplyWithin (Automaton.opens_openParen rfl)⟩
    obtain ⟨D, stop, hread, rfl, hclosed, hnesting⟩ := parses_ok_iff.mp ha
    have hparse : Parses (limit + 1) (front ++ a ++ back) (.ok (parens D).tree) :=
      hsurrounds.parses_ok hread rfl hclosed (Nat.succ_le_succ hnesting)
    exact hparse
  · refine ⟨fun left right ha hb => ?_, fun tokens hb => ?_⟩
    · obtain ⟨D, stop, hread, rfl, hclosed, hnesting⟩ := parses_ok_iff.mp ha
      obtain ⟨E, stop', hread', rfl, hclosed', hnesting'⟩ := parses_ok_iff.mp hb
      obtain ⟨W, htokens, htree, hWclosed, hWnesting⟩ := exists_operation op hclosed hclosed'
      have hWlimit : W.nesting ≤ limit + 1 := by omega
      have hsurrounds := Surrounds.of_operand hfront hback hread'.readsLike
      exact htree ▸ hsurrounds.parses_ok hread htokens hWclosed hWlimit
    · obtain ⟨ts, stop, hread, -⟩ := exists_reads_of_scan hb
      have hsurrounds := Surrounds.of_operand hfront hback hread.readsLike
      exact hsurrounds.nestsTooDeeplyWithin (Automaton.opens_openParen rfl)
  · have hsurrounds := Surrounds.of_assign hname hfront hback
    refine ⟨fun tree ha => ?_, hsurrounds.nestsTooDeeplyWithin (Automaton.opens_assign rfl rfl)⟩
    obtain ⟨D, stop, hread, rfl, hclosed, hnesting⟩ := parses_ok_iff.mp ha
    have hparse : Parses (limit + 1) (front ++ a ++ back) (.ok (assignTo name D).tree) :=
      hsurrounds.parses_ok hread (List.append_nil _).symm hclosed (Nat.succ_le_succ hnesting)
    exact hparse

/-- An assignment put inside others, and a source that nests too deeply. -/
theorem parses_enclosed_assignment :
    Parses 1 "y = x" (.ok (.assign "y" (.var "x"))) ∧ Parses 1 "z" (.ok (.var "z")) ∧
      Parses 1 "((x" (.error (.tooDeeplyNested ⟨.openParen, "(", ⟨1, 2⟩, ⟨1, 3⟩⟩ 1)) ∧
      Spaced ["("] "( " ∧ Spaced [")"] ")" ∧ Spaced [")", "*", "(", "z", ")"] ")*(z)" ∧
      identifier.Matches "v".toList ∧ Spaced ["v", "="] "v=" ∧ Spaced [] "" ∧
      Parses 2 ("( " ++ "y = x" ++ ")") (.ok (.assign "y" (.var "x"))) ∧
      Parses 2 ("( " ++ "y = x" ++ ")*(z)")
        (.ok (.binary .multiply (.assign "y" (.var "x")) (.var "z"))) ∧
      Parses 2 ("v=" ++ "y = x" ++ "") (.ok (.assign "v" (.assign "y" (.var "x")))) ∧
      Parses 2 ("( " ++ "((x" ++ ")*(z)")
        (.error (.tooDeeplyNested ⟨.openParen, "(", ⟨1, 4⟩, ⟨1, 5⟩⟩ 2)) := by
  have hassign : Parses 1 "y = x" (.ok (.assign "y" (.var "x"))) :=
    ⟨[⟨.identifier, "y", ⟨1, 1⟩, ⟨1, 2⟩⟩, ⟨.assign, "=", ⟨1, 3⟩, ⟨1, 4⟩⟩,
      ⟨.identifier, "x", ⟨1, 5⟩, ⟨1, 6⟩⟩, .endMarker ⟨1, 6⟩], by decide +kernel, by decide +kernel⟩
  have hz : scan "z" = .ok [⟨.identifier, "z", ⟨1, 1⟩, ⟨1, 2⟩⟩, .endMarker ⟨1, 2⟩] := by
    decide +kernel
  have hvar : Parses 1 "z" (.ok (.var "z")) := ⟨_, hz, by decide +kernel⟩
  have hdeep : Parses 1 "((x" (.error (.tooDeeplyNested ⟨.openParen, "(", ⟨1, 2⟩, ⟨1, 3⟩⟩ 1)) :=
    ⟨[⟨.openParen, "(", ⟨1, 1⟩, ⟨1, 2⟩⟩, ⟨.openParen, "(", ⟨1, 2⟩, ⟨1, 3⟩⟩,
      ⟨.identifier, "x", ⟨1, 3⟩, ⟨1, 4⟩⟩, .endMarker ⟨1, 4⟩], by decide +kernel, by decide +kernel⟩
  have hnone : Spaced [] "" := .nil (by simp)
  have hblank : Spaced [] " " := .nil (by simp [isBlank_space])
  have hfront : Spaced ["("] "( " := by
    have htext : "(" ++ " " = "( " := by decide
    exact htext ▸ hblank.piece "("
  have hback : Spaced [")"] ")" := by
    have htext : ")" ++ "" = ")" := by decide
    exact htext ▸ hnone.piece ")"
  have hoperand : Spaced [")", "*", "(", "z", ")"] ")*(z)" := by
    have htext : ")" ++ ("*" ++ ("(" ++ ("z" ++ ")"))) = ")*(z)" := by decide
    exact htext ▸ (((hback.piece "z").piece "(").piece "*").piece ")"
  have hname : Spaced ["v", "="] "v=" := by
    have htext : "v" ++ ("=" ++ "") = "v=" := by decide
    exact htext ▸ (hnone.piece "=").piece "v"
  have hv : identifier.Matches "v".toList := by decide +kernel
  have hparens := (parses_enclosed 1 "y = x" "( " ")").1 hfront hback
  have hproduct := (parses_enclosed 1 "y = x" "( " ")*(z)").2.1 .multiply "z" hfront hoperand
  have hvalue := (parses_enclosed 1 "y = x" "v=" "").2.2 "v" hv hname hnone
  have hrefused := (parses_enclosed 1 "((x" "( " ")*(z)").2.1 .multiply "z" hfront hoperand
  exact ⟨hassign, hvar, hdeep, hfront, hback, hoperand, hv, hname, hnone, hparens.1 _ hassign,
    hproduct.1 _ _ hassign hvar, hvalue.1 _ hassign, hrefused.2 _ hz _ _ hdeep⟩

end Reckoner
