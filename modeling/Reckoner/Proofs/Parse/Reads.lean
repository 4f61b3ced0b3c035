import Reckoner.Parse

/-!
# What the rules of the grammar read

The readers of an expression call each other: a chain calls the reader of its operands, a factor
calls the reader of expressions one level further in. `Reads` lists, call by call, what a reader
makes of a list of tokens and what the calls below it made of theirs, errors included. It forgets
the bounds that make the readers end, so that a statement about all readers is proved by one
induction over their calls.

* `Parse.result_eq_iff`: a call has exactly the result that the rules list.
* `Parse.parseWithin_eq_ok_iff`, `Parse.parseWithin_eq_error_iff`: parsing is a call for an
  expression on the body of a sentence.
-/

namespace Reckoner

/-- The symbols of the grammar: factors, and chains of operands joined by operators of one
precedence. -/
inductive Symbol
  | factor
  | chain (level : Precedence)
  deriving DecidableEq

namespace Symbol

/-- Factors joined by `*` and `/`. -/
abbrev product : Symbol := .chain .multiplicative

/-- Products joined by `+` and `-`. -/
abbrev expression : Symbol := .chain .additive

end Symbol

/-- What a chain joins. -/
def Precedence.operand : Precedence → Symbol
  | .additive => .product
  | .multiplicative => .factor

/-- The expression and the tokens behind it. -/
def Parsed.out {n : Nat} (p : Parsed n) : Expr × List Token := (p.tree, p.rest)

namespace Parse

/-! ## Calls and their results -/

theorem operator?_eq_some_iff {level : Precedence} {t : Token} {op : Operator} :
    operator? level t = some op ↔ t.kind = .operator op ∧ op.precedence = level := by
  unfold operator?
  split
  · rename_i op' hop
    rw [hop, Token.Kind.operator.injEq]
    split
    · rename_i hp
      rw [Option.some.injEq]
      exact ⟨fun h => ⟨h, h ▸ hp⟩, fun h => h.1⟩
    · rename_i hp
      refine ⟨by simp, ?_⟩
      rintro ⟨rfl, h⟩
      exact absurd h hp
  · rename_i hop
    refine ⟨by simp, fun h => absurd h.1 (hop op)⟩

/-- The expression that was read and the tokens behind it, or an error. -/
abbrev Result := Except ParseError (Expr × List Token)

/-- The calls of readers: for a symbol, and for the rest of a chain behind a first part. -/
inductive Call
  | symbol (X : Symbol)
  | more (level : Precedence) (left : Expr)

variable (limit : Nat) (stop : Token)

/-- The reader inside a level opened by a token. -/
def nest : Nat → Token → Reader
  | 0 => fun opener _ => .error (.tooDeeplyNested opener limit)
  | levels + 1 => fun _ => expression limit stop levels

/-- The reader of a symbol. -/
def reader (levels : Nat) : Symbol → Reader
  | .factor => factor stop (nest limit stop levels)
  | .chain .multiplicative => chain .multiplicative (factor stop (nest limit stop levels))
  | .chain .additive => sum stop (nest limit stop levels)

/-- The result of a call. -/
def Call.result (levels : Nat) : Call → List Token → Result
  | .symbol X, ts => (reader limit stop levels X ts).map Parsed.out
  | .more level left, ts =>
    (Parse.more level (reader limit stop levels level.operand) left ts).map Parsed.out

variable {limit stop}

theorem reader_chain (levels : Nat) (level : Precedence) :
    reader limit stop levels (.chain level) =
      chain level (reader limit stop levels level.operand) := by
  cases level <;> rfl

theorem reader_expression (levels : Nat) :
    reader limit stop levels .expression = expression limit stop levels := by
  cases levels <;> rfl

theorem result_expression (levels : Nat) (ts : List Token) :
    (Call.symbol .expression).result limit stop levels ts =
      (expression limit stop levels ts).map Parsed.out := by
  rw [Call.result, reader_expression]

theorem result_chain (levels : Nat) (level : Precedence) (ts : List Token) :
    (Call.symbol (.chain level)).result limit stop levels ts =
      ((Call.symbol level.operand).result limit stop levels ts).bind
        fun first => (Call.more level first.1).result limit stop levels first.2 := by
  simp only [Call.result, reader_chain, chain]
  cases reader limit stop levels level.operand ts with
  | error e => rfl
  | ok first =>
    simp only [bind, Except.bind, Except.map, Parsed.out]
    cases more level (reader limit stop levels level.operand) first.tree first.rest <;> rfl

theorem result_more_nil (levels : Nat) (level : Precedence) (left : Expr) :
    (Call.more level left).result limit stop levels [] = .ok (left, []) := by
  rw [Call.result, Parse.more]
  rfl

theorem result_more_done {levels : Nat} {level : Precedence} (left : Expr) {t : Token}
    (ts : List Token) (hop : operator? level t = none) :
    (Call.more level left).result limit stop levels (t :: ts) = .ok (left, t :: ts) := by
  simp only [Call.result, Parse.more, hop]
  rfl

theorem result_more_operator {levels : Nat} {level : Precedence} (left : Expr) {op : Operator}
    {t : Token} (ts : List Token) (hop : operator? level t = some op) :
    (Call.more level left).result limit stop levels (t :: ts) =
      ((Call.symbol level.operand).result limit stop levels ts).bind fun right =>
        (Call.more level (.binary op left right.1)).result limit stop levels right.2 := by
  simp only [Call.result, Parse.more, hop]
  cases reader limit stop levels level.operand ts with
  | error e => rfl
  | ok right =>
    simp only [bind, Except.bind, Except.map, Parsed.out]
    cases Parse.more level (reader limit stop levels level.operand)
      (.binary op left right.tree) right.rest <;> rfl

theorem result_factor_name {levels : Nat} {t : Token} {ts : List Token}
    (ht : t.kind = .identifier) (hts : ∀ u ∈ ts.head?, u.kind ≠ .assign) :
    (Call.symbol .factor).result limit stop levels (t :: ts) = .ok (.var t.lexeme, ts) := by
  cases ts with
  | nil => simp only [Call.result, reader, factor, ht]; rfl
  | cons u us =>
    have hu := hts u rfl
    simp only [Call.result, reader, factor, ht, if_neg hu]
    rfl

theorem result_factor_assign {levels : Nat} {t u : Token} (ts : List Token)
    (ht : t.kind = .identifier) (hu : u.kind = .assign) :
    (Call.symbol .factor).result limit stop (levels + 1) (t :: u :: ts) =
      ((Call.symbol .expression).result limit stop levels ts).map
        fun value => (.assign t.lexeme value.1, value.2) := by
  rw [result_expression]
  simp only [Call.result, reader, factor, ht, if_pos hu, nest]
  cases expression limit stop levels ts <;> rfl

theorem result_factor_group {levels : Nat} {t : Token} (ts : List Token)
    (ht : t.kind = .openParen) :
    (Call.symbol .factor).result limit stop (levels + 1) (t :: ts) =
      ((Call.symbol .expression).result limit stop levels ts).bind fun inner =>
        match inner.2 with
        | [] => .error (.expected .closeParen stop)
        | u :: rest =>
          if u.kind = .closeParen then .ok (inner.1, rest)
          else .error (.expected .closeParen u) := by
  rw [result_expression]
  simp only [Call.result, reader, factor, ht, nest]
  cases expression limit stop levels ts with
  | error e => rfl
  | ok inner =>
    obtain ⟨tree, rest, hlt⟩ := inner
    cases rest with
    | nil => rfl
    | cons u rest =>
      by_cases hu : u.kind = .closeParen
      · simp only [bind, Except.bind, Except.map, Parsed.out, if_pos hu]
        rfl
      · simp only [bind, Except.bind, Except.map, Parsed.out, if_neg hu]

theorem result_factor_unexpected {levels : Nat} {t : Token} (ts : List Token)
    (h : t.kind ≠ .number ∧ t.kind ≠ .identifier ∧ t.kind ≠ .openParen) :
    (Call.symbol .factor).result limit stop levels (t :: ts) = .error (.unexpected t) := by
  obtain ⟨h₁, h₂, h₃⟩ := h
  simp only [Call.result, reader, factor]
  cases hk : t.kind <;> simp_all [Except.map]

/-! ## The rules -/

/-- `Reads limit stop levels call ts result`: with so many levels of nesting still allowed, a call
on `ts` has the result. An end of the tokens is reported at `stop`. -/
inductive Reads (limit : Nat) (stop : Token) : Nat → Call → List Token → Result → Prop
  | number {levels : Nat} {t : Token} {ts : List Token} {v : Value} :
    t.kind = .number → Value.ofNumeral? t.lexeme = some v →
    Reads limit stop levels (.symbol .factor) (t :: ts) (.ok (.literal v, ts))
  | tooLarge {levels : Nat} {t : Token} {ts : List Token} :
    t.kind = .number → Value.ofNumeral? t.lexeme = none →
    Reads limit stop levels (.symbol .factor) (t :: ts) (.error (.tooLarge t))
  | name {levels : Nat} {t : Token} {ts : List Token} :
    t.kind = .identifier → (∀ u ∈ ts.head?, u.kind ≠ .assign) →
    Reads limit stop levels (.symbol .factor) (t :: ts) (.ok (.var t.lexeme, ts))
  | assign {levels : Nat} {t u : Token} {ts rest : List Token} {value : Expr} :
    t.kind = .identifier → u.kind = .assign →
    Reads limit stop levels (.symbol .expression) ts (.ok (value, rest)) →
    Reads limit stop (levels + 1) (.symbol .factor) (t :: u :: ts)
      (.ok (.assign t.lexeme value, rest))
  | assignError {levels : Nat} {t u : Token} {ts : List Token} {e : ParseError} :
    t.kind = .identifier → u.kind = .assign →
    Reads limit stop levels (.symbol .expression) ts (.error e) →
    Reads limit stop (levels + 1) (.symbol .factor) (t :: u :: ts) (.error e)
  | assignTooDeep {t u : Token} {ts : List Token} :
    t.kind = .identifier → u.kind = .assign →
    Reads limit stop 0 (.symbol .factor) (t :: u :: ts) (.error (.tooDeeplyNested u limit))
  | group {levels : Nat} {t u : Token} {ts rest : List Token} {inner : Expr} :
    t.kind = .openParen → u.kind = .closeParen →
    Reads limit stop levels (.symbol .expression) ts (.ok (inner, u :: rest)) →
    Reads limit stop (levels + 1) (.symbol .factor) (t :: ts) (.ok (inner, rest))
  | unclosed {levels : Nat} {t : Token} {ts rest : List Token} {inner : Expr} :
    t.kind = .openParen → (∀ u ∈ rest.head?, u.kind ≠ .closeParen) →
    Reads limit stop levels (.symbol .expression) ts (.ok (inner, rest)) →
    Reads limit stop (levels + 1) (.symbol .factor) (t :: ts)
      (.error (.expected .closeParen (rest.headD stop)))
  | groupError {levels : Nat} {t : Token} {ts : List Token} {e : ParseError} :
    t.kind = .openParen → Reads limit stop levels (.symbol .expression) ts (.error e) →
    Reads limit stop (levels + 1) (.symbol .factor) (t :: ts) (.error e)
  | groupTooDeep {t : Token} {ts : List Token} :
    t.kind = .openParen →
    Reads limit stop 0 (.symbol .factor) (t :: ts) (.error (.tooDeeplyNested t limit))
  | unexpected {levels : Nat} {ts : List Token} :
    (∀ t ∈ ts.head?, t.kind ≠ .number ∧ t.kind ≠ .identifier ∧ t.kind ≠ .openParen) →
    Reads limit stop levels (.symbol .factor) ts (.error (.unexpected (ts.headD stop)))
  | chain {levels : Nat} {level : Precedence} {ts rest : List Token} {first : Expr}
      {result : Result} :
    Reads limit stop levels (.symbol level.operand) ts (.ok (first, rest)) →
    Reads limit stop levels (.more level first) rest result →
    Reads limit stop levels (.symbol (.chain level)) ts result
  | firstError {levels : Nat} {level : Precedence} {ts : List Token} {e : ParseError} :
    Reads limit stop levels (.symbol level.operand) ts (.error e) →
    Reads limit stop levels (.symbol (.chain level)) ts (.error e)
  | done {levels : Nat} {level : Precedence} {left : Expr} {ts : List Token} :
    (∀ t ∈ ts.head?, operator? level t = none) →
    Reads limit stop levels (.more level left) ts (.ok (left, ts))
  | more {levels : Nat} {level : Precedence} {left right : Expr} {op : Operator} {t : Token}
      {ts rest : List Token} {result : Result} :
    operator? level t = some op →
    Reads limit stop levels (.symbol level.operand) ts (.ok (right, rest)) →
    Reads limit stop levels (.more level (.binary op left right)) rest result →
    Reads limit stop levels (.more level left) (t :: ts) result
  | rightError {levels : Nat} {level : Precedence} {left : Expr} {op : Operator} {t : Token}
      {ts : List Token} {e : ParseError} :
    operator? level t = some op →
    Reads limit stop levels (.symbol level.operand) ts (.error e) →
    Reads limit stop levels (.more level left) (t :: ts) (.error e)

/-! ## Calls follow the rules -/

theorem result_of_reads {levels : Nat} {call : Call} {ts : List Token} {result : Result}
    (h : Reads limit stop levels call ts result) : call.result limit stop levels ts = result := by
  induction h with
  | number ht hv => simp only [Call.result, reader, factor, ht, hv]; rfl
  | tooLarge ht hv => simp only [Call.result, reader, factor, ht, hv]; rfl
  | name ht hts => exact result_factor_name ht hts
  | assign ht hu _ ih | assignError ht hu _ ih => rw [result_factor_assign _ ht hu, ih]; rfl
  | assignTooDeep ht hu =>
    simp only [Call.result, reader, factor, ht, if_pos hu, nest]
    rfl
  | group ht hu _ ih =>
    rw [result_factor_group _ ht, ih]
    exact if_pos hu
  | @unclosed levels t ts rest inner ht hrest _ ih =>
    rw [result_factor_group _ ht, ih]
    cases rest with
    | nil => rfl
    | cons u rest => exact if_neg (hrest u rfl)
  | groupError ht _ ih => rw [result_factor_group _ ht, ih]; rfl
  | groupTooDeep ht =>
    simp only [Call.result, reader, factor, ht, nest]
    rfl
  | @unexpected levels ts hts =>
    cases ts with
    | nil => rfl
    | cons t ts => exact result_factor_unexpected ts (hts t rfl)
  | chain _ _ ih₁ ih₂ => rw [result_chain, ih₁]; exact ih₂
  | firstError _ ih => rw [result_chain, ih]; rfl
  | @done levels level left ts hts =>
    cases ts with
    | nil => exact result_more_nil ..
    | cons t ts => exact result_more_done left ts (hts t rfl)
  | more hop _ _ ih₁ ih₂ => rw [result_more_operator _ _ hop, ih₁]; exact ih₂
  | rightError hop _ ih => rw [result_more_operator _ _ hop, ih]; rfl

theorem length_lt_of_reads {levels : Nat} {X : Symbol} {ts rest : List Token} {tree : Expr}
    (h : Reads limit stop levels (.symbol X) ts (.ok (tree, rest))) : rest.length < ts.length := by
  have hresult := result_of_reads h
  rw [Call.result] at hresult
  cases hp : reader limit stop levels X ts with
  | error e => rw [hp] at hresult; cases hresult
  | ok p =>
    rw [hp] at hresult
    cases hresult
    exact p.length_rest_lt

theorem exists_reads_more {levels : Nat} {level : Precedence}
    (h : ∀ ts, ∃ result, Reads limit stop levels (.symbol level.operand) ts result)
    (left : Expr) (ts : List Token) :
    ∃ result, Reads limit stop levels (.more level left) ts result := by
  induction hn : ts.length using Nat.strongRecOn generalizing left ts with
  | ind n ih =>
    cases ts with
    | nil => exact ⟨_, .done (by simp)⟩
    | cons t ts =>
      cases hop : operator? level t with
      | none => exact ⟨_, .done (by simpa using hop)⟩
      | some op =>
        obtain ⟨_ | ⟨right, rest⟩, hright⟩ := h ts
        · exact ⟨_, .rightError hop hright⟩
        · have hlt := length_lt_of_reads hright
          simp only [List.length_cons] at hn
          obtain ⟨result, hresult⟩ := ih rest.length (by omega) (.binary op left right) rest rfl
          exact ⟨result, .more hop hright hresult⟩

theorem exists_reads_chain {levels : Nat} {level : Precedence}
    (h : ∀ ts, ∃ result, Reads limit stop levels (.symbol level.operand) ts result)
    (ts : List Token) : ∃ result, Reads limit stop levels (.symbol (.chain level)) ts result := by
  obtain ⟨_ | ⟨first, rest⟩, hfirst⟩ := h ts
  · exact ⟨_, .firstError hfirst⟩
  · obtain ⟨result, hresult⟩ := exists_reads_more h first rest
    exact ⟨result, .chain hfirst hresult⟩

theorem exists_reads_assign {levels : Nat} {t u : Token} {ts : List Token}
    (h : ∀ k < levels, ∃ result, Reads limit stop k (.symbol .expression) ts result)
    (ht : t.kind = .identifier) (hu : u.kind = .assign) :
    ∃ result, Reads limit stop levels (.symbol .factor) (t :: u :: ts) result := by
  cases levels with
  | zero => exact ⟨_, .assignTooDeep ht hu⟩
  | succ levels =>
    obtain ⟨_ | ⟨value, rest⟩, hvalue⟩ := h levels (by omega)
    · exact ⟨_, .assignError ht hu hvalue⟩
    · exact ⟨_, .assign ht hu hvalue⟩

theorem exists_reads_group {levels : Nat} {t : Token} {ts : List Token}
    (h : ∀ k < levels, ∃ result, Reads limit stop k (.symbol .expression) ts result)
    (ht : t.kind = .openParen) :
    ∃ result, Reads limit stop levels (.symbol .factor) (t :: ts) result := by
  cases levels with
  | zero => exact ⟨_, .groupTooDeep ht⟩
  | succ levels =>
    obtain ⟨_ | ⟨inner, rest⟩, hinner⟩ := h levels (by omega)
    · exact ⟨_, .groupError ht hinner⟩
    · by_cases hrest : ∀ u ∈ rest.head?, u.kind ≠ .closeParen
      · exact ⟨_, .unclosed ht hrest hinner⟩
      · cases rest with
        | nil => simp at hrest
        | cons u rest => exact ⟨_, .group ht (by simpa using hrest) hinner⟩

theorem exists_reads_factor {levels : Nat}
    (h : ∀ k < levels, ∀ ts, ∃ result, Reads limit stop k (.symbol .expression) ts result)
    (ts : List Token) : ∃ result, Reads limit stop levels (.symbol .factor) ts result := by
  cases ts with
  | nil => exact ⟨_, .unexpected (by simp)⟩
  | cons t ts =>
    cases ht : t.kind with
    | number =>
      cases hv : Value.ofNumeral? t.lexeme with
      | none => exact ⟨_, .tooLarge ht hv⟩
      | some v => exact ⟨_, .number ht hv⟩
    | identifier =>
      by_cases hts : ∀ u ∈ ts.head?, u.kind ≠ .assign
      · exact ⟨_, .name ht hts⟩
      · cases ts with
        | nil => simp at hts
        | cons u ts => exact exists_reads_assign (fun k hk => h k hk ts) ht (by simpa using hts)
    | openParen => exact exists_reads_group (fun k hk => h k hk ts) ht
    | operator | assign | closeParen | endMarker => exact ⟨_, .unexpected (by simp [ht])⟩

theorem exists_reads (levels : Nat) (call : Call) (ts : List Token) :
    ∃ result, Reads limit stop levels call ts result := by
  induction levels using Nat.strongRecOn generalizing call ts with
  | ind levels ih =>
    have hfactor := exists_reads_factor fun k hk ts => ih k hk (.symbol .expression) ts
    have hoperand : ∀ (level : Precedence) (ts : List Token),
        ∃ result, Reads limit stop levels (.symbol level.operand) ts result := by
      intro level
      cases level with
      | multiplicative => exact hfactor
      | additive => exact fun ts => exists_reads_chain hfactor ts
    match call with
    | .symbol .factor => exact hfactor ts
    | .symbol (.chain level) => exact exists_reads_chain (hoperand level) ts
    | .more level left => exact exists_reads_more (hoperand level) left ts

/-- A call has exactly the result that the rules list. -/
theorem result_eq_iff {levels : Nat} {call : Call} {ts : List Token} {result : Result} :
    call.result limit stop levels ts = result ↔ Reads limit stop levels call ts result := by
  refine ⟨?_, result_of_reads⟩
  rintro rfl
  obtain ⟨result, h⟩ : ∃ result, Reads limit stop levels call ts result :=
    exists_reads levels call ts
  rwa [result_of_reads h]

theorem reads_unique {levels : Nat} {call : Call} {ts : List Token} {r s : Result}
    (hr : Reads limit stop levels call ts r) (hs : Reads limit stop levels call ts s) : r = s :=
  (result_of_reads hr).symm.trans (result_of_reads hs)

/-! ## Whole sentences -/

theorem parseWithin_eq (limit : Nat) (tokens : List Token) :
    parseWithin limit tokens =
      ((Call.symbol .expression).result limit (Sentence.ofTokens tokens).stop limit
        (Sentence.ofTokens tokens).body).bind fun p =>
          match p.2 with
          | [] => .ok p.1
          | t :: _ => .error (.trailing t) := by
  rw [result_expression, parseWithin]
  cases expression limit (Sentence.ofTokens tokens).stop limit (Sentence.ofTokens tokens).body with
  | error e => rfl
  | ok p =>
    obtain ⟨tree, rest, _⟩ := p
    cases rest <;> rfl

theorem parseWithin_eq_ok_iff {limit : Nat} {tokens : List Token} {tree : Expr} :
    parseWithin limit tokens = .ok tree ↔
      Reads limit (Sentence.ofTokens tokens).stop limit (.symbol .expression)
        (Sentence.ofTokens tokens).body (.ok (tree, [])) := by
  rw [parseWithin_eq, ← result_eq_iff]
  rcases (Call.symbol .expression).result limit _ limit _ with e | ⟨tree, _ | ⟨t, rest⟩⟩ <;>
    simp [Except.bind]

theorem parseWithin_eq_error_iff {limit : Nat} {tokens : List Token} {e : ParseError} :
    parseWithin limit tokens = .error e ↔
      Reads limit (Sentence.ofTokens tokens).stop limit (.symbol .expression)
        (Sentence.ofTokens tokens).body (.error e) ∨
      ∃ tree t rest, e = .trailing t ∧
        Reads limit (Sentence.ofTokens tokens).stop limit (.symbol .expression)
          (Sentence.ofTokens tokens).body (.ok (tree, t :: rest)) := by
  simp only [parseWithin_eq, ← result_eq_iff]
  rcases (Call.symbol .expression).result limit _ limit _ with e' | ⟨tree, _ | ⟨t, rest⟩⟩ <;>
    simp [Except.bind, eq_comm]

end Parse

end Reckoner
