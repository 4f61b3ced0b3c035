import Reckoner.Proofs.Grammar.Acceptance
import Mathlib.Tactic.ByContra

/-!
# A pushdown automaton for expressions

An automaton reads the tokens of an expression once, from left to right, and keeps a stack of the
parentheses and assignments that are open. It calls no reader and looks no token ahead: behind a
name a mode of its own waits for the sign of an assignment, and assignments stay open until a
token comes that none of them takes up.

* `Automaton.reads_settles`: the automaton passes what a reader reads, and its stack is then that
  of the reader's call, under assignments that the reader has already left.
* `Automaton.run_closed_eq_parseWithin`: the automaton and the parser come to the same verdict on
  every list of tokens.
-/

namespace Reckoner

namespace Sentence

/-- The tokens, closed by an end marker if they contain none. It is empty, and stands at the end of
the last token, or at the start of the first line if there is none. -/
def closed (tokens : List Token) : List Token :=
  if ∃ t ∈ tokens, t.kind = .endMarker then tokens
  else match tokens.getLast? with
    | some last => tokens ++ [⟨.endMarker, "", ⟨last.span.stop, last.span.stop⟩⟩]
    | none => [⟨.endMarker, "", ⟨⟨1, 1⟩, ⟨1, 1⟩⟩⟩]

theorem closed_of_exists {tokens : List Token} (h : ∃ t ∈ tokens, t.kind = .endMarker) :
    closed tokens = tokens := if_pos h

theorem closed_of_not_exists {tokens : List Token} (h : ¬ ∃ t ∈ tokens, t.kind = .endMarker) :
    closed tokens = tokens ++ [.endMarker (placeAfter tokens)] := by
  rw [closed, if_neg h]
  split
  · rename_i last hlast
    rw [placeAfter_of_getLast? hlast]
    rfl
  · rename_i hempty
    rw [List.getLast?_eq_none_iff] at hempty
    rw [hempty]
    rfl

theorem closed_append_endMarker (tokens : List Token) (place : Location) :
    closed (tokens ++ [.endMarker place]) = tokens ++ [.endMarker place] :=
  closed_of_exists ⟨.endMarker place, by simp, rfl⟩

theorem exists_closed_eq (tokens : List Token) :
    ∃ after, closed tokens = (ofTokens tokens).body ++ (ofTokens tokens).stop :: after := by
  obtain ⟨tail, htokens, htail⟩ := exists_tail tokens
  by_cases hends : ∃ t ∈ tokens, t.kind = .endMarker
  · rw [closed_of_exists hends]
    cases tail with
    | nil =>
      obtain ⟨t, ht, hkind⟩ := hends
      rw [htokens, List.append_nil] at ht
      exact absurd hkind (not_endMarker_of_mem ht)
    | cons u tail =>
      obtain rfl : u = (ofTokens tokens).stop := htail
      exact ⟨tail, htokens⟩
  · have hnone : ∀ t ∈ tokens, t.kind ≠ .endMarker := fun t ht hkind => hends ⟨t, ht, hkind⟩
    rw [closed_of_not_exists hends, ofTokens_of_forall hnone]
    exact ⟨[], rfl⟩

end Sentence

namespace Automaton

/-- What opened a level of nesting. -/
inductive Mark
  | paren
  | assign
  deriving DecidableEq

/-- What the automaton waits for: an operand, or what may stand behind one. A name on its own may
still turn out to be assigned. -/
inductive Mode
  | operand
  | afterIdentifier
  | afterOperand
  deriving DecidableEq

/-- The mode and the levels that are open, the innermost first. -/
structure State where
  mode : Mode
  stack : List Mark
  deriving DecidableEq

/-- What a token leads to: another state, or a verdict on all tokens. -/
inductive Reply
  | go (next : State)
  | halt (verdict : Except ParseError Unit)

/-- No level is open, and an operand has to come. -/
def start : State := ⟨.operand, []⟩

/-- Opens a level at a token. -/
def push (limit : Nat) (mark : Mark) (t : Token) (stack : List Mark) : Reply :=
  if stack.length < limit then .go ⟨.operand, mark :: stack⟩
  else .halt (.error (.tooDeeplyNested t limit))

/-- A token where an operand has to start. -/
def stepOperand (limit : Nat) (stack : List Mark) (t : Token) : Reply :=
  match t.kind with
  | .number =>
    if (Value.ofNumeral? t.lexeme).isSome then .go ⟨.afterOperand, stack⟩
    else .halt (.error (.tooLarge t))
  | .identifier => .go ⟨.afterIdentifier, stack⟩
  | .openParen => push limit .paren t stack
  | _ => .halt (.error (.unexpected t))

/-- A token that no assignment takes up: the assignments on top are closed, and then either a
parenthesis or all tokens have to end. -/
def close (t : Token) : List Mark → Reply
  | .assign :: stack => close t stack
  | .paren :: stack =>
    if t.kind = .closeParen then .go ⟨.afterOperand, stack⟩
    else .halt (.error (.expected .closeParen t))
  | [] => .halt (if t.kind = .endMarker then .ok () else .error (.trailing t))

/-- A token behind an operand. -/
def stepAfterOperand (stack : List Mark) (t : Token) : Reply :=
  match t.kind with
  | .operator _ => .go ⟨.operand, stack⟩
  | _ => close t stack

/-- One step of the automaton. -/
def step (limit : Nat) (s : State) (t : Token) : Reply :=
  match s.mode with
  | .operand => stepOperand limit s.stack t
  | .afterIdentifier =>
    if t.kind = .assign then push limit .assign t s.stack else stepAfterOperand s.stack t
  | .afterOperand => stepAfterOperand s.stack t

/-- The verdict on tokens, if they suffice for one. -/
def run (limit : Nat) (s : State) : List Token → Option (Except ParseError Unit)
  | [] => none
  | t :: ts =>
    match step limit s t with
    | .go next => run limit next ts
    | .halt verdict => some verdict

variable {limit : Nat} {s next : State} {S : List Mark} {t stop : Token} {ts rest : List Token}

theorem run_of_go (h : step limit s t = .go next) (ts : List Token) :
    run limit s (t :: ts) = run limit next ts := by
  rw [run, h]

theorem run_of_halt {verdict : Except ParseError Unit} (h : step limit s t = .halt verdict)
    (ts : List Token) : run limit s (t :: ts) = some verdict := by
  rw [run, h]

theorem push_of_lt {mark : Mark} (h : S.length < limit) :
    push limit mark t S = .go ⟨.operand, mark :: S⟩ := if_pos h

theorem push_of_le {mark : Mark} (h : limit ≤ S.length) :
    push limit mark t S = .halt (.error (.tooDeeplyNested t limit)) := if_neg (Nat.not_lt.mpr h)

theorem close_replicate (n : Nat) (t : Token) (S : List Mark) :
    close t (List.replicate n .assign ++ S) = close t S := by
  induction n with
  | zero => rfl
  | succ n ih => exact ih

/-- Behind an operand, a token that is no operator closes the assignments on top. -/
theorem step_replicate (limit : Nat) (h : ∀ op, t.kind ≠ .operator op) (n : Nat) (S : List Mark) :
    step limit ⟨.afterOperand, List.replicate n .assign ++ S⟩ t = close t S := by
  change stepAfterOperand _ t = _
  rw [stepAfterOperand]
  split
  · rename_i op hop
    exact absurd hop (h op)
  · exact close_replicate n t S

theorem step_identifier (h : t.kind = .identifier) :
    step limit ⟨.operand, S⟩ t = .go ⟨.afterIdentifier, S⟩ := by
  simp [step, stepOperand, h]

theorem step_openParen (h : t.kind = .openParen) :
    step limit ⟨.operand, S⟩ t = push limit .paren t S := by
  simp [step, stepOperand, h]

theorem step_assign (h : t.kind = .assign) :
    step limit ⟨.afterIdentifier, S⟩ t = push limit .assign t S := if_pos h

theorem step_operator {op : Operator} (h : t.kind = .operator op) :
    step limit ⟨.afterOperand, S⟩ t = .go ⟨.operand, S⟩ := by
  simp [step, stepAfterOperand, h]

theorem step_unexpected (h : t.kind ≠ .number ∧ t.kind ≠ .identifier ∧ t.kind ≠ .openParen) :
    step limit ⟨.operand, S⟩ t = .halt (.error (.unexpected t)) := by
  obtain ⟨hnumber, hidentifier, hopenParen⟩ := h
  cases hkind : t.kind with
  | number => exact absurd hkind hnumber
  | identifier => exact absurd hkind hidentifier
  | openParen => exact absurd hkind hopenParen
  | operator | assign | closeParen | endMarker => simp [step, stepOperand, hkind]

theorem run_assign {u : Token} (ht : t.kind = .identifier) (hu : u.kind = .assign)
    (hS : S.length < limit) (ts : List Token) :
    run limit ⟨.operand, S⟩ (t :: u :: ts) = run limit ⟨.operand, .assign :: S⟩ ts := by
  rw [run_of_go (step_identifier ht), run_of_go ((step_assign hu).trans (push_of_lt hS))]

theorem run_openParen (ht : t.kind = .openParen) (hS : S.length < limit) (ts : List Token) :
    run limit ⟨.operand, S⟩ (t :: ts) = run limit ⟨.operand, .paren :: S⟩ ts :=
  run_of_go ((step_openParen ht).trans (push_of_lt hS)) ts

/-- A name that is not assigned is an operand. -/
theorem run_afterIdentifier (h : t.kind ≠ .assign) (S : List Mark) (ts : List Token) :
    run limit ⟨.afterIdentifier, S⟩ (t :: ts) = run limit ⟨.afterOperand, S⟩ (t :: ts) := by
  have hstep : step limit ⟨.afterIdentifier, S⟩ t = step limit ⟨.afterOperand, S⟩ t := if_neg h
  rw [run, run, hstep]

/-! ## The automaton follows the readers -/

open Parse

/-- Where the automaton stands behind an operand that a reader read at a stack. Assignments in
which the operand ended are still open, and nothing follows that they would take up. -/
def Behind (S : List Mark) (rest : List Token) (s : State) : Prop :=
  ∃ n, s = ⟨.afterOperand, List.replicate n .assign ++ S⟩ ∧
    (n ≠ 0 → Symbol.expression.Stops rest)

/-- From a state, with `us` behind the tokens of a reader, the automaton reports the error of the
reader, or passes what it read. -/
def Settles (limit : Nat) (us : List Token) (S : List Mark) (s : State) (ts : List Token) :
    Result → Prop
  | .error e => run limit s (ts ++ us) = some (.error e)
  | .ok (_, rest) =>
    ∃ next, Behind S rest next ∧ run limit s (ts ++ us) = run limit next (rest ++ us)

/-- What the automaton does for a call at a stack. -/
def Follows (limit : Nat) (us : List Token) (S : List Mark) : Call → List Token → Result → Prop
  | .symbol _, ts, result => Settles limit us S ⟨.operand, S⟩ ts result
  | .more _ _, ts, result => ∀ s, Behind S ts s → Settles limit us S s ts result

/-- The assignment whose value was read is one of those that are still open. -/
theorem Behind.of_assign (h : Behind (.assign :: S) rest s)
    (hrest : Symbol.expression.Stops rest) : Behind S rest s := by
  obtain ⟨n, rfl, -⟩ := h
  refine ⟨n + 1, ?_, fun _ => hrest⟩
  rw [List.replicate_succ', List.append_assoc]
  rfl

/-- In front of an operator nothing is open that the reader has left. -/
theorem Behind.of_operator {op : Operator} (hop : t.kind = .operator op)
    (h : Behind S (t :: ts) s) : s = ⟨.afterOperand, S⟩ := by
  obtain ⟨n, rfl, hn⟩ := h
  obtain rfl : n = 0 := by
    by_contra hne
    exact hn hne t rfl op hop trivial
  rfl

theorem behind_self (S : List Mark) (rest : List Token) : Behind S rest ⟨.afterOperand, S⟩ :=
  ⟨0, rfl, fun h => absurd rfl h⟩

theorem Settles.of_run_eq {us ts' : List Token} {result : Result}
    (h : Settles limit us S next ts' result)
    (hrun : run limit s (ts ++ us) = run limit next (ts' ++ us)) :
    Settles limit us S s ts result := by
  cases result with
  | error e => exact hrun.trans h
  | ok out =>
    obtain ⟨last, hlast, h⟩ := h
    exact ⟨last, hlast, hrun.trans h⟩

/-- What is closed by a last token goes on with that token where nothing else is left. -/
theorem exists_append_cons_eq (ts : List Token) (stop : Token) (after : List Token) :
    ∃ us, ts ++ stop :: after = ts.headD stop :: us := by
  cases ts with
  | nil => exact ⟨after, rfl⟩
  | cons t ts => exact ⟨_, rfl⟩

theorem headD_of_head? {P : Token → Prop} (h : ∀ t ∈ ts.head?, P t) (hstop : P stop) :
    P (ts.headD stop) := by
  cases ts with
  | nil => exact hstop
  | cons t ts => exact h t rfl

theorem stops_of_reads {levels : Nat} {X : Symbol} {tree : Expr}
    (h : Reads limit stop levels (.symbol X) ts (.ok (tree, rest))) : X.Stops rest := by
  obtain ⟨D, hD⟩ := h.derived rfl
  exact hD.stops

/-- No operator stands behind an expression. -/
theorem not_operator_headD (h : Symbol.expression.Stops rest) (hstop : stop.kind = .endMarker) :
    ∀ op, (rest.headD stop).kind ≠ .operator op := by
  refine headD_of_head? (P := fun t => ∀ op, t.kind ≠ .operator op) ?_ ?_
  · exact fun t ht op hop => h t ht op hop trivial
  · exact fun op hop => Token.Kind.noConfusion (hstop.symm.trans hop)

/-- The automaton passes what a reader reads, and reports its errors. -/
theorem reads_settles {levels : Nat} {call : Call} {result : Result} (after : List Token)
    (hstop : stop.kind = .endMarker) (h : Reads limit stop levels call ts result)
    (hS : S.length + levels = limit) : Follows limit (stop :: after) S call ts result := by
  induction h generalizing S with
  | number kind numeral =>
    refine ⟨_, behind_self S _, run_of_go ?_ _⟩
    simp [step, stepOperand, kind, numeral]
  | tooLarge kind numeral =>
    refine run_of_halt ?_ _
    simp [step, stepOperand, kind, numeral]
  | @name levels t ts kind hts =>
    refine ⟨_, behind_self S ts, ?_⟩
    obtain ⟨us, hus⟩ := exists_append_cons_eq ts stop after
    have hhead : (ts.headD stop).kind ≠ .assign :=
      headD_of_head? (P := fun t => t.kind ≠ .assign) hts (by simp [hstop])
    rw [List.cons_append, run_of_go (step_identifier kind), hus]
    exact run_afterIdentifier hhead S us
  | assign kind sign_kind hvalue ih =>
    obtain ⟨next, hnext, hrun⟩ := ih (S := .assign :: S) (by simp; omega)
    refine ⟨next, hnext.of_assign (stops_of_reads hvalue), ?_⟩
    exact (run_assign kind sign_kind (by omega) _).trans hrun
  | assignError kind sign_kind _ ih =>
    have herror := ih (S := .assign :: S) (by simp; omega)
    exact (run_assign kind sign_kind (by omega) _).trans herror
  | assignTooDeep kind sign_kind =>
    have hdepth : limit ≤ S.length := by omega
    refine (run_of_go (step_identifier kind) _).trans ?_
    exact run_of_halt ((step_assign sign_kind).trans (push_of_le hdepth)) _
  | @group levels t u ts rest inner kind closing_kind _ ih =>
    obtain ⟨_, ⟨n, rfl, -⟩, hrun⟩ := ih (S := .paren :: S) (by simp; omega)
    refine ⟨_, behind_self S rest, ?_⟩
    have hclose : close u (.paren :: S) = .go ⟨.afterOperand, S⟩ := if_pos closing_kind
    have hstep := (step_replicate limit (by simp [closing_kind]) n (.paren :: S)).trans hclose
    exact (run_openParen kind (by omega) _).trans (hrun.trans (run_of_go hstep _))
  | @unclosed levels t ts rest inner kind hrest hinner ih =>
    obtain ⟨_, ⟨n, rfl, -⟩, hrun⟩ := ih (S := .paren :: S) (by simp; omega)
    obtain ⟨us, hus⟩ := exists_append_cons_eq rest stop after
    have hoperator := not_operator_headD (stops_of_reads hinner) hstop
    have hhead : (rest.headD stop).kind ≠ .closeParen :=
      headD_of_head? (P := fun t => t.kind ≠ .closeParen) hrest (by simp [hstop])
    have hclose : close (rest.headD stop) (.paren :: S) =
      .halt (.error (.expected .closeParen (rest.headD stop))) := if_neg hhead
    have hstep := (step_replicate limit hoperator n (.paren :: S)).trans hclose
    rw [hus] at hrun
    exact (run_openParen kind (by omega) _).trans (hrun.trans (run_of_halt hstep us))
  | groupError kind _ ih =>
    have herror := ih (S := .paren :: S) (by simp; omega)
    exact (run_openParen kind (by omega) _).trans herror
  | groupTooDeep kind =>
    have hdepth : limit ≤ S.length := by omega
    exact run_of_halt ((step_openParen kind).trans (push_of_le hdepth)) _
  | @unexpected levels ts hts =>
    obtain ⟨us, hus⟩ := exists_append_cons_eq ts stop after
    have hhead : (ts.headD stop).kind ≠ .number ∧ (ts.headD stop).kind ≠ .identifier ∧
        (ts.headD stop).kind ≠ .openParen :=
      headD_of_head? (P := fun t => t.kind ≠ .number ∧ t.kind ≠ .identifier ∧ t.kind ≠ .openParen)
        hts (by simp [hstop])
    exact (congrArg (run limit ⟨.operand, S⟩) hus).trans (run_of_halt (step_unexpected hhead) us)
  | chain _ _ ihfirst ihmore =>
    obtain ⟨next, hnext, hrun⟩ := ihfirst hS
    exact (ihmore hS next hnext).of_run_eq hrun
  | firstError _ ih => exact ih hS
  | done _ => exact fun s hs => ⟨s, hs, rfl⟩
  | more hop _ _ ihright ihmore =>
    intro s hs
    have hkind := (operator?_eq_some_iff.mp hop).1
    obtain rfl := hs.of_operator hkind
    obtain ⟨next, hnext, hrun⟩ := ihright hS
    exact (ihmore hS next hnext).of_run_eq ((run_of_go (step_operator hkind) _).trans hrun)
  | rightError hop _ ih =>
    intro s hs
    have hkind := (operator?_eq_some_iff.mp hop).1
    obtain rfl := hs.of_operator hkind
    exact (run_of_go (step_operator hkind) _).trans (ih hS)

/-! ## Whole lists of tokens -/

/-- The automaton and the parser come to the same verdict. -/
theorem run_closed_eq_parseWithin (limit : Nat) (tokens : List Token) :
    run limit start (Sentence.closed tokens) =
      some ((parseWithin limit tokens).map fun _ => ()) := by
  have hstop := Sentence.kind_stop tokens
  obtain ⟨after, hclosed⟩ := Sentence.exists_closed_eq tokens
  obtain ⟨result, h⟩ : ∃ result, Reads limit (Sentence.ofTokens tokens).stop limit
      (.symbol .expression) (Sentence.ofTokens tokens).body result := exists_reads ..
  have hsettles : Settles limit _ [] start _ result :=
    reads_settles after hstop h (Nat.zero_add limit)
  rw [hclosed, parseWithin_eq, result_of_reads h]
  cases result with
  | error e => exact hsettles
  | ok out =>
    obtain ⟨tree, rest⟩ := out
    obtain ⟨_, ⟨n, rfl, -⟩, hrun⟩ := hsettles
    obtain ⟨us, hus⟩ := exists_append_cons_eq rest (Sentence.ofTokens tokens).stop after
    have hoperator := not_operator_headD (stops_of_reads h) hstop
    rw [hus, run_of_halt (step_replicate limit hoperator n [])] at hrun
    rw [hrun]
    cases rest with
    | nil => exact congrArg some (if_pos hstop)
    | cons t rest =>
      obtain ⟨D, hD⟩ := h.derived rfl
      have hmem : t ∈ (Sentence.ofTokens tokens).body := by simp [← hD.tokens_append]
      exact congrArg some (if_neg (Sentence.not_endMarker_of_mem hmem))

end Automaton

end Reckoner
