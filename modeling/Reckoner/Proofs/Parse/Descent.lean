import Reckoner.Proofs.Parse.EndMarker
import Mathlib.Computability.StateTransition

/-!
# Recursive descent, step by step

The readers of an expression as a machine: a position among the tokens, the number of levels that
are open, and the calls that have not returned, each with what it goes on with. Levels are counted
up at the token that opens them and down behind the expression inside; an error leaves the count as
it is and passes through all calls. Two tasks are never to arise: leaving a level where none is
open, and taking a token as an operator that is none. The machine breaks down at them.

* `Descent.step_eq_some_iff`: the steps of the machine follow its rules, `Descent.Moves`.
* `Descent.reads_returns`: a call of the machine comes to what its reader reads.
* `Descent.Moves.sound`: what every state keeps.
* `Descent.descent_invariants`: neither task arises, a call consumes at least one token and leaves
  the count of levels as it was, and the machine ends with the result of parsing.
-/

namespace Reckoner

open StateTransition

namespace Descent

/-- What a call goes on with when the call inside it returns. -/
inductive Frame
  /-- A chain, with its first operand. -/
  | first (level : Precedence)
  /-- A chain, with the right operand of an operator. -/
  | right (level : Precedence) (op : Operator) (left : Expr)
  /-- A factor, with the value of the assignment that opened a level. -/
  | value (name : String)
  /-- A factor, with the expression behind the parenthesis that opened a level. -/
  | inner
  deriving DecidableEq

/-- The call stands between opening a level and leaving it. -/
def Frame.holdsLevel : Frame → Bool
  | value _ | inner => true
  | first _ | right .. => false

/-- What is to be done next. -/
inductive Task
  /-- A symbol is called for. -/
  | call (X : Symbol)
  /-- A name was read, and may be assigned. -/
  | name (s : String)
  /-- A token opens a level, for a call that then waits in the frame. -/
  | enter (opener : Token) (frame : Frame)
  /-- The level of the last call is left, and the call returns. -/
  | leave (tree : Expr)
  /-- A chain looks for an operator. -/
  | look (level : Precedence) (left : Expr)
  /-- A chain takes the next token as an operator. -/
  | operate (level : Precedence) (left : Expr)
  /-- A call has returned. -/
  | give (tree : Expr)
  /-- A call has failed. -/
  | raise (error : ParseError)
  /-- All calls have returned. -/
  | done (result : Except ParseError Expr)
  | broken
  deriving DecidableEq

/-- The position among the tokens, the number of open levels as it is counted, the calls that have
not returned, the last one first, and the task. -/
structure State where
  position : Nat
  depth : Nat
  frames : List Frame
  task : Task
  deriving DecidableEq

/-- The calls that stand between opening a level and leaving it. -/
def State.levels (s : State) : Nat := s.frames.countP Frame.holdsLevel

/-- Before anything is read, an expression is called for. -/
def start : State := ⟨0, 0, [], .call .expression⟩

variable (limit : Nat) (tokens : List Token)

/-- The next token, or an end marker behind the last one. -/
def peek (position : Nat) : Token :=
  tokens[position]?.getD (.endMarker (Sentence.placeAfter tokens))

/-- The position behind the next token. Behind the last one it stays. -/
def advance (position : Nat) : Nat :=
  if position < tokens.length then position + 1 else position

/-- A call for a factor. -/
def stepFactor (p d : Nat) (fs : List Frame) : State :=
  let t := peek tokens p
  match t.kind with
  | .number =>
    match Value.ofNumeral? t.lexeme with
    | some v => ⟨advance tokens p, d, fs, .give (.literal v)⟩
    | none => ⟨advance tokens p, d, fs, .raise (.tooLarge t)⟩
  | .identifier => ⟨advance tokens p, d, fs, .name t.lexeme⟩
  | .openParen => ⟨advance tokens p, d, fs, .enter t .inner⟩
  | _ => ⟨p, d, fs, .raise (.unexpected t)⟩

/-- The return of a call to the one before it. -/
def stepReturn (p d : Nat) (tree : Expr) : List Frame → State
  | .first level :: fs => ⟨p, d, fs, .look level tree⟩
  | .right level op left :: fs => ⟨p, d, fs, .look level (.binary op left tree)⟩
  | .value name :: fs => ⟨p, d, .value name :: fs, .leave (.assign name tree)⟩
  | .inner :: fs =>
    let t := peek tokens p
    if t.kind = .closeParen then ⟨advance tokens p, d, .inner :: fs, .leave tree⟩
    else ⟨p, d, .inner :: fs, .raise (.expected .closeParen t)⟩
  | [] =>
    let t := peek tokens p
    if t.kind = .endMarker then ⟨p, d, [], .done (.ok tree)⟩
    else ⟨p, d, [], .raise (.trailing t)⟩

/-- One step of the machine. -/
def step : State → Option State
  | ⟨p, d, fs, .call (.chain level)⟩ => some ⟨p, d, .first level :: fs, .call level.operand⟩
  | ⟨p, d, fs, .call .factor⟩ => some (stepFactor tokens p d fs)
  | ⟨p, d, fs, .name s⟩ =>
    let t := peek tokens p
    if t.kind = .assign then some ⟨advance tokens p, d, fs, .enter t (.value s)⟩
    else some ⟨p, d, fs, .give (.var s)⟩
  | ⟨p, d, fs, .enter opener frame⟩ =>
    if limit ≤ d then some ⟨p, d, fs, .raise (.tooDeeplyNested opener limit)⟩
    else some ⟨p, d + 1, frame :: fs, .call .expression⟩
  | ⟨p, d, fs, .leave tree⟩ =>
    if d = 0 then some ⟨p, d, fs, .broken⟩ else some ⟨p, d - 1, fs.tail, .give tree⟩
  | ⟨p, d, fs, .look level left⟩ =>
    if (Parse.operator? level (peek tokens p)).isSome then some ⟨p, d, fs, .operate level left⟩
    else some ⟨p, d, fs, .give left⟩
  | ⟨p, d, fs, .operate level left⟩ =>
    match (peek tokens p).kind with
    | .operator op => some ⟨advance tokens p, d, .right level op left :: fs, .call level.operand⟩
    | _ => some ⟨advance tokens p, d, fs, .broken⟩
  | ⟨p, d, fs, .give tree⟩ => some (stepReturn tokens p d tree fs)
  | ⟨p, d, _ :: fs, .raise error⟩ => some ⟨p, d, fs, .raise error⟩
  | ⟨p, d, [], .raise error⟩ => some ⟨p, d, [], .done (.error error)⟩
  | ⟨_, _, _, .done _⟩ | ⟨_, _, _, .broken⟩ => none

/-! ## The rules -/

/-- The rules of the machine, one for each way that a task can go on. -/
inductive Moves : State → State → Prop
  | chain {p d : Nat} {fs : List Frame} {level : Precedence} :
    Moves ⟨p, d, fs, .call (.chain level)⟩ ⟨p, d, .first level :: fs, .call level.operand⟩
  | number {p d : Nat} {fs : List Frame} {v : Value} :
    (peek tokens p).kind = .number → Value.ofNumeral? (peek tokens p).lexeme = some v →
    Moves ⟨p, d, fs, .call .factor⟩ ⟨advance tokens p, d, fs, .give (.literal v)⟩
  | tooLarge {p d : Nat} {fs : List Frame} :
    (peek tokens p).kind = .number → Value.ofNumeral? (peek tokens p).lexeme = none →
    Moves ⟨p, d, fs, .call .factor⟩
      ⟨advance tokens p, d, fs, .raise (.tooLarge (peek tokens p))⟩
  | identifier {p d : Nat} {fs : List Frame} :
    (peek tokens p).kind = .identifier →
    Moves ⟨p, d, fs, .call .factor⟩ ⟨advance tokens p, d, fs, .name (peek tokens p).lexeme⟩
  | openParen {p d : Nat} {fs : List Frame} :
    (peek tokens p).kind = .openParen →
    Moves ⟨p, d, fs, .call .factor⟩ ⟨advance tokens p, d, fs, .enter (peek tokens p) .inner⟩
  | unexpected {p d : Nat} {fs : List Frame} :
    ((peek tokens p).kind ≠ .number ∧ (peek tokens p).kind ≠ .identifier ∧
      (peek tokens p).kind ≠ .openParen) →
    Moves ⟨p, d, fs, .call .factor⟩ ⟨p, d, fs, .raise (.unexpected (peek tokens p))⟩
  | assign {p d : Nat} {fs : List Frame} {s : String} :
    (peek tokens p).kind = .assign →
    Moves ⟨p, d, fs, .name s⟩ ⟨advance tokens p, d, fs, .enter (peek tokens p) (.value s)⟩
  | var {p d : Nat} {fs : List Frame} {s : String} :
    (peek tokens p).kind ≠ .assign → Moves ⟨p, d, fs, .name s⟩ ⟨p, d, fs, .give (.var s)⟩
  | enter {p d : Nat} {fs : List Frame} {opener : Token} {frame : Frame} :
    d < limit →
    Moves ⟨p, d, fs, .enter opener frame⟩ ⟨p, d + 1, frame :: fs, .call .expression⟩
  | tooDeep {p d : Nat} {fs : List Frame} {opener : Token} {frame : Frame} :
    limit ≤ d →
    Moves ⟨p, d, fs, .enter opener frame⟩ ⟨p, d, fs, .raise (.tooDeeplyNested opener limit)⟩
  | leave {p d : Nat} {fs : List Frame} {tree : Expr} :
    Moves ⟨p, d + 1, fs, .leave tree⟩ ⟨p, d, fs.tail, .give tree⟩
  | underflow {p : Nat} {fs : List Frame} {tree : Expr} :
    Moves ⟨p, 0, fs, .leave tree⟩ ⟨p, 0, fs, .broken⟩
  | operator {p d : Nat} {fs : List Frame} {level : Precedence} {left : Expr} {op : Operator} :
    Parse.operator? level (peek tokens p) = some op →
    Moves ⟨p, d, fs, .look level left⟩ ⟨p, d, fs, .operate level left⟩
  | noOperator {p d : Nat} {fs : List Frame} {level : Precedence} {left : Expr} :
    Parse.operator? level (peek tokens p) = none →
    Moves ⟨p, d, fs, .look level left⟩ ⟨p, d, fs, .give left⟩
  | operate {p d : Nat} {fs : List Frame} {level : Precedence} {left : Expr} {op : Operator} :
    (peek tokens p).kind = .operator op →
    Moves ⟨p, d, fs, .operate level left⟩
      ⟨advance tokens p, d, .right level op left :: fs, .call level.operand⟩
  | misread {p d : Nat} {fs : List Frame} {level : Precedence} {left : Expr} :
    (∀ op, (peek tokens p).kind ≠ .operator op) →
    Moves ⟨p, d, fs, .operate level left⟩ ⟨advance tokens p, d, fs, .broken⟩
  | first {p d : Nat} {fs : List Frame} {level : Precedence} {tree : Expr} :
    Moves ⟨p, d, .first level :: fs, .give tree⟩ ⟨p, d, fs, .look level tree⟩
  | right {p d : Nat} {fs : List Frame} {level : Precedence} {op : Operator} {left tree : Expr} :
    Moves ⟨p, d, .right level op left :: fs, .give tree⟩
      ⟨p, d, fs, .look level (.binary op left tree)⟩
  | value {p d : Nat} {fs : List Frame} {s : String} {tree : Expr} :
    Moves ⟨p, d, .value s :: fs, .give tree⟩ ⟨p, d, .value s :: fs, .leave (.assign s tree)⟩
  | closeParen {p d : Nat} {fs : List Frame} {tree : Expr} :
    (peek tokens p).kind = .closeParen →
    Moves ⟨p, d, .inner :: fs, .give tree⟩ ⟨advance tokens p, d, .inner :: fs, .leave tree⟩
  | unclosed {p d : Nat} {fs : List Frame} {tree : Expr} :
    (peek tokens p).kind ≠ .closeParen →
    Moves ⟨p, d, .inner :: fs, .give tree⟩
      ⟨p, d, .inner :: fs, .raise (.expected .closeParen (peek tokens p))⟩
  | finish {p d : Nat} {tree : Expr} :
    (peek tokens p).kind = .endMarker →
    Moves ⟨p, d, [], .give tree⟩ ⟨p, d, [], .done (.ok tree)⟩
  | trailing {p d : Nat} {tree : Expr} :
    (peek tokens p).kind ≠ .endMarker →
    Moves ⟨p, d, [], .give tree⟩ ⟨p, d, [], .raise (.trailing (peek tokens p))⟩
  | unwind {p d : Nat} {f : Frame} {fs : List Frame} {e : ParseError} :
    Moves ⟨p, d, f :: fs, .raise e⟩ ⟨p, d, fs, .raise e⟩
  | fail {p d : Nat} {e : ParseError} :
    Moves ⟨p, d, [], .raise e⟩ ⟨p, d, [], .done (.error e)⟩

variable {limit tokens} {s s' : State}

theorem Moves.step_eq (h : Moves limit tokens s s') : step limit tokens s = some s' := by
  cases h with
  | number kind numeral | tooLarge kind numeral => simp [step, stepFactor, kind, numeral]
  | identifier kind | openParen kind => simp [step, stepFactor, kind]
  | unexpected kind =>
    obtain ⟨h₁, h₂, h₃⟩ := kind
    simp only [step, stepFactor]
  | assign kind => simp [step, kind]
  | var kind => simp [step, kind]
  | enter h => simp [step, Nat.not_le.mpr h]
  | tooDeep h => simp [step, h]
  | operator h | noOperator h => simp [step, h]
  | operate h => simp [step, h]
  | misread h => simp only [step]
  | closeParen h | unclosed h | finish h | trailing h => simp [step, stepReturn, h]
  | chain | leave | underflow | first | right | value | unwind | fail => rfl

theorem moves_stepFactor (p d : Nat) (fs : List Frame) :
    Moves limit tokens ⟨p, d, fs, .call .factor⟩ (stepFactor tokens p d fs) := by
  simp only [stepFactor]
  split
  · rename_i kind
    split
    · rename_i numeral
      exact .number kind numeral
    · rename_i numeral
      exact .tooLarge kind numeral
  · rename_i kind
    exact .identifier kind
  · rename_i kind
    exact .openParen kind
  · rename_i h₁ h₂ h₃
    exact .unexpected ⟨h₁, h₂, h₃⟩

theorem moves_stepReturn (p d : Nat) (tree : Expr) (fs : List Frame) :
    Moves limit tokens ⟨p, d, fs, .give tree⟩ (stepReturn tokens p d tree fs) := by
  cases fs with
  | nil =>
    simp only [stepReturn]
    split
    · rename_i kind
      exact .finish kind
    · rename_i kind
      exact .trailing kind
  | cons f fs =>
    cases f with
    | first level => exact .first
    | right level op left => exact .right
    | value s => exact .value
    | inner =>
      simp only [stepReturn]
      split
      · rename_i kind
        exact .closeParen kind
      · rename_i kind
        exact .unclosed kind

theorem moves_of_step (h : step limit tokens s = some s') : Moves limit tokens s s' := by
  obtain ⟨p, d, fs, task⟩ := s
  cases task with
  | call X =>
    cases X with
    | factor =>
      cases h
      exact moves_stepFactor p d fs
    | chain level =>
      cases h
      exact .chain
  | name t =>
    simp only [step] at h
    split at h <;> cases h
    · rename_i kind
      exact .assign kind
    · rename_i kind
      exact .var kind
  | enter opener frame =>
    simp only [step] at h
    split at h <;> cases h
    · rename_i hle
      exact .tooDeep hle
    · rename_i hle
      exact .enter (Nat.not_le.mp hle)
  | leave tree =>
    cases d with
    | zero =>
      cases h
      exact .underflow
    | succ d =>
      cases h
      exact .leave
  | look level left =>
    simp only [step] at h
    cases hop : Parse.operator? level (peek tokens p) with
    | none =>
      rw [hop] at h
      cases h
      exact .noOperator hop
    | some op =>
      rw [hop] at h
      cases h
      exact .operator hop
  | operate level left =>
    simp only [step] at h
    split at h <;> cases h
    · rename_i kind
      exact .operate kind
    · rename_i kind
      exact .misread kind
  | give tree =>
    cases h
    exact moves_stepReturn p d tree fs
  | raise e =>
    cases fs with
    | nil =>
      cases h
      exact .fail
    | cons f fs =>
      cases h
      exact .unwind
  | done result => cases h
  | broken => cases h

/-- The steps of the machine follow its rules. -/
theorem step_eq_some_iff : step limit tokens s = some s' ↔ Moves limit tokens s s' :=
  ⟨moves_of_step, Moves.step_eq⟩

theorem Moves.reaches (h : Moves limit tokens s s') : Reaches (step limit tokens) s s' :=
  .single h.step_eq

/-! ## The next token -/

section

variable {p : Nat} {t : Token} {ts : List Token}

theorem peek_eq_headD (tokens : List Token) (p : Nat) :
    peek tokens p = (tokens.drop p).headD (.endMarker (Sentence.placeAfter tokens)) := by
  rw [peek, ← List.head?_drop, List.headD_eq_head?_getD]

theorem peek_of_drop (h : tokens.drop p = t :: ts) : peek tokens p = t := by
  rw [peek_eq_headD, h]
  rfl

theorem advance_of_getElem? (h : tokens[p]? = some t) : advance tokens p = p + 1 :=
  if_pos (List.getElem?_eq_some_iff.mp h).1

theorem drop_advance (h : tokens.drop p = t :: ts) : tokens.drop (advance tokens p) = ts := by
  have hp : tokens[p]? = some t := by
    rw [← List.head?_drop, h]
    rfl
  rw [advance_of_getElem? hp, ← List.tail_drop, h]
  rfl

/-- What holds of a first token and of the end marker holds of the next token. -/
theorem peek_of_head? {P : Token → Prop} (hdrop : tokens.drop p = ts) (h : ∀ t ∈ ts.head?, P t)
    (hstop : P (.endMarker (Sentence.placeAfter tokens))) : P (peek tokens p) := by
  rw [peek_eq_headD, hdrop]
  cases ts with
  | nil => exact hstop
  | cons t ts => exact h t rfl

/-- A token that is no end marker stands at the position. -/
theorem getElem?_of_kind (h : (peek tokens p).kind ≠ .endMarker) :
    tokens[p]? = some (peek tokens p) := by
  cases hp : tokens[p]? with
  | none =>
    rw [peek, hp] at h
    exact absurd rfl h
  | some t => rw [peek, hp, Option.getD_some]

end

/-! ## Calls return as their readers do -/

/-- The task of a call. -/
def Task.ofCall : Parse.Call → Task
  | .symbol X => .call X
  | .more level left => .look level left

/-- A call has returned to the calls before it, or failed there. -/
def Returns (limit : Nat) (tokens : List Token) (s : State) : Parse.Result → Prop
  | .ok (tree, rest) => ∃ p, tokens.drop p = rest ∧
      Reaches (step limit tokens) s ⟨p, s.depth, s.frames, .give tree⟩
  | .error e => ∃ p d, Reaches (step limit tokens) s ⟨p, d, s.frames, .raise e⟩

section

variable {p p' d d' levels : Nat} {f : Frame} {fs : List Frame} {task task' : Task} {tree : Expr}
  {e : ParseError} {ts rest : List Token} {call : Parse.Call} {result : Parse.Result}

theorem Returns.of_reaches (h : Reaches (step limit tokens) ⟨p, d, fs, task⟩ ⟨p', d, fs, task'⟩)
    (hreturns : Returns limit tokens ⟨p', d, fs, task'⟩ result) :
    Returns limit tokens ⟨p, d, fs, task⟩ result := by
  match result, hreturns with
  | .ok (tree, rest), ⟨q, hdrop, hreaches⟩ => exact ⟨q, hdrop, h.trans hreaches⟩
  | .error e, ⟨q, d', hreaches⟩ => exact ⟨q, d', h.trans hreaches⟩

/-- An error passes the call that waits for the one that failed. -/
theorem Returns.unwind
    (h : Reaches (step limit tokens) ⟨p, d, fs, task⟩ ⟨p', d', f :: fs, task'⟩)
    (hreturns : Returns limit tokens ⟨p', d', f :: fs, task'⟩ (.error e)) :
    Returns limit tokens ⟨p, d, fs, task⟩ (.error e) := by
  obtain ⟨q, d'', hreaches⟩ := hreturns
  exact ⟨q, d'', (h.trans hreaches).trans Moves.unwind.reaches⟩

theorem Returns.error (h : Moves limit tokens ⟨p, d, fs, task⟩ ⟨p', d', fs, .raise e⟩) :
    Returns limit tokens ⟨p, d, fs, task⟩ (.error e) :=
  ⟨p', d', h.reaches⟩

/-- A name and the sign of its assignment are passed before the level is opened. -/
theorem reaches_enter_value (fs : List Frame) {t u : Token} (hdrop : tokens.drop p = t :: u :: ts)
    (kind : t.kind = .identifier) (sign_kind : u.kind = .assign) :
    Reaches (step limit tokens) ⟨p, d, fs, .call .factor⟩
      ⟨advance tokens (advance tokens p), d, fs, .enter u (.value t.lexeme)⟩ := by
  have hname := peek_of_drop hdrop
  have hsign := peek_of_drop (drop_advance hdrop)
  rw [← hname] at kind ⊢
  rw [← hsign] at sign_kind ⊢
  exact (Moves.identifier kind).reaches.trans (Moves.assign sign_kind).reaches

theorem reaches_enter_inner (fs : List Frame) {t : Token} (hdrop : tokens.drop p = t :: ts)
    (kind : t.kind = .openParen) :
    Reaches (step limit tokens) ⟨p, d, fs, .call .factor⟩
      ⟨advance tokens p, d, fs, .enter t .inner⟩ := by
  rw [← peek_of_drop hdrop] at kind ⊢
  exact (Moves.openParen kind).reaches

/-- With levels left, a token that opens one leads to the call inside it. -/
theorem reaches_inside {opener : Token}
    (h : Reaches (step limit tokens) s ⟨p, d, fs, .enter opener f⟩)
    (hlevels : d + (levels + 1) = limit) :
    Reaches (step limit tokens) s ⟨p, d + 1, f :: fs, .call .expression⟩ ∧
      d + 1 + levels = limit := by
  have hd : d < limit := by omega
  exact ⟨h.trans (Moves.enter hd).reaches, by omega⟩

/-- An operator of its precedence is taken by a chain. -/
theorem reaches_right {t : Token} {level : Precedence} {op : Operator} {left : Expr}
    (hdrop : tokens.drop p = t :: ts) (hop : Parse.operator? level t = some op) :
    Reaches (step limit tokens) ⟨p, d, fs, .look level left⟩
      ⟨advance tokens p, d, .right level op left :: fs, .call level.operand⟩ := by
  rw [← peek_of_drop hdrop] at hop
  have kind := (Parse.operator?_eq_some_iff.mp hop).1
  exact (Moves.operator hop).reaches.trans (Moves.operate kind).reaches

/-- A call of the machine returns what its reader reads, with the tokens behind it still to come and
the count of levels as it was. It fails where its reader fails. -/
theorem reads_returns
    (h : Parse.Reads limit (.endMarker (Sentence.placeAfter tokens)) levels call ts result)
    (hdrop : tokens.drop p = ts) (hlevels : d + levels = limit) :
    Returns limit tokens ⟨p, d, fs, .ofCall call⟩ result := by
  induction h generalizing p d fs with
  | number kind numeral =>
    rw [← peek_of_drop hdrop] at kind numeral
    exact ⟨_, drop_advance hdrop, (Moves.number kind numeral).reaches⟩
  | tooLarge kind numeral =>
    rw [← peek_of_drop hdrop] at kind numeral ⊢
    exact .error (.tooLarge kind numeral)
  | name kind hts =>
    rw [← peek_of_drop hdrop] at kind ⊢
    have hnext := peek_of_head? (drop_advance hdrop) hts (by simp [Token.endMarker])
    exact ⟨_, drop_advance hdrop,
      (Moves.identifier kind).reaches.trans (Moves.var hnext).reaches⟩
  | assign kind sign_kind _ ih =>
    obtain ⟨henter, hinner⟩ := reaches_inside (reaches_enter_value fs hdrop kind sign_kind) hlevels
    obtain ⟨q, hq, hreaches⟩ := ih (drop_advance (drop_advance hdrop)) hinner
    exact ⟨q, hq, ((henter.trans hreaches).trans Moves.value.reaches).trans Moves.leave.reaches⟩
  | assignError kind sign_kind _ ih =>
    obtain ⟨henter, hinner⟩ := reaches_inside (reaches_enter_value fs hdrop kind sign_kind) hlevels
    exact (ih (drop_advance (drop_advance hdrop)) hinner).unwind henter
  | assignTooDeep kind sign_kind =>
    exact ⟨_, _, (reaches_enter_value fs hdrop kind sign_kind).trans
      (Moves.tooDeep (by omega)).reaches⟩
  | group kind closing_kind _ ih =>
    obtain ⟨henter, hinner⟩ := reaches_inside (reaches_enter_inner fs hdrop kind) hlevels
    obtain ⟨q, hq, hreaches⟩ := ih (drop_advance hdrop) hinner
    rw [← peek_of_drop hq] at closing_kind
    exact ⟨_, drop_advance hq, ((henter.trans hreaches).trans
      (Moves.closeParen closing_kind).reaches).trans Moves.leave.reaches⟩
  | unclosed kind hrest _ ih =>
    obtain ⟨henter, hinner⟩ := reaches_inside (reaches_enter_inner fs hdrop kind) hlevels
    obtain ⟨q, hq, hreaches⟩ := ih (drop_advance hdrop) hinner
    have hnext := peek_of_head? hq hrest (by simp [Token.endMarker])
    rw [← hq, ← peek_eq_headD]
    exact Returns.unwind (henter.trans hreaches) (.error (.unclosed hnext))
  | groupError kind _ ih =>
    obtain ⟨henter, hinner⟩ := reaches_inside (reaches_enter_inner fs hdrop kind) hlevels
    exact (ih (drop_advance hdrop) hinner).unwind henter
  | groupTooDeep kind =>
    exact ⟨_, _, (reaches_enter_inner fs hdrop kind).trans (Moves.tooDeep (by omega)).reaches⟩
  | unexpected hts =>
    have hnext := peek_of_head? hdrop hts (by simp [Token.endMarker])
    rw [← hdrop, ← peek_eq_headD]
    exact .error (.unexpected hnext)
  | chain _ _ ihfirst ihmore =>
    obtain ⟨q, hq, hreaches⟩ := ihfirst hdrop hlevels
    refine (ihmore hq hlevels).of_reaches ?_
    exact (Moves.chain.reaches.trans hreaches).trans Moves.first.reaches
  | firstError _ ih => exact (ih hdrop hlevels).unwind Moves.chain.reaches
  | done hop =>
    have hnext := peek_of_head? hdrop hop (by simp [Parse.operator?, Token.endMarker])
    exact ⟨p, hdrop, (Moves.noOperator hnext).reaches⟩
  | more hop _ _ ihright ihmore =>
    obtain ⟨q, hq, hreaches⟩ := ihright (drop_advance hdrop) hlevels
    refine (ihmore hq hlevels).of_reaches ?_
    exact ((reaches_right hdrop hop).trans hreaches).trans Moves.right.reaches
  | rightError hop _ ih =>
    exact (ih (drop_advance hdrop) hlevels).unwind (reaches_right hdrop hop)

end

/-! ## What is passed -/

/-- The tokens from one position up to another hold no end marker. -/
def Passed (tokens : List Token) (p p' : Nat) : Prop :=
  p ≤ p' ∧ ∀ i t, p ≤ i → i < p' → tokens[i]? = some t → t.kind ≠ .endMarker

theorem Passed.refl (tokens : List Token) (p : Nat) : Passed tokens p p :=
  ⟨le_rfl, fun _ _ hi hlt => absurd hlt (Nat.not_lt.mpr hi)⟩

theorem Passed.trans {p q r : Nat} (hpq : Passed tokens p q) (hqr : Passed tokens q r) :
    Passed tokens p r := by
  refine ⟨hpq.1.trans hqr.1, fun i t hi hlt ht => ?_⟩
  obtain hiq | hiq := Nat.lt_or_ge i q
  · exact hpq.2 i t hi hiq ht
  · exact hqr.2 i t hiq hlt ht

theorem lt_advance {p : Nat} (h : (peek tokens p).kind ≠ .endMarker) : p < advance tokens p := by
  rw [advance_of_getElem? (getElem?_of_kind h)]
  exact Nat.lt_succ_self p

theorem passed_advance {p : Nat} (h : (peek tokens p).kind ≠ .endMarker) :
    Passed tokens p (advance tokens p) := by
  have hp := getElem?_of_kind h
  rw [advance_of_getElem? hp]
  refine ⟨Nat.le_succ p, fun i t hi hlt ht => ?_⟩
  obtain rfl : i = p := by omega
  rw [hp] at ht
  cases ht
  exact h

theorem advance_le {p : Nat} (h : p ≤ tokens.length) : advance tokens p ≤ tokens.length := by
  unfold advance
  split <;> omega

/-- No step but one that breaks the machine down passes an end marker. -/
theorem Moves.passed (h : Moves limit tokens s s') (hbroken : s'.task ≠ .broken) :
    Passed tokens s.position s'.position := by
  cases h with
  | number kind | tooLarge kind | identifier kind | openParen kind | assign kind | operate kind
  | closeParen kind => exact passed_advance (by simp [kind])
  | misread => exact absurd rfl hbroken
  | _ => exact .refl ..

/-! ## What every state keeps -/

/-- An error has been found. -/
def Task.failed : Task → Bool
  | raise _ | done (.error _) => true
  | _ => false

/-- The task can be done with these calls waiting and this token next. -/
def Task.Ready (frames : List Frame) (next : Token) : Task → Prop
  | enter _ frame => frame.holdsLevel
  | leave _ => ∃ f fs, frames = f :: fs ∧ f.holdsLevel
  | operate .. => ∃ op, next.kind = .operator op
  | broken => False
  | _ => True

/-- The machine stands among the tokens and within the limit, and its count of levels is right up to
the first error. -/
structure Sound (limit : Nat) (tokens : List Token) (s : State) : Prop where
  position_le : s.position ≤ tokens.length
  depth_le : s.depth ≤ limit
  depth_eq : s.task.failed = false → s.depth = s.levels
  ready : s.task.Ready s.frames (peek tokens s.position)

theorem sound_start (limit : Nat) (tokens : List Token) : Sound limit tokens start :=
  ⟨Nat.zero_le _, Nat.zero_le _, fun _ => rfl, trivial⟩

section

variable {p p' d : Nat} {f : Frame} {fs : List Frame} {task task' : Task}

/-- A step that leaves the count and the calls as they are. -/
theorem Sound.of_task (h : Sound limit tokens ⟨p, d, fs, task⟩) (htask : task.failed = false)
    (hp : p' ≤ tokens.length) (hready : task'.Ready fs (peek tokens p')) :
    Sound limit tokens ⟨p', d, fs, task'⟩ :=
  ⟨hp, h.depth_le, fun _ => h.depth_eq htask, hready⟩

/-- A step that leaves the count as it is, and a call that holds no level. -/
theorem Sound.push (h : Sound limit tokens ⟨p, d, fs, task⟩) (htask : task.failed = false)
    (hp : p' ≤ tokens.length) (hf : f.holdsLevel = false)
    (hready : task'.Ready (f :: fs) (peek tokens p')) :
    Sound limit tokens ⟨p', d, f :: fs, task'⟩ := by
  refine ⟨hp, h.depth_le, fun _ => ?_, hready⟩
  have hcount : d = fs.countP Frame.holdsLevel := h.depth_eq htask
  simp [State.levels, hf, hcount]

theorem Sound.pop (h : Sound limit tokens ⟨p, d, f :: fs, task⟩) (htask : task.failed = false)
    (hf : f.holdsLevel = false) (hready : task'.Ready fs (peek tokens p)) :
    Sound limit tokens ⟨p, d, fs, task'⟩ := by
  refine ⟨h.position_le, h.depth_le, fun _ => ?_, hready⟩
  have hcount : d = (f :: fs).countP Frame.holdsLevel := h.depth_eq htask
  simpa [State.levels, hf] using hcount

end

theorem Moves.sound (h : Moves limit tokens s s') (hs : Sound limit tokens s) :
    Sound limit tokens s' := by
  have hp := hs.position_le
  have hnext := advance_le hp
  cases h with
  | number | tooLarge | identifier => exact hs.of_task rfl hnext trivial
  | unexpected | var | tooDeep | noOperator | unclosed | finish | trailing =>
    exact hs.of_task rfl hp trivial
  | value => exact hs.of_task rfl hp ⟨_, _, rfl, rfl⟩
  | openParen | assign => exact hs.of_task rfl hnext rfl
  | closeParen => exact hs.of_task rfl hnext ⟨_, _, rfl, rfl⟩
  | operator hop => exact hs.of_task rfl hp ⟨_, (Parse.operator?_eq_some_iff.mp hop).1⟩
  | chain => exact hs.push rfl hp rfl trivial
  | operate => exact hs.push rfl hnext rfl trivial
  | first | right => exact hs.pop rfl rfl trivial
  | unwind | fail => exact ⟨hp, hs.depth_le, nofun, trivial⟩
  | @enter p d fs opener frame hd =>
    have hframe : frame.holdsLevel := hs.ready
    have hcount : d = fs.countP Frame.holdsLevel := hs.depth_eq rfl
    exact ⟨hp, hd, fun _ => by simp [State.levels, hframe, hcount], trivial⟩
  | @leave p d fs tree =>
    obtain ⟨f, fs, rfl, hf⟩ := hs.ready
    have hcount : d + 1 = (f :: fs).countP Frame.holdsLevel := hs.depth_eq rfl
    rw [List.countP_cons_of_pos hf] at hcount
    exact ⟨hp, Nat.le_of_succ_le hs.depth_le, fun _ => Nat.succ.inj hcount, trivial⟩
  | underflow =>
    -- the call that opened the level still waits, and is counted
    obtain ⟨f, fs, rfl, hf⟩ := hs.ready
    have hcount : 0 = (f :: fs).countP Frame.holdsLevel := hs.depth_eq rfl
    rw [List.countP_cons_of_pos hf] at hcount
    exact absurd hcount.symm (Nat.succ_ne_zero _)
  | misread h =>
    obtain ⟨op, hop⟩ := hs.ready
    exact absurd hop (h op)

theorem Sound.of_reaches (hs : Sound limit tokens s) (h : Reaches (step limit tokens) s s') :
    Sound limit tokens s' := by
  induction h with
  | refl => exact hs
  | tail _ hstep ih => exact (step_eq_some_iff.mp hstep).sound ih

theorem Sound.ne_broken (hs : Sound limit tokens s) : s.task ≠ .broken := by
  intro hbroken
  have hready := hs.ready
  rw [hbroken] at hready
  exact hready

/-- What a sound run passes holds no end marker. -/
theorem Sound.passed (hs : Sound limit tokens s) (h : Reaches (step limit tokens) s s') :
    Passed tokens s.position s'.position := by
  induction h with
  | refl => exact .refl ..
  | tail hreaches hstep ih =>
    have hmoves := step_eq_some_iff.mp hstep
    exact ih.trans (hmoves.passed (hmoves.sound (hs.of_reaches hreaches)).ne_broken)

/-! ## What a call consumes -/

/-- A call is on its way to its first token, or has passed it, or has failed. -/
def Begun (p : Nat) (s : State) : Prop :=
  p < s.position ∨ (p = s.position ∧ ∃ X, s.task = .call X) ∨ s.task.failed

theorem Moves.begun {p : Nat} (h : Moves limit tokens s s') (hbroken : s'.task ≠ .broken)
    (hs : Begun p s) : Begun p s' := by
  obtain hlt | ⟨rfl, X, hX⟩ | hfailed := hs
  · exact .inl (hlt.trans_le (h.passed hbroken).1)
  · cases h with
    | number kind | tooLarge kind | identifier kind | openParen kind =>
      exact .inl (lt_advance (by simp [kind]))
    | chain => exact .inr (.inl ⟨rfl, _, rfl⟩)
    | unexpected => exact .inr (.inr rfl)
    | _ => cases hX
  · cases h with
    | unwind | fail => exact .inr (.inr rfl)
    | _ => cases hfailed

theorem Sound.begun {X : Symbol} (hs : Sound limit tokens s) (hcall : s.task = .call X)
    (h : Reaches (step limit tokens) s s') : Begun s.position s' := by
  induction h with
  | refl => exact .inr (.inl ⟨rfl, X, hcall⟩)
  | tail hreaches hstep ih =>
    have hmoves := step_eq_some_iff.mp hstep
    exact hmoves.begun (hmoves.sound (hs.of_reaches hreaches)).ne_broken ih

/-- A call that has returned has passed a token and left the count of levels as it was. -/
theorem Sound.returned {X : Symbol} {tree : Expr} (hs : Sound limit tokens s)
    (hcall : s.task = .call X) (h : Reaches (step limit tokens) s s')
    (hframes : s'.frames = s.frames) (hgive : s'.task = .give tree) :
    s.position < s'.position ∧ s'.depth = s.depth := by
  have hdepth : s.depth = s.levels := hs.depth_eq (by rw [hcall]; rfl)
  have hdepth' : s'.depth = s'.levels := (hs.of_reaches h).depth_eq (by rw [hgive]; rfl)
  refine ⟨?_, by rw [hdepth, hdepth', State.levels, State.levels, hframes]⟩
  obtain hlt | ⟨-, Y, hY⟩ | hfailed := hs.begun hcall h
  · exact hlt
  · rw [hgive] at hY
    cases hY
  · rw [hgive] at hfailed
    cases hfailed

/-! ## The machine comes to rest -/

theorem result_returns {X : Symbol} (hs : Sound limit tokens s) (hcall : s.task = .call X) :
    Returns limit tokens s ((Parse.Call.symbol X).result limit
      (.endMarker (Sentence.placeAfter tokens)) (limit - s.depth) (tokens.drop s.position)) := by
  obtain ⟨p, d, fs, task⟩ := s
  obtain rfl : task = .call X := hcall
  exact reads_returns (Parse.result_eq_iff.mp rfl) rfl (Nat.add_sub_of_le hs.depth_le)

/-- A run from the start ends with the result of parsing. -/
theorem exists_mem_eval (limit : Nat) (tokens : List Token) :
    ∃ s ∈ eval (step limit tokens) start, s.task = .done (parseWithin limit tokens) := by
  obtain ⟨result, hreads⟩ : ∃ result, Parse.Reads limit (.endMarker (Sentence.placeAfter tokens))
      limit (.symbol .expression) tokens result := Parse.exists_reads ..
  have hparse := parseInPlace_of_reads hreads
  rw [parseInPlace_eq] at hparse
  have hreturns : Returns limit tokens start result :=
    reads_returns hreads List.drop_zero (Nat.zero_add limit)
  suffices ∃ p d, Reaches (step limit tokens) start ⟨p, d, [], .done (parseWithin limit tokens)⟩ by
    obtain ⟨p, d, hreaches⟩ := this
    exact ⟨_, mem_eval.mpr ⟨hreaches, rfl⟩, rfl⟩
  rw [hparse]
  match result, hreturns with
  | .error e, ⟨p, d, hreaches⟩ => exact ⟨p, d, hreaches.trans Moves.fail.reaches⟩
  | .ok (tree, rest), ⟨p, hdrop, hreaches⟩ =>
    simp only [Except.bind, ← hdrop, ← peek_eq_headD]
    split
    · rename_i kind
      exact ⟨p, 0, hreaches.trans (Moves.finish kind).reaches⟩
    · rename_i kind
      exact ⟨p, 0, (hreaches.trans (Moves.trailing kind).reaches).trans Moves.fail.reaches⟩

/-- In every state of a run the position is among the tokens and the count of levels within the
limit, and until an error is found the count is that of the calls that stand between opening a level
and leaving it. No level is left where none is open, and no token taken as an operator that is none.
A call comes to the result of its reader, returned or failed. Returned, it has passed at least one
token, none of them an end marker, and the count is what it was. The run ends, with the result of
parsing. -/
theorem descent_invariants (limit : Nat) (tokens : List Token) :
    (∀ s, Reaches (step limit tokens) start s →
      s.position ≤ tokens.length ∧ s.depth ≤ limit ∧
      (s.task.failed = false → s.depth = s.levels) ∧ s.task ≠ .broken ∧
      ∀ X, s.task = .call X →
        Returns limit tokens s ((Parse.Call.symbol X).result limit
          (.endMarker (Sentence.placeAfter tokens)) (limit - s.depth) (tokens.drop s.position)) ∧
        ∀ s' tree, Reaches (step limit tokens) s s' → s'.frames = s.frames →
          s'.task = .give tree →
            s.position < s'.position ∧ s'.depth = s.depth ∧
            ∀ i t, s.position ≤ i → i < s'.position → tokens[i]? = some t →
              t.kind ≠ .endMarker) ∧
    ∃ s ∈ eval (step limit tokens) start, s.task = .done (parseWithin limit tokens) := by
  refine ⟨fun s hreaches => ?_, exists_mem_eval limit tokens⟩
  have hs := (sound_start limit tokens).of_reaches hreaches
  refine ⟨hs.position_le, hs.depth_le, hs.depth_eq, hs.ne_broken, fun X hcall => ?_⟩
  refine ⟨result_returns hs hcall, fun s' tree h hframes hgive => ?_⟩
  obtain ⟨hposition, hdepth⟩ := hs.returned hcall h hframes hgive
  exact ⟨hposition, hdepth, (hs.passed h).2⟩

/-- A name in parentheses. -/
def groupedName : List Token :=
  [⟨.openParen, "(", .initial⟩, ⟨.identifier, "x", .initial⟩, ⟨.closeParen, ")", .initial⟩]

/-- The first factor of an expression is called for. -/
def firstFactor : State := ⟨0, 0, [.first .multiplicative, .first .additive], .call .factor⟩

theorem descent_invariants_groupedName :
    Reaches (step 1 groupedName) start firstFactor ∧
    (∃ p, Reaches (step 1 groupedName) firstFactor ⟨p, 0, firstFactor.frames, .give (.var "x")⟩ ∧
      groupedName.drop p = [] ∧ 0 < p ∧
      ∀ i t, 0 ≤ i → i < p → groupedName[i]? = some t → t.kind ≠ .endMarker) ∧
    ∃ s ∈ eval (step 1 groupedName) start, s.task = .done (.ok (.var "x")) := by
  have hfirst : Reaches (step 1 groupedName) start firstFactor :=
    Moves.chain.reaches.trans Moves.chain.reaches
  have hresult : (Parse.Call.symbol .factor).result 1
      (.endMarker (Sentence.placeAfter groupedName)) 1 groupedName = .ok (.var "x", []) := by
    decide +kernel
  have hparse : parseWithin 1 groupedName = .ok (.var "x") := by decide +kernel
  obtain ⟨hstates, s, hs, hdone⟩ := descent_invariants 1 groupedName
  obtain ⟨hreturns, hcall⟩ := (hstates _ hfirst).2.2.2.2 .factor rfl
  obtain ⟨p, hdrop, hreaches⟩ : Returns 1 groupedName firstFactor (.ok (.var "x", [])) :=
    hresult ▸ hreturns
  obtain ⟨hposition, -, hpassed⟩ := hcall _ _ hreaches rfl rfl
  exact ⟨hfirst, ⟨p, hreaches, hdrop, hposition, hpassed⟩, s, hs, hparse ▸ hdone⟩

end Descent

end Reckoner
