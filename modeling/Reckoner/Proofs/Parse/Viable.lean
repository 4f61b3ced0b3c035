import Reckoner.Proofs.Parse.Automaton
import Mathlib.Order.Bounds.Basic

/-!
# Errors are found as early as possible

Tokens are viable under a limit if parsing accepts some list that begins with them. The token of
a parse error is the first behind which the tokens are no longer viable: what stands in front of it
can still be completed, and nothing behind it makes up for it.

* `Automaton.Passes.viable`: tokens that the automaton passes can be completed.
* `Automaton.Passes.not_viable`: with one at which it halts in an error, they cannot.
* `found_isLeast_not_viable`: the place of an error's token among the tokens and the end marker
  that closes them.
-/

namespace Reckoner

/-- Parsing accepts some tokens that begin like this. -/
def Viable (limit : Nat) (before : List Token) : Prop :=
  ∃ tokens tree, before <+: tokens ∧ parseWithin limit tokens = .ok tree

theorem Viable.mono {limit : Nat} {before more : List Token} (h : Viable limit more)
    (hmore : before <+: more) : Viable limit before := by
  obtain ⟨tokens, tree, htokens, hparse⟩ := h
  exact ⟨tokens, tree, hmore.trans htokens, hparse⟩

theorem Sentence.prefix_closed (tokens : List Token) : tokens <+: closed tokens := by
  by_cases h : ∃ t ∈ tokens, t.kind = .endMarker
  · exact ⟨[], (List.append_nil _).trans (closed_of_exists h).symm⟩
  · rw [closed_of_not_exists h]
    exact List.prefix_append ..

namespace Automaton

open Parse Sentence

variable {limit : Nat} {s next : State} {S : List Mark} {t stop : Token}
  {ts rest before tokens : List Token} {tree : Expr} {e : ParseError}

/-! ## The verdict on closed tokens -/

theorem run_of_reads (hstop : stop.kind = .endMarker) (after : List Token)
    (h : Reads limit stop limit (.symbol .expression) ts (.ok (tree, rest))) :
    run limit start (ts ++ stop :: after) = some
      (if (rest.headD stop).kind = .endMarker then .ok ()
        else .error (.trailing (rest.headD stop))) := by
  obtain ⟨_, ⟨n, rfl, -⟩, hrun⟩ : Settles limit _ [] start ts (.ok (tree, rest)) :=
    reads_settles after hstop h (Nat.zero_add limit)
  obtain ⟨us, hus⟩ := exists_append_cons_eq rest stop after
  have hoperator := not_operator_headD (stops_of_reads h) hstop
  rw [hus, run_of_halt (step_replicate limit hoperator n [])] at hrun
  exact hrun

theorem run_closed_of_ok (h : parseWithin limit tokens = .ok tree) :
    run limit start (closed tokens) = some (.ok ()) := by
  obtain ⟨after, hclosed⟩ := exists_closed_eq tokens
  have hstop := kind_stop tokens
  rw [hclosed, run_of_reads hstop after (parseWithin_eq_ok_iff.mp h)]
  exact congrArg some (if_pos hstop)

theorem run_closed_of_error (h : parseWithin limit tokens = .error e) :
    run limit start (closed tokens) = some (.error e) := by
  obtain ⟨after, hclosed⟩ := exists_closed_eq tokens
  have hstop := kind_stop tokens
  rw [hclosed]
  obtain hreads | ⟨tree, t, rest, rfl, hreads⟩ := parseWithin_eq_error_iff.mp h
  · exact reads_settles after hstop hreads (Nat.zero_add limit)
  · obtain ⟨D, hD⟩ := hreads.derived rfl
    have hmem : t ∈ (ofTokens tokens).body := by simp [← hD.tokens_append]
    rw [run_of_reads hstop after hreads]
    exact congrArg some (if_neg (not_endMarker_of_mem hmem))

/-! ## Where the automaton halts -/

/-- The tokens lead from one state to another. -/
def Passes (limit : Nat) (s : State) (ts : List Token) (next : State) : Prop :=
  ∀ us, run limit s (ts ++ us) = run limit next us

theorem passes_nil (limit : Nat) (s : State) : Passes limit s [] s := fun _ => rfl

theorem Passes.cons {last : State} (hstep : step limit s t = .go next)
    (h : Passes limit next ts last) : Passes limit s (t :: ts) last :=
  fun us => (run_of_go hstep _).trans (h us)

/-- The tokens lead step by step from one state to another. -/
inductive Steps (limit : Nat) : State → List Token → State → Prop
  | nil {s : State} : Steps limit s [] s
  | cons {s next last : State} {t : Token} {ts : List Token} :
    step limit s t = .go next → Steps limit next ts last → Steps limit s (t :: ts) last

theorem Steps.passes (h : Steps limit s ts next) : Passes limit s ts next := by
  induction h with
  | nil => exact passes_nil limit _
  | cons hstep _ ih => exact ih.cons hstep

/-- A verdict is reached at a token, behind tokens that all lead on. -/
theorem exists_steps_halt {verdict : Except ParseError Unit} (h : run limit s ts = some verdict) :
    ∃ before t after next, ts = before ++ t :: after ∧ Steps limit s before next ∧
      step limit next t = .halt verdict := by
  induction ts generalizing s with
  | nil => cases h
  | cons t ts ih =>
    cases hstep : step limit s t with
    | go next =>
      rw [run_of_go hstep] at h
      obtain ⟨before, u, after, last, rfl, hbefore, hlast⟩ := ih h
      exact ⟨t :: before, u, after, last, rfl, .cons hstep hbefore, hlast⟩
    | halt verdict' =>
      rw [run_of_halt hstep, Option.some.injEq] at h
      exact ⟨[], t, ts, s, rfl, .nil, h ▸ hstep⟩

theorem exists_halt {verdict : Except ParseError Unit} (h : run limit s ts = some verdict) :
    ∃ before t after next, ts = before ++ t :: after ∧ Passes limit s before next ∧
      step limit next t = .halt verdict := by
  obtain ⟨before, t, after, next, hsplit, hsteps, hstep⟩ := exists_steps_halt h
  exact ⟨before, t, after, next, hsplit, hsteps.passes, hstep⟩

theorem found_of_push {mark : Mark} (h : push limit mark t S = .halt (.error e)) : e.found = t := by
  rw [push] at h
  split at h <;> cases h
  rfl

theorem found_of_close (h : close t S = .halt (.error e)) : e.found = t := by
  induction S with
  | nil =>
    rw [close] at h
    split at h <;> cases h
    rfl
  | cons mark S ih =>
    cases mark with
    | assign => exact ih h
    | paren =>
      rw [close] at h
      split at h <;> cases h
      rfl

theorem found_of_stepOperand (h : stepOperand limit S t = .halt (.error e)) : e.found = t := by
  rw [stepOperand] at h
  split at h
  · split at h <;> cases h
    rfl
  · cases h
  · exact found_of_push h
  · cases h
    rfl

theorem found_of_stepAfterOperand (h : stepAfterOperand S t = .halt (.error e)) : e.found = t := by
  rw [stepAfterOperand] at h
  split at h
  · cases h
  · exact found_of_close h

/-- An error names the token at which the automaton halts. -/
theorem found_of_step (h : step limit s t = .halt (.error e)) : e.found = t := by
  rw [step] at h
  split at h
  · exact found_of_stepOperand h
  · split at h
    · exact found_of_push h
    · exact found_of_stepAfterOperand h
  · exact found_of_stepAfterOperand h

/-! ## Completing what was passed -/

/-- The parentheses that close all open levels. -/
def closing : List Mark → List Token
  | [] => []
  | .assign :: S => closing S
  | .paren :: S => ⟨.closeParen, ")", .initial⟩ :: closing S

/-- Tokens that complete an expression from a state. -/
def completion : State → List Token
  | ⟨.operand, S⟩ => ⟨.number, "0", .initial⟩ :: closing S
  | ⟨.afterIdentifier, S⟩ | ⟨.afterOperand, S⟩ => closing S

/-- Neither an assignment nor an operator goes on where levels are closed. -/
theorem exists_closing_eq_cons (S : List Mark) :
    ∃ t ts, closing S ++ [.endMarker .start] = t :: ts ∧ t.kind ≠ .assign ∧
      ∀ op, t.kind ≠ .operator op := by
  induction S with
  | nil => exact ⟨_, _, rfl, by simp [Token.endMarker]⟩
  | cons mark S ih =>
    cases mark with
    | assign => exact ih
    | paren => exact ⟨_, _, rfl, by simp⟩

theorem run_closing (limit : Nat) (S : List Mark) :
    run limit ⟨.afterOperand, S⟩ (closing S ++ [.endMarker .start]) = some (.ok ()) := by
  induction S with
  | nil => rfl
  | cons mark S ih =>
    cases mark with
    | assign =>
      -- the first token of what follows closes the assignment on its way
      obtain ⟨t, ts, hts, -, hoperator⟩ := exists_closing_eq_cons S
      have hstep : step limit ⟨.afterOperand, .assign :: S⟩ t = step limit ⟨.afterOperand, S⟩ t :=
        (step_replicate limit hoperator 1 S).trans (step_replicate limit hoperator 0 S).symm
      rw [closing, hts, run, hstep]
      rw [hts, run] at ih
      exact ih
    | paren => exact ih

theorem run_completion (limit : Nat) (s : State) :
    run limit s (completion s ++ [.endMarker .start]) = some (.ok ()) := by
  obtain ⟨mode, S⟩ := s
  cases mode with
  | operand =>
    have hzero : (Value.ofNumeral? "0").isSome = true := by decide
    have hstep : step limit ⟨.operand, S⟩ ⟨.number, "0", .initial⟩ = .go ⟨.afterOperand, S⟩ := by
      simp [step, stepOperand, hzero]
    exact (run_of_go hstep _).trans (run_closing limit S)
  | afterIdentifier =>
    obtain ⟨t, ts, hts, hassign, -⟩ := exists_closing_eq_cons S
    rw [completion, hts, run_afterIdentifier hassign, ← hts]
    exact run_closing limit S
  | afterOperand => exact run_closing limit S

/-- What leads the automaton on can be completed. -/
theorem Passes.viable (h : Passes limit start before s) : Viable limit before := by
  let tokens := before ++ (completion s ++ [.endMarker .start])
  have hclosed : closed tokens = tokens :=
    closed_of_exists ⟨.endMarker .start, by simp [tokens], rfl⟩
  cases hparse : parseWithin limit tokens with
  | ok tree => exact ⟨tokens, tree, List.prefix_append .., hparse⟩
  | error e =>
    have hrun := run_closed_of_error hparse
    rw [hclosed, h _, run_completion] at hrun
    cases hrun

/-- Nothing makes up for a token at which the automaton halts with an error. -/
theorem Passes.not_viable (h : Passes limit start before s)
    (hstep : step limit s t = .halt (.error e)) : ¬ Viable limit (before ++ [t]) := by
  rintro ⟨tokens, tree, htokens, hparse⟩
  obtain ⟨us, hus⟩ := htokens.trans (prefix_closed tokens)
  have hrun := run_closed_of_ok hparse
  rw [← hus, List.append_assoc, h _, List.singleton_append, run_of_halt hstep] at hrun
  cases hrun

end Automaton

open Sentence

/-- The token of a parse error is the first behind which the tokens, closed by an end marker, are
no longer viable. -/
theorem found_isLeast_not_viable {limit : Nat} {tokens : List Token} {e : ParseError}
    (h : parseWithin limit tokens = .error e) :
    ∃ i, (closed tokens)[i]? = some e.found ∧
      IsLeast {i | ¬ Viable limit ((closed tokens).take (i + 1))} i := by
  obtain ⟨before, t, after, s, hclosed, hpasses, hstep⟩ :=
    Automaton.exists_halt (Automaton.run_closed_of_error h)
  have htake : (closed tokens).take (before.length + 1) = before ++ [t] := by
    rw [hclosed, List.take_length_add_append]
    rfl
  refine ⟨before.length, ?_, ?_, fun j hj => ?_⟩
  · rw [hclosed, Automaton.found_of_step hstep]
    simp
  · rw [Set.mem_ofPred_eq, htake]
    exact hpasses.not_viable hstep
  · -- less than that is part of what led the automaton on
    by_contra hlt
    refine hj (hpasses.viable.mono ?_)
    rw [hclosed, List.take_append_of_le_length (by omega)]
    exact List.take_prefix ..

/-- Nested parentheses behind an assignment. -/
def nestedTokens : List Token :=
  [⟨.identifier, "x", .initial⟩, ⟨.assign, "=", .initial⟩, ⟨.openParen, "(", .initial⟩,
    ⟨.identifier, "y", .initial⟩, ⟨.closeParen, ")", .initial⟩]

theorem found_isLeast_not_viable_nestedTokens :
    parseWithin 1 nestedTokens = .error (.tooDeeplyNested ⟨.openParen, "(", .initial⟩ 1) ∧
      ∃ i, (closed nestedTokens)[i]? = some ⟨.openParen, "(", .initial⟩ ∧
        IsLeast {i | ¬ Viable 1 ((closed nestedTokens).take (i + 1))} i := by
  have h : parseWithin 1 nestedTokens =
      .error (.tooDeeplyNested ⟨.openParen, "(", .initial⟩ 1) :=
    Parse.parseWithin_eq_error_iff.mpr (Or.inl (.firstError (.firstError
      (.assignError rfl rfl (.firstError (.firstError (.groupTooDeep rfl)))))))
  exact ⟨h, found_isLeast_not_viable h⟩

end Reckoner
