import Reckoner.Proofs.Parse.Viable
import Mathlib.Data.Nat.Find
import Mathlib.Tactic.Choose

/-!
# Parsing under different limits

The limit on nesting decides only how far a parse comes. What is read without an error of nesting
is read under every higher limit, and a list of tokens has a threshold: under a lower limit parsing
stops at the token that opens one level too many, which stands further on the higher the limit is,
and from the threshold on the limit plays no part.

* `Parse.Reads.mono`: a call that comes to no error of nesting has its result under all higher
  limits.
* `Automaton.step_cases`: only where a level is opened does a step depend on the limit.
* `exists_nesting_threshold`: the threshold of a list of tokens.
-/

namespace Reckoner

/-! ## Higher limits -/

namespace Parse

variable {limit levels : Nat} {stop : Token}

/-- A call that comes to no error of nesting has its result with more levels and any limit. -/
theorem Reads.mono {call : Call} {ts : List Token} {result : Result}
    (h : Reads limit stop levels call ts result) (limit' more : Nat)
    (hresult : ∀ t l, result ≠ .error (.tooDeeplyNested t l)) :
    Reads limit' stop (levels + more) call ts result := by
  induction h with
  | number kind numeral => exact .number kind numeral
  | tooLarge kind numeral => exact .tooLarge kind numeral
  | name kind hts => exact .name kind hts
  | unexpected hts => exact .unexpected hts
  | done hop => exact .done hop
  | assignTooDeep | groupTooDeep => exact absurd rfl (hresult _ _)
  | assign kind sign_kind _ ih =>
    rw [Nat.add_right_comm]
    exact .assign kind sign_kind (ih (by simp))
  | assignError kind sign_kind _ ih =>
    rw [Nat.add_right_comm]
    exact .assignError kind sign_kind (ih (by simpa using hresult))
  | group kind closing_kind _ ih =>
    rw [Nat.add_right_comm]
    exact .group kind closing_kind (ih (by simp))
  | unclosed kind hrest _ ih =>
    rw [Nat.add_right_comm]
    exact .unclosed kind hrest (ih (by simp))
  | groupError kind _ ih =>
    rw [Nat.add_right_comm]
    exact .groupError kind (ih (by simpa using hresult))
  | chain _ _ ihfirst ihmore => exact .chain (ihfirst (by simp)) (ihmore hresult)
  | firstError _ ih => exact .firstError (ih (by simpa using hresult))
  | more hop _ _ ihright ihmore => exact .more hop (ihright (by simp)) (ihmore hresult)
  | rightError hop _ ih => exact .rightError hop (ih (by simpa using hresult))

end Parse

/-- What is parsed without an error of nesting is parsed under every higher limit. -/
theorem parseWithin_mono {limit limit' : Nat} {tokens : List Token}
    {result : Except ParseError Expr} (h : parseWithin limit tokens = result)
    (hle : limit ≤ limit') (hresult : ∀ t l, result ≠ .error (.tooDeeplyNested t l)) :
    parseWithin limit' tokens = result := by
  obtain ⟨more, rfl⟩ := Nat.exists_eq_add_of_le hle
  cases result with
  | ok tree =>
    have hreads := Parse.parseWithin_eq_ok_iff.mp h
    exact Parse.parseWithin_eq_ok_iff.mpr (hreads.mono _ more (by simp))
  | error e =>
    obtain hreads | ⟨tree, t, rest, rfl, hreads⟩ := Parse.parseWithin_eq_error_iff.mp h
    · have hmore := hreads.mono (limit + more) more (by simpa using hresult)
      exact Parse.parseWithin_eq_error_iff.mpr (Or.inl hmore)
    · have hmore := hreads.mono (limit + more) more (by simp)
      exact Parse.parseWithin_eq_error_iff.mpr (Or.inr ⟨tree, t, rest, rfl, hmore⟩)

/-! ## Where the limit is exceeded -/

namespace Automaton

variable {limit limit' : Nat} {s next : State} {S : List Mark} {t : Token} {ts : List Token}

/-- The reply leaves at most so many levels open, and refuses none. -/
def Reply.StaysWithin (n : Nat) : Reply → Prop
  | .go next => next.stack.length ≤ n
  | .halt verdict => ∀ t l, verdict ≠ .error (.tooDeeplyNested t l)

theorem Reply.StaysWithin.mono {m n : Nat} {reply : Reply} (h : reply.StaysWithin m)
    (hle : m ≤ n) : reply.StaysWithin n := by
  cases reply with
  | go next => exact Nat.le_trans h hle
  | halt verdict => exact h

theorem close_staysWithin (t : Token) (S : List Mark) : (close t S).StaysWithin S.length := by
  induction S with
  | nil =>
    rw [close]
    split <;> simp [Reply.StaysWithin]
  | cons mark S ih =>
    cases mark with
    | assign => exact ih.mono (Nat.le_succ _)
    | paren =>
      rw [close]
      split <;> simp [Reply.StaysWithin]

theorem stepAfterOperand_staysWithin (S : List Mark) (t : Token) :
    (stepAfterOperand S t).StaysWithin S.length := by
  rw [stepAfterOperand]
  split
  · exact Nat.le_refl _
  · exact close_staysWithin t S

/-- A step opens a level at a token that may open one, or does not depend on the limit. -/
theorem step_cases (s : State) (t : Token) :
    (t.opensLevel = true ∧ ∃ mark, ∀ limit, step limit s t = push limit mark t s.stack) ∨
      ∃ reply : Reply, reply.StaysWithin s.stack.length ∧ ∀ limit, step limit s t = reply := by
  obtain ⟨mode, S⟩ := s
  cases mode with
  | operand =>
    cases hkind : t.kind with
    | number =>
      refine Or.inr ⟨_, ?_, fun limit => by rw [step, stepOperand, hkind]⟩
      split <;> simp [Reply.StaysWithin]
    | identifier => exact Or.inr ⟨_, Nat.le_refl _, fun limit => step_identifier hkind⟩
    | openParen =>
      exact Or.inl ⟨by simp [Token.opensLevel, hkind], .paren, fun limit => step_openParen hkind⟩
    | operator | assign | closeParen | endMarker =>
      refine Or.inr ⟨.halt (.error (.unexpected t)), by simp [Reply.StaysWithin], fun limit => ?_⟩
      exact step_unexpected (by simp [hkind])
  | afterIdentifier =>
    by_cases hkind : t.kind = .assign
    · exact Or.inl ⟨by simp [Token.opensLevel, hkind], .assign, fun limit => step_assign hkind⟩
    · exact Or.inr ⟨_, stepAfterOperand_staysWithin S t, fun limit => if_neg hkind⟩
  | afterOperand => exact Or.inr ⟨_, stepAfterOperand_staysWithin S t, fun limit => rfl⟩

theorem step_mono (hle : limit ≤ limit') (h : step limit s t = .go next) :
    step limit' s t = .go next := by
  obtain ⟨-, mark, hstep⟩ | ⟨reply, -, hstep⟩ := step_cases s t
  · rw [hstep] at h ⊢
    by_cases hS : s.stack.length < limit
    · rw [push_of_lt hS] at h
      rw [push_of_lt (by omega), h]
    · rw [push_of_le (by omega)] at h
      cases h
  · rw [hstep, ← hstep limit, h]

/-- A step opens one level at most, at a token that may open one, and never above the limit. -/
theorem length_stack_of_step (h : step limit s t = .go next) (hs : s.stack.length ≤ limit) :
    next.stack.length ≤ s.stack.length + (if t.opensLevel then 1 else 0) ∧
      next.stack.length ≤ limit := by
  obtain ⟨hopens, mark, hstep⟩ | ⟨reply, hwithin, hstep⟩ := step_cases s t
  · rw [hstep] at h
    by_cases hS : s.stack.length < limit
    · rw [push_of_lt hS] at h
      cases h
      rw [if_pos hopens, List.length_cons]
      omega
    · rw [push_of_le (by omega)] at h
      cases h
  · rw [hstep] at h
    subst h
    simp only [Reply.StaysWithin] at hwithin
    omega

/-- A level is refused at a token that would open it, if as many are open as the limit allows. A
limit above these is not exceeded by the token. -/
theorem of_step_tooDeeplyNested {u : Token} {l : Nat}
    (h : step limit s t = .halt (.error (.tooDeeplyNested u l))) :
    u = t ∧ l = limit ∧ t.opensLevel = true ∧ limit ≤ s.stack.length ∧
      ∀ limit', s.stack.length < limit' → ∃ next, step limit' s t = .go next := by
  obtain ⟨hopens, mark, hstep⟩ | ⟨reply, hwithin, hstep⟩ := step_cases s t
  · rw [hstep] at h
    by_cases hS : s.stack.length < limit
    · rw [push_of_lt hS] at h
      cases h
    · rw [push_of_le (by omega)] at h
      cases h
      exact ⟨rfl, rfl, hopens, by omega,
        fun limit' hlt => ⟨_, (hstep limit').trans (push_of_lt hlt)⟩⟩
  · rw [hstep] at h
    subst h
    exact absurd rfl (hwithin u l)

theorem Steps.mono (h : Steps limit s ts next) (hle : limit ≤ limit') :
    Steps limit' s ts next := by
  induction h with
  | nil => exact .nil
  | cons hstep _ ih => exact .cons (step_mono hle hstep) ih

theorem Steps.concat {last : State} (h : Steps limit s ts next)
    (hstep : step limit next t = .go last) : Steps limit s (ts ++ [t]) last := by
  induction h with
  | nil => exact .cons hstep .nil
  | cons hfirst _ ih => exact .cons hfirst (ih hstep)

/-- The levels open behind some tokens are opened by these, and no more than the limit allows. -/
theorem Steps.length_stack_le (h : Steps limit s ts next) (hs : s.stack.length ≤ limit) :
    next.stack.length ≤ s.stack.length + ts.countP Token.opensLevel ∧
      next.stack.length ≤ limit := by
  induction h with
  | nil => exact ⟨Nat.le_add_right .., hs⟩
  | cons hstep _ ih =>
    obtain ⟨hcount, hlimit⟩ := length_stack_of_step hstep hs
    obtain ⟨hcount', hlimit'⟩ := ih hlimit
    rw [List.countP_cons]
    exact ⟨by omega, hlimit'⟩

end Automaton

/-! ## The threshold -/

open Sentence

/-- Where closing tokens are split in front of a token that is no end marker, the tokens are. -/
theorem Sentence.exists_eq_of_closed_eq {tokens before after : List Token} {t : Token}
    (h : closed tokens = before ++ t :: after) (ht : t.kind ≠ .endMarker) :
    ∃ after', tokens = before ++ t :: after' := by
  by_cases hends : ∃ t ∈ tokens, t.kind = .endMarker
  · rw [closed_of_exists hends] at h
    exact ⟨after, h⟩
  · rw [closed_of_not_exists hends] at h
    obtain ⟨more, rfl, hmore⟩ | ⟨more, rfl, hmore⟩ := List.append_eq_append_iff.mp h
    · cases more with
      | nil =>
        cases hmore
        exact absurd rfl ht
      | cons u more => simp at hmore
    · cases more with
      | nil =>
        cases hmore
        exact absurd rfl ht
      | cons u more =>
        cases hmore
        exact ⟨more, rfl⟩

theorem Viable.mono_limit {limit limit' : Nat} {before : List Token} (h : Viable limit before)
    (hle : limit ≤ limit') : Viable limit' before := by
  obtain ⟨tokens, tree, htokens, hparse⟩ := h
  exact ⟨tokens, tree, htokens, parseWithin_mono hparse hle (by simp)⟩

/-- An error of nesting names the token that opens one level too many. What stands in front of it
can be completed, and together with it needs a higher limit. -/
theorem exists_opener_of_parseWithin {limit l : Nat} {tokens : List Token} {t : Token}
    (h : parseWithin limit tokens = .error (.tooDeeplyNested t l)) :
    l = limit ∧ limit < tokens.countP Token.opensLevel ∧
      ∃ i, tokens[i]? = some t ∧ t.opensLevel = true ∧ Viable limit (tokens.take i) ∧
        ∀ limit', Viable limit' (tokens.take (i + 1)) ↔ limit < limit' := by
  obtain ⟨before, u, after, s, hclosed, hsteps, hstep⟩ :=
    Automaton.exists_steps_halt (Automaton.run_closed_of_error h)
  obtain ⟨rfl, rfl, hopens, hwithins, hgoes⟩ := Automaton.of_step_tooDeeplyNested hstep
  obtain ⟨hcount, hlimit⟩ := hsteps.length_stack_le (Nat.zero_le l)
  have hkind : t.kind ≠ .endMarker := by
    intro hkind
    simp [Token.opensLevel, hkind] at hopens
  obtain ⟨after', rfl⟩ := exists_eq_of_closed_eq hclosed hkind
  have htake : (before ++ t :: after').take (before.length + 1) = before ++ [t] := by
    rw [List.take_length_add_append]
    rfl
  refine ⟨rfl, ?_, before.length, by simp, hopens, ?_, fun limit' => ?_⟩
  · rw [List.countP_append, List.countP_cons_of_pos hopens]
    simp only [Automaton.start, List.length_nil] at hcount
    omega
  · rw [List.take_left' rfl]
    exact hsteps.passes.viable
  · rw [htake]
    constructor
    · intro hviable
      by_contra hle
      exact hsteps.passes.not_viable hstep (hviable.mono_limit (by omega))
    · intro hlt
      obtain ⟨next, hnext⟩ := hgoes limit' (by omega)
      exact ((hsteps.mono (by omega)).concat hnext).passes.viable

/-- A list of tokens has a threshold, at most the number of its parentheses and assignments. Under
a lower limit parsing fails at the token that opens one level too many, and this token stands
further on the higher the limit is: it is the one that can be completed exactly under higher
limits. From the threshold on, parsing has one result, and this is no error of nesting. -/
theorem exists_nesting_threshold (tokens : List Token) :
    ∃ threshold ≤ tokens.countP Token.opensLevel, ∃ place : Nat → Nat,
      (∀ limit < threshold, ∃ t, tokens[place limit]? = some t ∧ t.opensLevel = true ∧
        parseWithin limit tokens = .error (.tooDeeplyNested t limit) ∧
        Viable limit (tokens.take (place limit)) ∧
        ∀ limit', Viable limit' (tokens.take (place limit + 1)) ↔ limit < limit') ∧
      (∀ limit more, limit < more → more < threshold → place limit < place more) ∧
      ∃ result, (∀ limit, threshold ≤ limit → parseWithin limit tokens = result) ∧
        ∀ t l, result ≠ .error (.tooDeeplyNested t l) := by
  classical
  have hcount : ∀ t l, parseWithin (tokens.countP Token.opensLevel) tokens ≠
      .error (.tooDeeplyNested t l) := fun t l h =>
    Nat.lt_irrefl _ (exists_opener_of_parseWithin h).2.1
  have hexists : ∃ limit, ∀ t l, parseWithin limit tokens ≠ .error (.tooDeeplyNested t l) :=
    ⟨_, hcount⟩
  have hbelow : ∀ limit < Nat.find hexists, ∃ i t, tokens[i]? = some t ∧
      t.opensLevel = true ∧ parseWithin limit tokens = .error (.tooDeeplyNested t limit) ∧
      Viable limit (tokens.take i) ∧
      ∀ limit', Viable limit' (tokens.take (i + 1)) ↔ limit < limit' := by
    intro limit hlt
    obtain ⟨t, l, h⟩ : ∃ t l, parseWithin limit tokens = .error (.tooDeeplyNested t l) := by
      simpa using Nat.find_min hexists hlt
    obtain ⟨rfl, -, i, hi, hopens, hviable, hlimits⟩ := exists_opener_of_parseWithin h
    exact ⟨i, t, hi, hopens, h, hviable, hlimits⟩
  choose! place hplace using hbelow
  have hfits := Nat.find_spec hexists
  refine ⟨Nat.find hexists, Nat.find_min' hexists hcount, place, hplace,
    fun limit more hlt hmore => ?_, _, fun limit hle => parseWithin_mono rfl hle hfits, hfits⟩
  obtain ⟨_, -, -, -, -, hlimits⟩ := hplace limit (hlt.trans hmore)
  obtain ⟨_, -, -, -, -, hlimits'⟩ := hplace more hmore
  -- behind the token refused under the lower limit the higher one still allows a completion
  by_contra hle
  have hpre : tokens.take (place more + 1) <+: tokens.take (place limit + 1) :=
    List.take_prefix_take_left (by omega)
  exact Nat.lt_irrefl _ ((hlimits' more).mp (((hlimits more).mpr hlt).mono hpre))

/-- The parentheses behind an assignment are refused later than the assignment, and read from the
second level on. -/
theorem exists_nesting_threshold_nestedTokens :
    ∃ place : Nat → Nat, place 0 < place 1 ∧
      (∀ limit < 2, ∃ t, nestedTokens[place limit]? = some t ∧
        parseWithin limit nestedTokens = .error (.tooDeeplyNested t limit)) ∧
      ∀ limit, 2 ≤ limit → parseWithin limit nestedTokens = .ok (.assign "x" (.var "y")) := by
  obtain ⟨threshold, hle, place, hbelow, hplace, result, hresult, hfits⟩ :=
    exists_nesting_threshold nestedTokens
  have hrefused : parseWithin 1 nestedTokens =
      .error (.tooDeeplyNested ⟨.openParen, "(", .initial⟩ 1) := by
    decide +kernel
  have hread : parseWithin 2 nestedTokens = .ok (.assign "x" (.var "y")) := by decide +kernel
  have hthreshold : threshold = 2 := by
    have hcount : nestedTokens.countP Token.opensLevel = 2 := by decide
    have hlt : 1 < threshold := by
      by_contra h
      exact hfits _ _ ((hresult 1 (by omega)).symm.trans hrefused)
    omega
  subst hthreshold
  refine ⟨place, hplace 0 1 (by omega) (by omega), fun limit hlt => ?_, fun limit hge => ?_⟩
  · obtain ⟨t, ht, -, h, -, -⟩ := hbelow limit hlt
    exact ⟨t, ht, h⟩
  · rw [hresult limit hge, ← hresult 2 le_rfl, hread]

end Reckoner
