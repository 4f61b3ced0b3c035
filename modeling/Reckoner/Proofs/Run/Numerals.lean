import Reckoner.Proofs.Parse.Reads
import Reckoner.Proofs.Run.Events
import Mathlib.Algebra.Group.Nat.Defs

/-!
# Numbers from digits to values

A numeral is worth the sum of its digits, each times the power of ten of its place. A number token
is read as the value that its lexeme is worth, if there is such a value, and refused otherwise. A
source of digits alone is one number token, so that its run comes to what the digits are worth, or
to the refusal of this token.

* `Numeral.placeValue`, `Numeral.Spells`: what digits are worth, and what a numeral spells.
* `Value.ofNumeral?_eq_some_iff`: a numeral denotes the value that it spells.
* `run_numeral`: runs of digits, and number tokens of any lexeme.
-/

namespace Reckoner

/-! ## What numerals spell -/

namespace Numeral

variable {cs : List Char} {n : Int}

/-- What digits are worth by their places. -/
def placeValue : List Char → Nat
  | [] => 0
  | c :: cs => (c.toNat - '0'.toNat) * 10 ^ cs.length + placeValue cs

/-- The text is one or more digits. -/
def IsDigits (cs : List Char) : Prop := cs ≠ [] ∧ ∀ c ∈ cs, c.isDigit = true

/-- A numeral spells an integer: digits with at most one sign in front. -/
inductive Spells : List Char → Int → Prop
  | unsigned {cs : List Char} : IsDigits cs → Spells cs (placeValue cs)
  | plus {cs : List Char} : IsDigits cs → Spells ('+' :: cs) (placeValue cs)
  | minus {cs : List Char} : IsDigits cs → Spells ('-' :: cs) (-placeValue cs)

theorem ofDigitChars_eq_placeValue (cs : List Char) : Nat.ofDigitChars 10 cs 0 = placeValue cs := by
  induction cs with
  | nil => rfl
  | cons c cs ih =>
    rw [Nat.ofDigitChars_cons, Nat.ofDigitChars_eq_ofDigitChars_zero, ih, placeValue,
      Nat.mul_zero, Nat.zero_add, Nat.mul_comm]

theorem map_digits?_eq_some_iff {f : Nat → Int} :
    (digits? cs).map f = some n ↔ IsDigits cs ∧ f (placeValue cs) = n := by
  rw [digits?, ofDigitChars_eq_placeValue]
  simp [IsDigits]

theorem read?_eq_some_iff : read? cs = some n ↔ Spells cs n := by
  constructor
  · intro h
    unfold read? at h
    split at h
    · obtain ⟨hdigits, rfl⟩ := map_digits?_eq_some_iff.mp h
      exact .minus hdigits
    · obtain ⟨hdigits, rfl⟩ := map_digits?_eq_some_iff.mp h
      exact .plus hdigits
    · obtain ⟨hdigits, rfl⟩ := map_digits?_eq_some_iff.mp h
      exact .unsigned hdigits
  · rintro (hdigits | hdigits | hdigits)
    · obtain ⟨c, cs, rfl⟩ := List.exists_cons_of_ne_nil hdigits.1
      rw [read?_of_isDigit (hdigits.2 c (by simp))]
      exact map_digits?_eq_some_iff.mpr ⟨hdigits, rfl⟩
    · exact map_digits?_eq_some_iff.mpr ⟨hdigits, rfl⟩
    · exact map_digits?_eq_some_iff.mpr ⟨hdigits, rfl⟩

/-- Digits spell what they are worth, and nothing else. -/
theorem IsDigits.spells_iff (h : IsDigits cs) : Spells cs n ↔ n = placeValue cs := by
  rw [← read?_eq_some_iff, read?_eq_some_iff.mpr (.unsigned h), Option.some.injEq, eq_comm]

end Numeral

theorem Value.ofNumeral?_eq_some_iff {text : String} {v : Value} :
    ofNumeral? text = some v ↔ Numeral.Spells text.toList v.toInt := by
  simp [ofNumeral?, Option.bind_eq_some_iff, Numeral.read?_eq_some_iff, ofInt?_eq_some_iff]

theorem Value.ofNumeral?_eq_none_iff {text : String} :
    ofNumeral? text = none ↔ ∀ v : Value, ¬ Numeral.Spells text.toList v.toInt := by
  rw [Option.eq_none_iff_forall_ne_some]
  exact forall_congr' fun v => not_congr ofNumeral?_eq_some_iff

/-- The values reach up to the largest one. -/
theorem Value.exists_of_le {n : Nat} (h : n ≤ 9223372036854775807) :
    ∃ v : Value, v.toInt = n :=
  ⟨⟨n, by omega, by omega⟩, rfl⟩

/-! ## Number tokens -/

namespace Parse

variable {limit levels : Nat} {stop t : Token} {v : Value} {ts : List Token}

theorem result_number_eq_ok_iff (ht : t.kind = .number) :
    (Call.symbol .factor).result limit stop levels (t :: ts) = .ok (.literal v, ts) ↔
      Numeral.Spells t.lexeme.toList v.toInt := by
  rw [← Value.ofNumeral?_eq_some_iff]
  cases hv : Value.ofNumeral? t.lexeme with
  | none => simp [result_of_reads (.tooLarge ht hv)]
  | some w => simp [result_of_reads (.number ht hv)]

theorem result_number_eq_error_iff (ht : t.kind = .number) :
    (Call.symbol .factor).result limit stop levels (t :: ts) = .error (.tooLarge t) ↔
      ∀ v : Value, ¬ Numeral.Spells t.lexeme.toList v.toInt := by
  rw [← Value.ofNumeral?_eq_none_iff]
  cases hv : Value.ofNumeral? t.lexeme with
  | none => simp [result_of_reads (.tooLarge ht hv)]
  | some w => simp [result_of_reads (.number ht hv)]

theorem reads_number (ht : t.kind = .number) (hv : Value.ofNumeral? t.lexeme = some v) :
    Reads limit stop levels (.symbol .expression) [t] (.ok (.literal v, [])) :=
  .chain (.chain (.number ht hv) (.done (by simp))) (.done (by simp))

theorem reads_tooLarge (ht : t.kind = .number) (hv : Value.ofNumeral? t.lexeme = none)
    (ts : List Token) :
    Reads limit stop levels (.symbol .expression) (t :: ts) (.error (.tooLarge t)) :=
  .firstError (.firstError (.tooLarge ht hv))

/-- A number that stands alone is the literal of the value that it spells. -/
theorem parseWithin_eq_literal_iff (ht : t.kind = .number) {tokens : List Token}
    (hbody : (Sentence.ofTokens tokens).body = [t]) :
    parseWithin limit tokens = .ok (.literal v) ↔ Numeral.Spells t.lexeme.toList v.toInt := by
  rw [parseWithin_eq_ok_iff, hbody, ← Value.ofNumeral?_eq_some_iff]
  refine ⟨fun h => ?_, reads_number ht⟩
  cases hv : Value.ofNumeral? t.lexeme with
  | none => cases reads_unique h (reads_tooLarge ht hv [])
  | some w =>
    cases reads_unique h (reads_number ht hv)
    rfl

/-- A number that begins the tokens and spells no value is refused, whatever follows it. -/
theorem parseWithin_eq_tooLarge (ht : t.kind = .number)
    (hv : ∀ v : Value, ¬ Numeral.Spells t.lexeme.toList v.toInt) (after : List Token) :
    parseWithin limit (t :: after) = .error (.tooLarge t) := by
  have hbody : (Sentence.ofTokens (t :: after)).body = t :: (Sentence.ofTokens after).body := by
    simp [Sentence.ofTokens, ht]
  rw [parseWithin_eq_error_iff, hbody]
  exact Or.inl (reads_tooLarge ht (Value.ofNumeral?_eq_none_iff.mpr hv) _)

end Parse

/-! ## Sources of digits -/

section

variable {source : String}

/-- A source as one number token. -/
def Token.ofDigits (source : String) : Token :=
  ⟨.number, source, ⟨.start, ⟨1, source.toList.length + 1⟩⟩⟩

theorem scan_of_isDigits (h : Numeral.IsDigits source.toList) :
    scan source = .ok [.ofDigits source, .endMarker (Token.ofDigits source).span.stop] := by
  have hmatches : Token.Kind.number.Matches source.toList := Token.Kind.matches_number_iff.mpr h
  have hafter : Location.start.after source.toList = ⟨1, source.toList.length + 1⟩ := by
    rw [Location.after_eq_of_not_mem _ hmatches.newline_not_mem, Location.start, Nat.add_comm]
  have hreads := Scan.Reads.lexeme hmatches (by simp)
    (Scan.reads_nil (Location.start.after source.toList))
  rw [hafter, List.append_nil, String.ofList_toList] at hreads
  exact Scan.scan_eq_ok_iff.mpr ⟨_, hreads, rfl, rfl⟩

/-- Digits that are worth a value come to it. -/
theorem run_of_isDigits (h : Numeral.IsDigits source.toList) (env : Env) {v : Value}
    (hv : v.toInt = Numeral.placeValue source.toList) :
    (run source env).result = .ok v ∧ (run source env).env = env := by
  have hparse : parse [.ofDigits source, .endMarker (Token.ofDigits source).span.stop] =
      .ok (.literal v) :=
    (Parse.parseWithin_eq_literal_iff rfl rfl).mpr (h.spells_iff.mpr hv)
  rw [run_of_compile_ok (compile_eq_ok_iff.mpr ⟨_, scan_of_isDigits h, hparse⟩)]
  exact ⟨rfl, rfl⟩

/-- Digits that are worth more than any value are refused. -/
theorem run_of_isDigits_of_lt (h : Numeral.IsDigits source.toList) (env : Env)
    (hlt : 9223372036854775807 < Numeral.placeValue source.toList) :
    (run source env).result = .error (.parsing (.tooLarge (.ofDigits source))) ∧
      (run source env).env = env := by
  have hspells : ∀ v : Value, ¬ Numeral.Spells (Token.ofDigits source).lexeme.toList v.toInt := by
    intro v hv
    have hvalue := h.spells_iff.mp hv
    have hrange := v.inRange.2
    omega
  have hparse : parse [.ofDigits source, .endMarker (Token.ofDigits source).span.stop] =
      .error (.tooLarge (.ofDigits source)) :=
    Parse.parseWithin_eq_tooLarge rfl hspells _
  have hcompile := compile_of_scan_ok (scan_of_isDigits h)
  rw [hparse] at hcompile
  rw [run_of_compile_error hcompile]
  exact ⟨rfl, rfl⟩

end

/-- A source of digits is one number token, whose run changes no environment: it comes to what the
digits are worth, up to the largest value, and above it the token is refused. A number token of any
lexeme is read as a literal of the value that the lexeme spells, with at most one sign, and refused
if it spells none: wherever the parser takes a factor, and as the beginning of a list of tokens. -/
theorem run_numeral :
    (∀ (source : String) (env : Env), Numeral.IsDigits source.toList →
      scan source = .ok [.ofDigits source, .endMarker (Token.ofDigits source).span.stop] ∧
      (run source env).env = env ∧
      (Numeral.placeValue source.toList ≤ 9223372036854775807 →
        ∃ v : Value, v.toInt = Numeral.placeValue source.toList ∧
          (run source env).result = .ok v) ∧
      (9223372036854775807 < Numeral.placeValue source.toList →
        (run source env).result = .error (.parsing (.tooLarge (.ofDigits source))))) ∧
    ∀ t : Token, t.kind = .number → ∀ limit : Nat,
      (∀ (stop : Token) (levels : Nat) (ts : List Token),
        (∀ v : Value,
          (Parse.Call.symbol .factor).result limit stop levels (t :: ts) = .ok (.literal v, ts) ↔
            Numeral.Spells t.lexeme.toList v.toInt) ∧
        ((Parse.Call.symbol .factor).result limit stop levels (t :: ts) = .error (.tooLarge t) ↔
          ∀ v : Value, ¬ Numeral.Spells t.lexeme.toList v.toInt)) ∧
      (∀ (tokens : List Token) (v : Value), (Sentence.ofTokens tokens).body = [t] →
        (parseWithin limit tokens = .ok (.literal v) ↔
          Numeral.Spells t.lexeme.toList v.toInt)) ∧
      ((∀ v : Value, ¬ Numeral.Spells t.lexeme.toList v.toInt) →
        ∀ after : List Token, parseWithin limit (t :: after) = .error (.tooLarge t)) := by
  refine ⟨fun source env h => ⟨scan_of_isDigits h, ?_, fun hle => ?_, fun hlt => ?_⟩,
    fun t ht limit => ⟨fun stop levels ts => ⟨fun v => ?_, ?_⟩, fun tokens v hbody => ?_,
      fun hv after => ?_⟩⟩
  · obtain hlt | hle := Nat.lt_or_ge 9223372036854775807 (Numeral.placeValue source.toList)
    · exact (run_of_isDigits_of_lt h env hlt).2
    · obtain ⟨v, hv⟩ := Value.exists_of_le hle
      exact (run_of_isDigits h env hv).2
  · obtain ⟨v, hv⟩ := Value.exists_of_le hle
    exact ⟨v, hv, (run_of_isDigits h env hv).1⟩
  · exact (run_of_isDigits_of_lt h env hlt).1
  · exact Parse.result_number_eq_ok_iff ht
  · exact Parse.result_number_eq_error_iff ht
  · exact Parse.parseWithin_eq_literal_iff ht hbody
  · exact Parse.parseWithin_eq_tooLarge ht hv after

/-- The largest value behind zeros, the next number, the smallest value as a lexeme of its own, and
a sign without digits. -/
theorem run_numeral_borders :
    (run "0009223372036854775807" ∅).result = .ok ⟨9223372036854775807, by decide⟩ ∧
    (run "9223372036854775808" ∅).result =
      .error (.parsing (.tooLarge ⟨.number, "9223372036854775808", ⟨⟨1, 1⟩, ⟨1, 20⟩⟩⟩)) ∧
    parseWithin 0 [⟨.number, "-9223372036854775808", .initial⟩] =
      .ok (.literal ⟨-9223372036854775808, by decide⟩) ∧
    parseWithin 0 [⟨.number, "+", .initial⟩] = .error (.tooLarge ⟨.number, "+", .initial⟩) := by
  obtain ⟨hrun, hparse⟩ := run_numeral
  refine ⟨?_, ?_, ?_, ?_⟩
  · have hdigits : Numeral.IsDigits "0009223372036854775807".toList :=
      ⟨by simp, by simp⟩
    obtain ⟨-, -, hle, -⟩ := hrun "0009223372036854775807" ∅ hdigits
    obtain ⟨v, hv, hresult⟩ := hle (by decide +kernel)
    rw [hresult, Except.ok.injEq, Value.ext_iff, hv]
    decide +kernel
  · have hdigits : Numeral.IsDigits "9223372036854775808".toList := ⟨by simp, by simp⟩
    obtain ⟨-, -, -, hlt⟩ := hrun "9223372036854775808" ∅ hdigits
    exact hlt (by decide +kernel)
  · refine ((hparse ⟨.number, _, .initial⟩ rfl 0).2.1 _ _ rfl).mpr ?_
    have hdigits : Numeral.IsDigits "9223372036854775808".toList := ⟨by simp, by simp⟩
    exact Numeral.Spells.minus hdigits
  · refine (hparse ⟨.number, "+", .initial⟩ rfl 0).2.2 (fun v hv => ?_) []
    rw [← Numeral.read?_eq_some_iff] at hv
    cases hv

end Reckoner
