import Reckoner.Proofs.Parse.Reads
import Mathlib.Data.List.Basic

/-!
# Where the tokens end

Parsing looks at the sentence in front of the first end marker. The readers would come to the same
result on the tokens as they stand: no reader passes an end marker, and an end marker found among
the tokens and one supposed behind the last of them are the same to every reader, at every level.

* `Parse.Reads.append_tail`: a call reads in front of an end marker as it does where its tokens run
  out.
* `Parse.Reads.passes`: what a call passes holds no end marker, whether or not it succeeds.
* `parseInPlace_eq`: parsing is reading the tokens in place.
* `parseWithin_at_endMarker`: neither an end marker behind the last token nor what follows the first
  end marker changes the result of parsing.
-/

namespace Reckoner

namespace Parse

variable {limit levels : Nat} {stop stop' t : Token} {ts rest tail : List Token} {tree : Expr}
  {call : Call} {result : Result}

/-! ## In front of an end marker -/

/-- The result of a call whose tokens more tokens follow, if it passes none of these. -/
def Result.before (tail : List Token) (result : Result) : Result :=
  result.map fun out => (out.1, out.2 ++ tail)

/-- What holds of a first token and of the end marker holds in front of the end marker. -/
theorem forall_head?_append {P : Token → Prop} (htail : tail.headD stop' = stop)
    (h : ∀ t ∈ ts.head?, P t) (hstop : P stop) : ∀ t ∈ (ts ++ tail).head?, P t := by
  cases ts with
  | nil =>
    cases tail with
    | nil => simp
    | cons u tail =>
      obtain rfl : u = stop := htail
      simpa using hstop
  | cons u ts => exact h

theorem headD_append (htail : tail.headD stop' = stop) :
    (ts ++ tail).headD stop' = ts.headD stop := by
  cases ts with
  | nil => exact htail
  | cons u ts => rfl

/-- A call reads in front of an end marker as it does where its tokens run out. -/
theorem Reads.append_tail (hstop : stop.kind = .endMarker) (htail : tail.headD stop' = stop)
    (h : Reads limit stop levels call ts result) :
    Reads limit stop' levels call (ts ++ tail) (result.before tail) := by
  induction h with
  | number kind numeral => exact .number kind numeral
  | tooLarge kind numeral => exact .tooLarge kind numeral
  | name kind hts => exact .name kind (forall_head?_append htail hts (by simp [hstop]))
  | assign kind sign_kind _ ih => exact .assign kind sign_kind ih
  | assignError kind sign_kind _ ih => exact .assignError kind sign_kind ih
  | assignTooDeep kind sign_kind => exact .assignTooDeep kind sign_kind
  | group kind closing_kind _ ih => exact .group kind closing_kind ih
  | unclosed kind hrest _ ih =>
    rw [← headD_append htail]
    exact .unclosed kind (forall_head?_append htail hrest (by simp [hstop])) ih
  | groupError kind _ ih => exact .groupError kind ih
  | groupTooDeep kind => exact .groupTooDeep kind
  | unexpected hts =>
    rw [← headD_append htail]
    exact .unexpected (forall_head?_append htail hts (by simp [hstop]))
  | chain _ _ ihfirst ihmore => exact .chain ihfirst ihmore
  | firstError _ ih => exact .firstError ih
  | done hop =>
    exact .done (forall_head?_append htail hop (by simp [operator?, hstop]))
  | more hop _ _ ihright ihmore => exact .more hop ihright ihmore
  | rightError hop _ ih => exact .rightError hop ih

/-! ## What a call passes -/

/-- The call stands in front of the rest: there it goes on, or the token there is its error's. -/
def Result.StandsAt (stop : Token) (rest : List Token) : Result → Prop
  | .ok out => out.2 = rest
  | .error e => e.found = rest.headD stop

/-- The tokens passed on the way to a result hold no end marker. -/
def Passes (stop : Token) (ts : List Token) (result : Result) : Prop :=
  ∃ passed rest, ts = passed ++ rest ∧ (∀ t ∈ passed, t.kind ≠ .endMarker) ∧
    result.StandsAt stop rest

theorem Passes.of_standsAt (h : result.StandsAt stop ts) : Passes stop ts result :=
  ⟨[], ts, rfl, by simp, h⟩

theorem Passes.cons (ht : t.kind ≠ .endMarker) (h : Passes stop ts result) :
    Passes stop (t :: ts) result := by
  obtain ⟨passed, rest, rfl, hpassed, hresult⟩ := h
  exact ⟨t :: passed, rest, rfl, by simpa using ⟨ht, hpassed⟩, hresult⟩

theorem Passes.trans (h : Passes stop ts (.ok (tree, rest))) (hrest : Passes stop rest result) :
    Passes stop ts result := by
  obtain ⟨passed, _, rfl, hpassed, rfl⟩ := h
  obtain ⟨more, rest, rfl, hmore, hresult⟩ := hrest
  refine ⟨passed ++ more, rest, (List.append_assoc ..).symm, fun t ht => ?_, hresult⟩
  obtain ht | ht := List.mem_append.mp ht
  · exact hpassed t ht
  · exact hmore t ht

/-- What a call passes holds no end marker, whether or not it succeeds. -/
theorem Reads.passes (h : Reads limit stop levels call ts result) : Passes stop ts result := by
  induction h with
  | number kind _ => exact .cons (by simp [kind]) (.of_standsAt rfl)
  | tooLarge | groupTooDeep | unexpected | done => exact .of_standsAt rfl
  | name kind _ => exact .cons (by simp [kind]) (.of_standsAt rfl)
  | assign kind sign_kind _ ih | assignError kind sign_kind _ ih =>
    exact .cons (by simp [kind]) (.cons (by simp [sign_kind]) ih)
  | assignTooDeep kind _ => exact .cons (by simp [kind]) (.of_standsAt rfl)
  | group kind closing_kind _ ih =>
    exact .cons (by simp [kind]) (ih.trans (.cons (by simp [closing_kind]) (.of_standsAt rfl)))
  | unclosed kind _ _ ih => exact .cons (by simp [kind]) (ih.trans (.of_standsAt rfl))
  | groupError kind _ ih => exact .cons (by simp [kind]) ih
  | chain _ _ ihfirst ihmore => exact ihfirst.trans ihmore
  | firstError _ ih => exact ih
  | more hop _ _ ihright ihmore =>
    have hkind := (operator?_eq_some_iff.mp hop).1
    exact .cons (by simp [hkind]) (ihright.trans ihmore)
  | rightError hop _ ih =>
    have hkind := (operator?_eq_some_iff.mp hop).1
    exact .cons (by simp [hkind]) ih

end Parse

/-! ## Reading tokens in place -/

open Parse Sentence

/-- The expression that a list of tokens spells, read off the whole list. An end marker is one of
the tokens, or is found behind the last of them. -/
def parseInPlace (limit : Nat) (tokens : List Token) : Except ParseError Expr := do
  let stop := Token.endMarker (placeAfter tokens)
  let parsed ← Parse.expression limit stop limit tokens
  let next := parsed.rest.headD stop
  if next.kind = .endMarker then return parsed.tree else throw (.trailing next)

theorem parseInPlace_of_reads {limit : Nat} {tokens : List Token} {result : Result}
    (h : Reads limit (.endMarker (placeAfter tokens)) limit (.symbol .expression) tokens result) :
    parseInPlace limit tokens = result.bind fun out =>
      let next := out.2.headD (.endMarker (placeAfter tokens))
      if next.kind = .endMarker then .ok out.1 else .error (.trailing next) := by
  rw [← result_of_reads h, result_expression, parseInPlace]
  cases expression limit (.endMarker (placeAfter tokens)) limit tokens <;> rfl

theorem parseInPlace_eq (limit : Nat) (tokens : List Token) :
    parseInPlace limit tokens = parseWithin limit tokens := by
  have hstop := kind_stop tokens
  obtain ⟨tail, htokens, htail⟩ := exists_tail tokens
  obtain ⟨result, h⟩ : ∃ result, Reads limit (ofTokens tokens).stop limit (.symbol .expression)
      (ofTokens tokens).body result := exists_reads ..
  have hplace : Reads limit (.endMarker (placeAfter tokens)) limit (.symbol .expression) tokens
      (result.before tail) := by
    have happend := h.append_tail hstop htail
    rwa [← htokens] at happend
  rw [parseInPlace_of_reads hplace, parseWithin_eq, result_of_reads h]
  cases result with
  | error e => rfl
  | ok out =>
    obtain ⟨tree, rest⟩ := out
    simp only [Result.before, Except.map, Except.bind, headD_append htail]
    cases rest with
    | nil => simp [hstop]
    | cons t rest =>
      obtain ⟨passed, _, hbody, -, rfl⟩ := h.passes
      have hmem : t ∈ (ofTokens tokens).body := by simp [hbody]
      have ht : t.kind ≠ .endMarker := not_endMarker_of_mem hmem
      simp [ht]

theorem parseWithin_append_endMarker (limit : Nat) {tokens : List Token}
    (h : ∀ t ∈ tokens, t.kind ≠ .endMarker) :
    parseWithin limit (tokens ++ [.endMarker (placeAfter tokens)]) = parseWithin limit tokens := by
  rw [parseWithin_eq, parseWithin_eq, ofTokens_append_cons h rfl, ofTokens_of_forall h]

theorem parseWithin_append_cons_endMarker (limit : Nat) {before : List Token} {stop : Token}
    (hbefore : ∀ t ∈ before, t.kind ≠ .endMarker) (hstop : stop.kind = .endMarker)
    (after after' : List Token) :
    parseWithin limit (before ++ stop :: after) = parseWithin limit (before ++ stop :: after') := by
  rw [parseWithin_eq, parseWithin_eq, ofTokens_append_cons hbefore hstop,
    ofTokens_append_cons hbefore hstop]

/-- Parsing is reading the tokens in place. Where the tokens hold no end marker, an empty one at the
end of the last token, or at the start of the first line if there is no token, changes nothing; and
where they do, nothing behind the first one plays a part. No call passes an end marker, whether or
not it succeeds. -/
theorem parseWithin_at_endMarker (limit : Nat) (tokens : List Token) :
    parseInPlace limit tokens = parseWithin limit tokens ∧
    parseWithin limit [] = parseWithin limit [⟨.endMarker, "", ⟨⟨1, 1⟩, ⟨1, 1⟩⟩⟩] ∧
    (∀ last, tokens.getLast? = some last → (∀ t ∈ tokens, t.kind ≠ .endMarker) →
      parseWithin limit tokens =
        parseWithin limit
          (tokens ++ [⟨.endMarker, "", ⟨last.span.stop, last.span.stop⟩⟩])) ∧
    (∀ k stop, tokens[k]? = some stop → stop.kind = .endMarker →
      (∀ t ∈ tokens.take k, t.kind ≠ .endMarker) →
        parseWithin limit tokens = parseWithin limit (tokens.take (k + 1)) ∧
        ∀ after, parseWithin limit tokens = parseWithin limit (tokens.take (k + 1) ++ after)) ∧
    ∀ (stop : Token) (levels : Nat) (call : Call),
      Passes stop tokens (call.result limit stop levels tokens) := by
  refine ⟨parseInPlace_eq limit tokens, ?_, fun last hlast hnone => ?_,
    fun k stop hk hstop hbefore => ?_, fun stop levels call => (result_eq_iff.mp rfl).passes⟩
  · exact (parseWithin_append_endMarker limit (List.forall_mem_nil _)).symm
  · have hclosed := parseWithin_append_endMarker limit hnone
    rw [placeAfter_of_getLast? hlast] at hclosed
    exact hclosed.symm
  · obtain ⟨hlt, rfl⟩ := List.getElem?_eq_some_iff.mp hk
    have hsplit : tokens.take k ++ tokens[k] :: tokens.drop (k + 1) = tokens := by
      rw [List.getElem_cons_drop, List.take_append_drop]
    have hbehind : ∀ after, parseWithin limit tokens =
        parseWithin limit (tokens.take (k + 1) ++ after) := by
      intro after
      have hcut :=
        parseWithin_append_cons_endMarker limit hbefore hstop (tokens.drop (k + 1)) after
      rwa [hsplit, List.append_cons, ← List.take_succ_eq_append_getElem hlt] at hcut
    have hnothing := hbehind []
    rw [List.append_nil] at hnothing
    exact ⟨hnothing, hbehind⟩

/-- A sum that lacks its second operand over two lines, and a parenthesis behind the end marker. -/
def endsEarly : List Token :=
  [⟨.identifier, "x", ⟨⟨1, 1⟩, ⟨1, 2⟩⟩⟩, ⟨.operator .add, "+", ⟨⟨2, 3⟩, ⟨2, 4⟩⟩⟩,
    .endMarker ⟨3, 6⟩, ⟨.openParen, "(", ⟨⟨3, 7⟩, ⟨3, 8⟩⟩⟩]

/-- The end marker among the tokens is the one that is reported. Without it the end of the operator
is reported, and without any token the start of the first line. -/
theorem parseWithin_at_endMarker_endsEarly :
    endsEarly[2]? = some (.endMarker ⟨3, 6⟩) ∧ (∀ t ∈ endsEarly.take 2, t.kind ≠ .endMarker) ∧
      parseWithin 1 (endsEarly.take 3) =
        .error (.unexpected ⟨.endMarker, "", ⟨⟨3, 6⟩, ⟨3, 6⟩⟩⟩) ∧
      parseWithin 1 endsEarly = .error (.unexpected ⟨.endMarker, "", ⟨⟨3, 6⟩, ⟨3, 6⟩⟩⟩) ∧
      (endsEarly.take 2).getLast? = some ⟨.operator .add, "+", ⟨⟨2, 3⟩, ⟨2, 4⟩⟩⟩ ∧
      parseWithin 1 (endsEarly.take 2 ++ [⟨.endMarker, "", ⟨⟨2, 4⟩, ⟨2, 4⟩⟩⟩]) =
        .error (.unexpected ⟨.endMarker, "", ⟨⟨2, 4⟩, ⟨2, 4⟩⟩⟩) ∧
      parseWithin 1 (endsEarly.take 2) =
        .error (.unexpected ⟨.endMarker, "", ⟨⟨2, 4⟩, ⟨2, 4⟩⟩⟩) ∧
      parseWithin 1 [] = .error (.unexpected ⟨.endMarker, "", ⟨⟨1, 1⟩, ⟨1, 1⟩⟩⟩) := by
  have hbefore : ∀ t ∈ endsEarly.take 2, t.kind ≠ .endMarker := by decide
  have htake : parseWithin 1 (endsEarly.take 3) =
      .error (.unexpected ⟨.endMarker, "", ⟨⟨3, 6⟩, ⟨3, 6⟩⟩⟩) := by
    decide +kernel
  have hclosed : parseWithin 1 (endsEarly.take 2 ++ [⟨.endMarker, "", ⟨⟨2, 4⟩, ⟨2, 4⟩⟩⟩]) =
      .error (.unexpected ⟨.endMarker, "", ⟨⟨2, 4⟩, ⟨2, 4⟩⟩⟩) := by
    decide +kernel
  have hempty : parseWithin 1 [⟨.endMarker, "", ⟨⟨1, 1⟩, ⟨1, 1⟩⟩⟩] =
      .error (.unexpected ⟨.endMarker, "", ⟨⟨1, 1⟩, ⟨1, 1⟩⟩⟩) := by
    decide +kernel
  obtain ⟨-, -, -, hcut, -⟩ := parseWithin_at_endMarker 1 endsEarly
  obtain ⟨-, hnothing, happend, -⟩ := parseWithin_at_endMarker 1 (endsEarly.take 2)
  have hfirst := (hcut 2 _ rfl rfl hbefore).1
  have hsupposed := happend _ rfl hbefore
  exact ⟨rfl, hbefore, htake, hfirst.trans htake, rfl, hclosed, hsupposed.trans hclosed,
    hnothing.trans hempty⟩

end Reckoner
