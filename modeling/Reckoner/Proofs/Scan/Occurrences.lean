import Reckoner.Proofs.Scan.Reads

/-!
# Where tokens stand

A scan counts lines and columns while it reads, and its tokens carry what was counted. The spans
are those of the source: a token stands in it behind some of its text, the span runs from the place
behind this text to the place behind the lexeme, and the end marker stands behind all of it.

* `Scan.Reads.exists_occurrences`: each token that is read stands in the text, one behind the other.
* `scan_occurrences`: the spans of a whole source, and what follows for lines, columns and order.
-/

namespace Reckoner

/-- A token and the text in front of it. -/
structure Occurrence where
  before : List Char
  token : Token

namespace Occurrence

/-- The text in front of the token together with the lexeme. -/
def through (o : Occurrence) : List Char := o.before ++ o.token.lexeme.toList

/-- The token stands in a text right behind the text in front of it, and its span holds the lexeme
there. -/
structure StandsIn (o : Occurrence) (text : List Char) : Prop where
  begins : o.through <+: text
  start : o.token.span.start = .ofText o.before
  stop : o.token.span.stop = .ofText o.through

variable {o : Occurrence} {text : List Char}

/-- The span of a lexeme without a line feed stays on one line and counts its characters. -/
theorem StandsIn.stop_eq (h : o.StandsIn text) (hlexeme : '\n' ∉ o.token.lexeme.toList) :
    o.token.span.stop =
      ⟨o.token.span.start.line, o.token.span.start.column + o.token.lexeme.length⟩ := by
  rw [h.stop, h.start, through, ← Location.after_ofText, Location.after_eq_of_not_mem _ hlexeme,
    String.length_toList]

/-- The text between the ends of the span is the lexeme. -/
theorem StandsIn.textIn_span (h : o.StandsIn text) :
    o.token.span.textIn text = o.token.lexeme.toList := by
  obtain ⟨behind, rfl⟩ := h.begins
  have hspan : o.token.span = ⟨.ofText o.before, .ofText o.through⟩ := by rw [← h.start, ← h.stop]
  rw [hspan, through, List.append_assoc]
  exact Span.textIn_append ..

theorem StandsIn.start_lt_stop (h : o.StandsIn text) (hlexeme : o.token.lexeme.toList ≠ []) :
    o.token.span.start < o.token.span.stop := by
  rw [h.start, h.stop, through, ← Location.after_ofText]
  exact Location.lt_after _ hlexeme

/-- What stands further on in a text has a span behind. -/
theorem StandsIn.stop_le_start {next : Occurrence} (h : o.StandsIn text)
    (hnext : next.StandsIn text) (hbefore : o.through <+: next.before) :
    o.token.span.stop ≤ next.token.span.start := by
  rw [h.stop, hnext.start]
  exact Location.ofText_le_of_prefix hbefore

theorem StandsIn.stop_le (h : o.StandsIn text) : o.token.span.stop ≤ .ofText text := by
  rw [h.stop]
  exact Location.ofText_le_of_prefix h.begins

/-- The spans of tokens that stand one behind the other ascend and do not overlap, and the end of
the text lies behind them. -/
theorem pairwise_spans {occurrences : List Occurrence}
    (hstand : ∀ o ∈ occurrences, o.StandsIn text)
    (hlexemes : ∀ o ∈ occurrences, o.token.lexeme.toList ≠ [])
    (hpairwise : occurrences.Pairwise fun o next => o.through <+: next.before) :
    (occurrences.map token ++ [Token.endMarker (.ofText text)]).Pairwise fun t next =>
      t.span.start < next.span.start ∧ t.span.stop ≤ next.span.start := by
  have hascends : ∀ o ∈ occurrences, o.token.span.start < o.token.span.stop := fun o ho =>
    (hstand o ho).start_lt_stop (hlexemes o ho)
  rw [List.pairwise_append, List.pairwise_map]
  refine ⟨?_, List.pairwise_singleton .., ?_⟩
  · refine hpairwise.imp_of_mem fun {o next} ho hnext hbefore => ?_
    have hle := (hstand o ho).stop_le_start (hstand next hnext) hbefore
    exact ⟨(hascends o ho).trans_le hle, hle⟩
  · intro t ht u hu
    obtain ⟨o, ho, rfl⟩ := List.mem_map.mp ht
    obtain rfl := List.mem_singleton.mp hu
    have hle := (hstand o ho).stop_le
    exact ⟨(hascends o ho).trans_le hle, hle⟩

end Occurrence

namespace Scan

open Text

/-- Each token that is read behind a text stands in the whole text, one behind the other. -/
theorem Reads.exists_occurrences (before : List Char) {cs : List Char} {s : Scan}
    (h : Reads (.ofText before) cs s) :
    ∃ occurrences : List Occurrence, s.tokens = occurrences.map Occurrence.token ∧
      (∀ o ∈ occurrences, before <+: o.before ∧ o.StandsIn (before ++ cs)) ∧
      occurrences.Pairwise fun o next => o.through <+: next.before := by
  generalize hhere : Location.ofText before = here at h
  induction h generalizing before with
  | stuck _ => exact ⟨[], rfl, by simp, List.Pairwise.nil⟩
  | @blank here c cs s _ _ ih =>
    obtain ⟨occurrences, htokens, hstand, hpairwise⟩ :=
      ih (before ++ [c]) (by rw [Location.ofText_concat, hhere])
    refine ⟨occurrences, htokens, fun o ho => ?_, hpairwise⟩
    obtain ⟨hbefore, hstands⟩ := hstand o ho
    rw [List.append_assoc] at hstands
    exact ⟨(List.prefix_append ..).trans hbefore, hstands⟩
  | @lexeme here kind lexeme cs s _ _ _ ih =>
    obtain ⟨occurrences, htokens, hstand, hpairwise⟩ :=
      ih (before ++ lexeme) (by rw [← Location.after_ofText, hhere])
    let first : Occurrence :=
      ⟨before, kind, String.ofList lexeme, here, here.after lexeme⟩
    have hthrough : first.through = before ++ lexeme :=
      congrArg (before ++ ·) String.toList_ofList
    refine ⟨first :: occurrences, congrArg (first.token :: ·) htokens, fun o ho => ?_,
      List.pairwise_cons.mpr ⟨fun o ho => hthrough ▸ (hstand o ho).1, hpairwise⟩⟩
    obtain rfl | ho := List.mem_cons.mp ho
    · refine ⟨List.prefix_refl before, ?_, hhere.symm, ?_⟩
      · rw [hthrough, ← List.append_assoc]
        exact List.prefix_append ..
      · rw [hthrough, ← Location.after_ofText, hhere]
    · obtain ⟨hbefore, hstands⟩ := hstand o ho
      rw [List.append_assoc] at hstands
      exact ⟨(List.prefix_append ..).trans hbefore, hstands⟩

end Scan

/-- The tokens of a source stand in it in their order, and its end marker behind all of it. Each of
them keeps to one line and takes as many columns as it has characters, of which there is at least
one; the text between the ends of its span is its lexeme. Spans ascend and do not overlap. -/
theorem scan_occurrences {source : String} {tokens : List Token} (h : scan source = .ok tokens) :
    ∃ occurrences : List Occurrence,
      tokens = occurrences.map Occurrence.token ++ [.endMarker (.ofText source.toList)] ∧
      (∀ o ∈ occurrences, o.StandsIn source.toList ∧ o.token.kind ≠ .endMarker ∧
        o.token.span.stop.line = o.token.span.start.line ∧
        o.token.span.stop.column = o.token.span.start.column + o.token.lexeme.length ∧
        0 < o.token.lexeme.length ∧
        o.token.span.textIn source.toList = o.token.lexeme.toList) ∧
      occurrences.Pairwise (fun o next => o.through <+: next.before) ∧
      tokens.Pairwise fun t next =>
        t.span.start < next.span.start ∧ t.span.stop ≤ next.span.start := by
  obtain ⟨s, hreads, hrest, rfl⟩ := Scan.scan_eq_ok_iff.mp h
  have hstop : s.stop = .ofText source.toList := by
    rw [hreads.stop_eq hrest, Location.after_start]
  obtain ⟨occurrences, htokens, hstand, hpairwise⟩ := Scan.Reads.exists_occurrences [] hreads
  have hmatches : ∀ o ∈ occurrences, o.token.kind.Matches o.token.lexeme.toList := fun o ho =>
    hreads.matches _ (by rw [htokens]; exact List.mem_map_of_mem ho)
  have hspans := Occurrence.pairwise_spans (fun o ho => (hstand o ho).2)
    (fun o ho => (hmatches o ho).ne_nil) hpairwise
  rw [htokens, hstop]
  refine ⟨occurrences, rfl, fun o ho => ?_, hpairwise, hspans⟩
  have hstands := (hstand o ho).2
  have hspan := hstands.stop_eq (hmatches o ho).newline_not_mem
  refine ⟨hstands, fun hkind => ?_, by rw [hspan], by rw [hspan], ?_, hstands.textIn_span⟩
  · exact Token.Kind.not_matches_endMarker _ (hkind ▸ hmatches o ho)
  · rw [← String.length_toList]
    exact List.length_pos_iff.mpr (hmatches o ho).ne_nil

/-- A name with a letter that is not ASCII, a separator of lines that is no line feed, and a number
on the next line. -/
theorem scan_occurrences_twoLines :
    scan "aé\u2028+\r\n  7" = .ok [⟨.identifier, "aé", ⟨1, 1⟩, ⟨1, 3⟩⟩,
        ⟨.operator .add, "+", ⟨1, 4⟩, ⟨1, 5⟩⟩, ⟨.number, "7", ⟨2, 3⟩, ⟨2, 4⟩⟩,
        .endMarker ⟨2, 4⟩] ∧
      ∃ occurrences : List Occurrence, occurrences.length = 3 ∧
        ∀ o ∈ occurrences, o.StandsIn "aé\u2028+\r\n  7".toList ∧
          o.token.span.stop.line = o.token.span.start.line ∧
          o.token.span.textIn "aé\u2028+\r\n  7".toList = o.token.lexeme.toList := by
  have hscan : scan "aé\u2028+\r\n  7" = .ok [⟨.identifier, "aé", ⟨1, 1⟩, ⟨1, 3⟩⟩,
      ⟨.operator .add, "+", ⟨1, 4⟩, ⟨1, 5⟩⟩, ⟨.number, "7", ⟨2, 3⟩, ⟨2, 4⟩⟩,
      .endMarker ⟨2, 4⟩] := by
    decide +kernel
  obtain ⟨occurrences, htokens, hstand, -⟩ := scan_occurrences hscan
  have hlength := congrArg List.length htokens
  simp only [List.length_append, List.length_map, List.length_cons, List.length_nil] at hlength
  refine ⟨hscan, occurrences, by omega, fun o ho => ?_⟩
  obtain ⟨hstands, -, hline, -, -, htext⟩ := hstand o ho
  exact ⟨hstands, hline, htext⟩

end Reckoner
