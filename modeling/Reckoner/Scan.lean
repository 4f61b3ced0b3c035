import Reckoner.Token.Pattern

/-!
# Scanning

A scan cuts a source into pieces, from its beginning to the first place where no pattern cuts.
`Scan` keeps the tokens read up to there, the place, and the unread rest; `scan` is its outcome:
the tokens and an end marker where the whole source was read, and an error otherwise.

* `Scan.result_eq_ok_iff`, `Scan.result_eq_error_iff`: the outcome is decided by the unread rest.
-/

namespace Reckoner

/-- No pattern cuts the source at `location`, in front of `remainder`. -/
structure ScanError where
  remainder : String
  location : Location
  deriving DecidableEq

/-- The one-line text of a scan error. -/
def ScanError.message (e : ScanError) : String :=
  s!"Invalid symbol at {e.location}: {e.remainder}"

/-- What has been read of a source: the tokens, the place behind them, and the unread rest. -/
structure Scan where
  tokens : List Token
  stop : Location
  rest : List Char

namespace Scan

/-- The scan with one more token in front. -/
def keep (t : Token) (s : Scan) : Scan := { s with tokens := t :: s.tokens }

/-- Reads a text from a place on, piece by piece, as far as `cut?` finds one. -/
def read (cut? : (cs : List Char) → Option (Piece cs)) (here : Location) (cs : List Char) : Scan :=
  match cut? cs with
  | none => ⟨[], here, cs⟩
  | some p =>
    let next := here.after p.lexeme
    let scan := read cut? next p.rest
    match p.kind with
    | none => scan
    | some kind => scan.keep ⟨kind, String.ofList p.lexeme, here, next⟩
  termination_by cs.length
  decreasing_by exact p.length_rest_lt

/-- The scan of a source by the lexical patterns. -/
def ofSource (source : String) : Scan :=
  read (Token.Pattern.firstCut? Token.Pattern.all) .start source.toList

/-- The tokens with their end marker if the whole source was read, and the error otherwise. -/
def result (s : Scan) : Except ScanError (List Token) :=
  match s.rest with
  | [] => .ok (s.tokens ++ [.endMarker s.stop])
  | rest => .error ⟨String.ofList rest, s.stop⟩

theorem result_eq_ok_iff {s : Scan} {tokens : List Token} :
    s.result = .ok tokens ↔ s.rest = [] ∧ tokens = s.tokens ++ [.endMarker s.stop] := by
  unfold result
  split <;> simp_all [eq_comm]

theorem result_eq_error_iff {s : Scan} {e : ScanError} :
    s.result = .error e ↔ s.rest ≠ [] ∧ e = ⟨String.ofList s.rest, s.stop⟩ := by
  unfold result
  split <;> simp_all [eq_comm]

end Scan

/-- The tokens of a source, closed by an end marker. -/
def scan (source : String) : Except ScanError (List Token) :=
  (Scan.ofSource source).result

end Reckoner
