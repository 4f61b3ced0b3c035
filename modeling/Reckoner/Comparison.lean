import Reckoner.Run

/-!
# Comparing sources

Two sources are compared stage by stage, as far as both get: their scans, their tokens one by
one, their parses, and their trees. Tokens are compared by kind and lexeme, wherever they stand;
a scan error is compared with its location.

* `sameScan_iff`, `sameParse_iff`: the comparisons are equality of the outcomes without places.
-/

namespace Reckoner

/-- Whether two scans have the same outcome, the places of tokens aside. -/
def sameScan : Except ScanError (List Token) → Except ScanError (List Token) → Bool
  | .ok ts, .ok us => ts.map Token.unplaced = us.map Token.unplaced
  | .error d, .error e => d = e
  | _, _ => false

/-- Whether two parses have the same outcome, the places of found tokens aside. -/
def sameParse : Except ParseError Expr → Except ParseError Expr → Bool
  | .ok s, .ok t => s = t
  | .error d, .error e => d.unplaced = e.unplaced
  | _, _ => false

theorem sameScan_iff {a b : Except ScanError (List Token)} :
    sameScan a b = true ↔
      a.map (List.map Token.unplaced) = b.map (List.map Token.unplaced) := by
  cases a <;> cases b <;> simp [sameScan, Except.map]

theorem sameParse_iff {a b : Except ParseError Expr} :
    sameParse a b = true ↔ a.mapError ParseError.unplaced = b.mapError ParseError.unplaced := by
  have hok (t : Expr) : (Except.ok t).mapError ParseError.unplaced = .ok t := rfl
  have herror (e : ParseError) :
      (Except.error e : Except _ Expr).mapError ParseError.unplaced = .error e.unplaced := rfl
  cases a <;> cases b <;> simp [sameParse, hok, herror]

/-- How two sources compare. What a source does not reach is left out. -/
structure Comparison where
  sameScan : Bool
  /-- Token by token, over the length of the shorter list. -/
  sameTokens? : Option (List Bool)
  sameParse? : Option Bool
  sameTree? : Option Bool

namespace Comparison

/-- The comparison of two trees, if there are two. -/
def ofParses : Except ParseError Expr → Except ParseError Expr → Option Bool
  | .ok s, .ok t => some (s = t)
  | _, _ => none

/-- The comparison of two scans and of what they are parsed to. -/
def ofScans : Except ScanError (List Token) → Except ScanError (List Token) → Comparison
  | .ok ts, .ok us =>
    { sameScan := Reckoner.sameScan (.ok ts) (.ok us)
      sameTokens? := some (List.zipWith (fun t u => t.unplaced = u.unplaced) ts us)
      sameParse? := some (Reckoner.sameParse (parse ts) (parse us))
      sameTree? := ofParses (parse ts) (parse us) }
  | a, b => ⟨Reckoner.sameScan a b, none, none, none⟩

/-- The comparison of two sources. -/
def ofSources (a b : String) : Comparison :=
  ofScans (scan a) (scan b)

end Comparison

end Reckoner
