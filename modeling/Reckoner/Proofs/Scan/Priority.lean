import Reckoner.Proofs.Scan.Cut
import Mathlib.Data.List.MinMax

/-!
# Priority and length of matches

At no place of a text do two of the lexical patterns match. So it makes no difference in which order
the patterns stand, nor whether a scan takes the match of the first pattern that has one or the
longest match that any pattern has.

* `Token.Pattern.TakesLongest`: the rule of the longest match. It speaks of the patterns as a set.
* `Token.Pattern.takesLongest_longestCut?`, `Token.Pattern.takesLongest_firstCut?`: comparing the
  matches of all patterns keeps to the rule, and among patterns that start with different characters
  so does going by priority.
* `scanBy_eq_scan`: every order of the patterns and every rule of the longest match give the same
  scan.
-/

namespace Reckoner

theorem Piece.eq_of_lexeme_eq {cs : List Char} {a b : Piece cs} (hkind : a.kind = b.kind)
    (hlexeme : a.lexeme = b.lexeme) : a = b := by
  obtain ⟨kind, lexeme, rest, hsplit, _⟩ := a
  obtain ⟨kind', lexeme', rest', hsplit', _⟩ := b
  obtain rfl : kind = kind' := hkind
  obtain rfl : lexeme = lexeme' := hlexeme
  obtain rfl : rest = rest' := List.append_cancel_left (hsplit.trans hsplit'.symm)
  rfl

namespace Token.Pattern

variable {patterns others : List Pattern} {p q : Pattern} {cs : List Char}
  {cut? cut?' : (cs : List Char) → Option (Piece cs)}

/-! ## The longest match -/

/-- One of the patterns matches the lexeme of a piece in full, and gives it its kind. -/
def Offers (patterns : List Pattern) (piece : Piece cs) : Prop :=
  ∃ p ∈ patterns, piece.kind = p.kind ∧ p.Matches piece.lexeme

/-- What is cut off a text is the longest match that any of the patterns has at the front of it;
nothing is cut off only where none of them has a match. -/
structure TakesLongest (patterns : List Pattern) (cut? : (cs : List Char) → Option (Piece cs)) :
    Prop where
  none : ∀ cs, cut? cs = none → ∀ piece : Piece cs, ¬ Offers patterns piece
  offers : ∀ cs piece, cut? cs = some piece → Offers patterns piece
  longest : ∀ cs piece, cut? cs = some piece →
    ∀ other : Piece cs, Offers patterns other → other.lexeme.length ≤ piece.lexeme.length

/-- The longest of the pieces that the patterns cut off a text. -/
def longestCut? (patterns : List Pattern) (cs : List Char) : Option (Piece cs) :=
  (patterns.filterMap fun p => p.cut? cs).argmax fun piece => piece.lexeme.length

/-- The rule speaks of the patterns as a set. -/
theorem TakesLongest.of_mem_iff (h : TakesLongest patterns cut?)
    (hmem : ∀ p, p ∈ patterns ↔ p ∈ others) : TakesLongest others cut? := by
  have hoffers : ∀ (cs : List Char) (piece : Piece cs),
      Offers others piece ↔ Offers patterns piece :=
    fun cs piece => exists_congr fun p => and_congr_left' (hmem p).symm
  refine ⟨fun cs hcut piece hpiece => ?_, fun cs piece hcut => ?_, fun cs piece hcut other ho => ?_⟩
  · exact h.none cs hcut piece ((hoffers cs piece).mp hpiece)
  · exact (hoffers cs piece).mpr (h.offers cs piece hcut)
  · exact h.longest cs piece hcut other ((hoffers cs other).mp ho)

/-! ## What a single pattern cuts off -/

theorem exists_cut?_of_matches {other : Piece cs} (h : p.Matches other.lexeme) :
    ∃ piece, p.cut? cs = some piece := by
  cases hcut : p.cut? cs with
  | some piece => exact ⟨piece, rfl⟩
  | none =>
    obtain ⟨c, hc, hstarts⟩ := h.exists_starts other.rest
    rw [other.lexeme_append_rest] at hc
    rw [cut?_eq_none_iff.mp hcut c hc] at hstarts
    cases hstarts

/-- A pattern cuts off the longest of its matches. -/
theorem length_le_of_cut? {piece other : Piece cs} (hcut : p.cut? cs = some piece)
    (hother : p.Matches other.lexeme) : other.lexeme.length ≤ piece.lexeme.length := by
  obtain ⟨-, hmatches, hstop⟩ := of_cut? hcut
  have hsplit : other.lexeme ++ other.rest = piece.lexeme ++ piece.rest :=
    other.lexeme_append_rest.trans piece.lexeme_append_rest.symm
  obtain ⟨more, hlexeme, -⟩ | ⟨more, hlexeme, hrest⟩ := List.append_eq_append_iff.mp hsplit
  · rw [hlexeme, List.length_append]
    exact Nat.le_add_right ..
  · cases more with
    | nil => exact (congrArg List.length (hlexeme.trans (List.append_nil _))).le
    | cons c more =>
      -- the pattern would go on with the character behind its piece
      have hstop := hstop c (by rw [hrest]; rfl)
      cases hpiece : piece.lexeme with
      | nil => exact absurd hpiece piece.lexeme_ne_nil
      | cons d ds =>
        rw [hlexeme, hpiece] at hother
        rw [hother.2 c (by simp)] at hstop
        cases hstop

theorem offers_of_cut? (hp : p ∈ patterns) {piece : Piece cs} (hcut : p.cut? cs = some piece) :
    Offers patterns piece :=
  ⟨p, hp, (of_cut? hcut).1, (of_cut? hcut).2.1⟩

/-! ## Rules that take the longest match -/

theorem takesLongest_longestCut? (patterns : List Pattern) :
    TakesLongest patterns (longestCut? patterns) := by
  refine ⟨fun cs hcut piece hpiece => ?_, fun cs piece hcut => ?_, fun cs piece hcut other ho => ?_⟩
  · obtain ⟨p, hp, -, hmatches⟩ := hpiece
    obtain ⟨found, hfound⟩ := exists_cut?_of_matches hmatches
    have hnil := List.argmax_eq_none.mp hcut
    exact absurd hfound (by simp [List.filterMap_eq_nil_iff.mp hnil p hp])
  · obtain ⟨p, hp, hfound⟩ := List.mem_filterMap.mp (List.argmax_mem hcut)
    exact offers_of_cut? hp hfound
  · obtain ⟨p, hp, -, hmatches⟩ := ho
    obtain ⟨found, hfound⟩ := exists_cut?_of_matches hmatches
    have hmem : found ∈ patterns.filterMap fun p => p.cut? cs :=
      List.mem_filterMap.mpr ⟨p, hp, hfound⟩
    have hle : found.lexeme.length ≤ piece.lexeme.length :=
      List.le_of_mem_argmax (f := fun piece : Piece cs => piece.lexeme.length) hmem hcut
    exact (length_le_of_cut? hfound hmatches).trans hle

/-- Patterns that start with different characters match at the same place only if they are the
same. -/
theorem Apart.eq_of_matches (h : Apart patterns) (hp : p ∈ patterns) (hq : q ∈ patterns)
    {a b : Piece cs} (ha : p.Matches a.lexeme) (hb : q.Matches b.lexeme) : p = q := by
  obtain ⟨c, hc, hpc⟩ := ha.exists_starts a.rest
  obtain ⟨d, hd, hqd⟩ := hb.exists_starts b.rest
  rw [a.lexeme_append_rest] at hc
  rw [b.lexeme_append_rest] at hd
  obtain rfl : c = d := Option.mem_unique hc hd
  exact h p hp q hq c hpc hqd

theorem takesLongest_firstCut? (happart : Apart patterns) :
    TakesLongest patterns (firstCut? patterns) := by
  refine ⟨fun cs hcut piece hpiece => ?_, fun cs piece hcut => ?_, fun cs piece hcut other ho => ?_⟩
  · obtain ⟨p, hp, -, hmatches⟩ := hpiece
    obtain ⟨found, hfound⟩ := exists_cut?_of_matches hmatches
    rw [List.findSome?_eq_none_iff.mp hcut p hp] at hfound
    cases hfound
  · obtain ⟨p, hp, hfound⟩ := List.exists_of_findSome?_eq_some hcut
    exact offers_of_cut? hp hfound
  · obtain ⟨p, hp, hfound⟩ := List.exists_of_findSome?_eq_some hcut
    obtain ⟨q, hq, -, hmatches⟩ := ho
    obtain rfl : p = q := happart.eq_of_matches hp hq (of_cut? hfound).2.1 hmatches
    exact length_le_of_cut? hfound hmatches

/-- Among patterns that start with different characters there is one rule of the longest match. -/
theorem TakesLongest.unique (happart : Apart patterns) (h : TakesLongest patterns cut?)
    (h' : TakesLongest patterns cut?') : cut? = cut?' := by
  funext cs
  cases hcut : cut? cs with
  | none =>
    cases hcut' : cut?' cs with
    | none => rfl
    | some b => exact absurd (h'.offers cs b hcut') (h.none cs hcut b)
  | some a =>
    cases hcut' : cut?' cs with
    | none => exact absurd (h.offers cs a hcut) (h'.none cs hcut' a)
    | some b =>
      have hlength : a.lexeme.length = b.lexeme.length :=
        Nat.le_antisymm (h'.longest cs b hcut' a (h.offers cs a hcut))
          (h.longest cs a hcut b (h'.offers cs b hcut'))
      obtain ⟨p, hp, hkind, hmatches⟩ := h.offers cs a hcut
      obtain ⟨q, hq, hkind', hmatches'⟩ := h'.offers cs b hcut'
      obtain rfl : p = q := happart.eq_of_matches hp hq hmatches hmatches'
      have hlexeme : a.lexeme = b.lexeme :=
        (List.append_inj (a.lexeme_append_rest.trans b.lexeme_append_rest.symm) hlength).1
      rw [Piece.eq_of_lexeme_eq (hkind.trans hkind'.symm) hlexeme]

end Token.Pattern

/-! ## Scans -/

open Token.Pattern

/-- The tokens of a source, closed by an end marker, when another rule cuts it into pieces. -/
def scanBy (cut? : (cs : List Char) → Option (Piece cs)) (source : String) :
    Except ScanError (List Token) :=
  (Scan.read cut? .start source.toList).result

/-- Whatever the order of the patterns, a scan by priority has the same result, and so has a scan
by any rule of the longest match; comparing the matches of all patterns is one. -/
theorem scanBy_eq_scan {patterns : List Token.Pattern} (h : patterns.Perm Token.Pattern.all)
    (source : String) :
    scanBy (firstCut? patterns) source = scan source ∧
      TakesLongest patterns (longestCut? patterns) ∧
      ∀ cut?, TakesLongest patterns cut? → scanBy cut? source = scan source := by
  have hmem : ∀ p, p ∈ patterns ↔ p ∈ Token.Pattern.all := fun _ => h.mem_iff
  have happart : Apart patterns := fun p hp q hq =>
    apart_all p ((hmem p).mp hp) q ((hmem q).mp hq)
  have hscan : ∀ cut?, TakesLongest patterns cut? → scanBy cut? source = scan source := by
    intro cut? hcut
    rw [(hcut.of_mem_iff hmem).unique apart_all (takesLongest_firstCut? apart_all)]
    rfl
  exact ⟨hscan _ (takesLongest_firstCut? happart), takesLongest_longestCut? patterns, hscan⟩

/-- With the patterns in reverse, digits in front of a name are still a number of their own, digits
behind it still belong to it, and a scan stops at the same character. -/
theorem scanBy_eq_scan_reverse :
    Token.Pattern.all.reverse.Perm Token.Pattern.all ∧
      scanBy (firstCut? Token.Pattern.all.reverse) "12ab34" =
        .ok [⟨.number, "12", ⟨⟨1, 1⟩, ⟨1, 3⟩⟩⟩, ⟨.identifier, "ab34", ⟨⟨1, 3⟩, ⟨1, 7⟩⟩⟩,
          .endMarker ⟨1, 7⟩] ∧
      scanBy (longestCut? Token.Pattern.all.reverse) "x +@ 1" = .error ⟨"@ 1", ⟨1, 4⟩⟩ := by
  have hperm : Token.Pattern.all.reverse.Perm Token.Pattern.all := List.reverse_perm _
  refine ⟨hperm, ?_, ?_⟩
  · rw [(scanBy_eq_scan hperm "12ab34").1]
    decide +kernel
  · obtain ⟨-, htakes, hscan⟩ := scanBy_eq_scan hperm "x +@ 1"
    rw [hscan _ htakes]
    decide +kernel

end Reckoner
