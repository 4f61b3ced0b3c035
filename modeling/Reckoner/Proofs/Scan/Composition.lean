import Reckoner.Proofs.Scan.Reads

/-!
# Scanning one text behind another

A source that scans can be continued. If the first character behind it does not go on with the
lexeme it ends in, the whole scans as its two parts do, with the places of the second part moved
behind the first. A source that fails to scan fails in the same way whatever follows.

* `Scan.Reads.shift`: a text is read in the same way wherever it begins.
* `scan_append`: the scan of two sources, one behind the other.
-/

namespace Reckoner

open Text

/-! ## Texts that begin elsewhere -/

/-- The token as it is read if its text begins `here`. -/
def Token.shift (here : Location) (t : Token) : Token :=
  { t with span := ⟨here.shift t.span.start, here.shift t.span.stop⟩ }

/-- The error as it is reported if its text begins `here`. -/
def ScanError.shift (here : Location) (e : ScanError) : ScanError :=
  { e with location := here.shift e.location }

namespace Scan

/-- What has been read as it is read if the text begins `here`. -/
def shift (here : Location) (s : Scan) : Scan :=
  ⟨s.tokens.map (Token.shift here), here.shift s.stop, s.rest⟩

/-- A text is read in the same way wherever it begins. -/
theorem Reads.shift (here : Location) (before : List Char) {cs : List Char} {s : Scan}
    (h : Reads (.ofText before) cs s) : Reads (here.after before) cs (s.shift here) := by
  generalize hplace : Location.ofText before = place at h
  induction h generalizing before with
  | stuck hcut =>
    subst hplace
    rw [Scan.shift, Location.shift_ofText]
    exact .stuck hcut
  | @blank place c cs s hc _ ih =>
    have hnext := ih (before ++ [c]) (by rw [Location.ofText_concat, hplace])
    rw [Location.after_append] at hnext
    exact .blank hc hnext
  | @lexeme place kind lexeme cs s hmatches hcs _ ih =>
    subst hplace
    have hnext := ih (before ++ lexeme) (Location.after_ofText before lexeme).symm
    rw [Location.after_append] at hnext
    have hstop : here.shift ((Location.ofText before).after lexeme) =
        (here.after before).after lexeme := by
      rw [Location.after_ofText, Location.shift_ofText, Location.after_append]
    have hread := Reads.lexeme hmatches hcs hnext
    rw [← hstop] at hread
    rwa [← Location.shift_ofText here before] at hread ⊢

end Scan

/-! ## The lexeme at the end -/

/-- The last character of a source belongs to a lexeme of the kind: one of the tokens read reaches
to the end of the source. -/
def EndsIn (source : String) (kind : Token.Kind) : Prop :=
  ∃ t ∈ (Scan.ofSource source).tokens, t.kind = kind ∧ t.span.stop = .ofText source.toList

instance (source : String) (kind : Token.Kind) : Decidable (EndsIn source kind) :=
  List.decidableBEx _ _

/-- No character at the front of a text goes on with the lexeme that a source ends in. -/
def Parts (a b : String) : Prop :=
  ∀ c ∈ b.toList.head?,
    (EndsIn a .number → c.isDigit = false) ∧ (EndsIn a .identifier → isWord c = false)

instance (a b : String) : Decidable (Parts a b) :=
  Option.decidableForallMem _

theorem Scan.Reads.borders_of_parts {a b : String} {s : Scan} (h : Reads .start a.toList s)
    (hrest : s.rest = []) (hparts : Parts a b) : s.Borders b.toList := by
  intro t ht hstop c hc
  have hends : EndsIn a t.kind := by
    refine ⟨t, ?_, rfl, ?_⟩
    · rwa [ofSource_eq h]
    · rw [hstop, h.stop_eq hrest, Location.after_start]
  cases hkind : t.kind with
  | number => exact (hparts c hc).1 (hkind ▸ hends)
  | identifier => exact (hparts c hc).2 (hkind ▸ hends)
  | operator | assign | openParen | closeParen | endMarker => rfl

/-! ## Whole sources -/

/-- A source that scans is continued by another that does not go on with its last lexeme: the
tokens of the first without the end marker come first, and then what the second scans to, moved
behind the first. A source that fails to scan fails at the same place whatever follows, and what
follows is left with the remainder. -/
theorem scan_append (a b : String) :
    (∀ tokens, scan a = .ok tokens → Parts a b →
      ∃ body, tokens = body ++ [.endMarker (.ofText a.toList)] ∧
        (∀ more, scan b = .ok more →
          scan (a ++ b) = .ok (body ++ more.map (Token.shift (.ofText a.toList)))) ∧
        ∀ error, scan b = .error error →
          scan (a ++ b) = .error (error.shift (.ofText a.toList))) ∧
    ∀ error, scan a = .error error →
      scan (a ++ b) = .error ⟨error.remainder ++ b, error.location⟩ := by
  have htext : (a ++ b).toList = a.toList ++ b.toList := String.toList_append
  refine ⟨fun tokens ha hparts => ?_, fun error ha => ?_⟩
  · obtain ⟨s, hs, hrest, rfl⟩ := Scan.scan_eq_ok_iff.mp ha
    have hstop : s.stop = .ofText a.toList := by rw [hs.stop_eq hrest, Location.after_start]
    have hborders := hs.borders_of_parts hrest hparts
    have happend : ∀ u, Scan.Reads .start b.toList u →
        Scan.Reads .start (a ++ b).toList
          ⟨s.tokens ++ u.tokens.map (Token.shift s.stop), s.stop.shift u.stop, u.rest⟩ := by
      intro u hu
      exact htext ▸ hs.append hrest hborders (Scan.Reads.shift s.stop [] hu)
    rw [← hstop]
    refine ⟨s.tokens, rfl, fun more hb => ?_, fun error hb => ?_⟩
    · obtain ⟨u, hu, hurest, rfl⟩ := Scan.scan_eq_ok_iff.mp hb
      refine Scan.scan_eq_ok_iff.mpr ⟨_, happend u hu, hurest, ?_⟩
      rw [List.map_append, List.append_assoc]
      rfl
    · obtain ⟨u, hu, hurest, rfl⟩ := Scan.scan_eq_error_iff.mp hb
      exact Scan.scan_eq_error_iff.mpr ⟨_, happend u hu, hurest, rfl⟩
  · obtain ⟨s, hs, hrest, rfl⟩ := Scan.scan_eq_error_iff.mp ha
    have happend := hs.append_rest hrest b.toList
    rw [← htext] at happend
    refine Scan.scan_eq_error_iff.mpr ⟨_, happend, by simp [hrest], ?_⟩
    rw [String.ofList_append, String.ofList_toList]

/-- A number continued by a name, and by a letter that no lexeme starts with, on a second line; and
a source that fails. -/
theorem scan_append_secondLine :
    Parts "x\n1" "ab +\n2" ∧ Parts "x\n1" "é" ∧
      (∃ body, scan "x\n1" = .ok (body ++ [.endMarker ⟨2, 2⟩]) ∧
        scan ("x\n1" ++ "ab +\n2") = .ok (body ++ [⟨.identifier, "ab", ⟨2, 2⟩, ⟨2, 4⟩⟩,
          ⟨.operator .add, "+", ⟨2, 5⟩, ⟨2, 6⟩⟩, ⟨.number, "2", ⟨3, 1⟩, ⟨3, 2⟩⟩,
          .endMarker ⟨3, 2⟩]) ∧
        scan ("x\n1" ++ "é") = .error ⟨"é", ⟨2, 2⟩⟩) ∧
      scan ("3.5" ++ "x") = .error ⟨".5x", ⟨1, 2⟩⟩ := by
  have hname : Parts "x\n1" "ab +\n2" := by decide +kernel
  have hletter : Parts "x\n1" "é" := by decide +kernel
  have hx : scan "x\n1" = .ok [⟨.identifier, "x", ⟨1, 1⟩, ⟨1, 2⟩⟩,
      ⟨.number, "1", ⟨2, 1⟩, ⟨2, 2⟩⟩, .endMarker ⟨2, 2⟩] := by
    decide +kernel
  have hab : scan "ab +\n2" = .ok [⟨.identifier, "ab", ⟨1, 1⟩, ⟨1, 3⟩⟩,
      ⟨.operator .add, "+", ⟨1, 4⟩, ⟨1, 5⟩⟩, ⟨.number, "2", ⟨2, 1⟩, ⟨2, 2⟩⟩,
      .endMarker ⟨2, 2⟩] := by
    decide +kernel
  have hé : scan "é" = .error ⟨"é", ⟨1, 1⟩⟩ := by decide +kernel
  have hfails : scan "3.5" = .error ⟨".5", ⟨1, 2⟩⟩ := by decide +kernel
  obtain ⟨body, hbody, hmore, -⟩ := (scan_append "x\n1" "ab +\n2").1 _ hx hname
  obtain ⟨body', hbody', -, herror⟩ := (scan_append "x\n1" "é").1 _ hx hletter
  refine ⟨hname, hletter, ⟨body, hx.trans (congrArg _ hbody), hmore _ hab, herror _ hé⟩,
    (scan_append "3.5" "x").2 _ hfails⟩

end Reckoner
