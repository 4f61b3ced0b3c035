import Reckoner.Proofs.Scan.Composition

/-!
# Where a scan stops

A scan fails in front of a character that no lexeme and no gap starts with, unless this character
goes on with the lexeme in front of it: a letter that is not ASCII stands within a name and nowhere
else. So a source that fails is split in one way only, into a part that scans and a remainder.

* `Token.Pattern.firstCut?_all_eq_none_iff`: the characters at which nothing is cut off.
* `scan_error_iff_stopsBehind`: the split of a source, its uniqueness, and the sources without one.
-/

namespace Reckoner

open Text

/-- Nothing starts with the character: it is no digit, letter or underscore of ASCII, no mark, and
not blank. -/
def Foreign (c : Char) : Prop :=
  c.isDigit = false ∧ c.isAlpha = false ∧ c ≠ '_' ∧ c ∉ ['+', '-', '*', '/', '=', '(', ')'] ∧
    isBlank c = false

instance (c : Char) : Decidable (Foreign c) :=
  inferInstanceAs (Decidable (_ ∧ _))

namespace Token.Pattern

theorem foreign_iff {c : Char} : Foreign c ↔ ∀ p ∈ all, p.starts c = false := by
  simp [Foreign, all, number, identifier, mark, gap, isNameStart, and_assoc]

/-- Nothing is cut off a text in front of a foreign character. -/
theorem firstCut?_all_eq_none_iff {cs : List Char} :
    firstCut? all cs = none ↔ ∀ c ∈ cs.head?, Foreign c := by
  rw [firstCut?_eq_none_iff]
  exact ⟨fun h c hc => foreign_iff.mpr fun p hp => h p hp c hc,
    fun h p hp c hc => foreign_iff.mp (h c hc) p hp⟩

end Token.Pattern

/-- The source is one that scans and a remainder behind it, at whose place nothing starts and where
no name goes on. -/
structure StopsBehind (source consumed remainder : String) (l : Location) : Prop where
  append_eq : consumed ++ remainder = source
  remainder_ne : remainder ≠ ""
  scans : ∃ tokens, scan consumed = .ok tokens
  place : l = .ofText consumed.toList
  head : ∀ c ∈ remainder.toList.head?,
    Foreign c ∧ (EndsIn consumed .identifier → isWord c = false)

variable {source consumed remainder : String} {l : Location}

theorem StopsBehind.parts (h : StopsBehind source consumed remainder l) :
    Parts consumed remainder := fun c hc => ⟨fun _ => (h.head c hc).1.1, (h.head c hc).2⟩

/-- A source that is split like this fails to scan at the remainder. -/
theorem StopsBehind.scan_eq_error (h : StopsBehind source consumed remainder l) :
    scan source = .error ⟨remainder, l⟩ := by
  obtain ⟨tokens, hscan⟩ := h.scans
  obtain ⟨s, hs, hrest, -⟩ := Scan.scan_eq_ok_iff.mp hscan
  have hstuck : Scan.Reads s.stop remainder.toList ⟨[], s.stop, remainder.toList⟩ :=
    .stuck (Token.Pattern.firstCut?_all_eq_none_iff.mpr fun c hc => (h.head c hc).1)
  have happend := hs.append hrest (hs.borders_of_parts hrest h.parts) hstuck
  rw [← String.toList_append, h.append_eq] at happend
  refine Scan.scan_eq_error_iff.mpr ⟨_, happend, ?_, ?_⟩
  · exact fun hnil => h.remainder_ne (String.toList_eq_nil_iff.mp hnil)
  · rw [String.ofList_toList, hs.stop_eq hrest, Location.after_start, h.place]

/-- A source that fails to scan is split like this. -/
theorem exists_stopsBehind_of_scan_eq_error (h : scan source = .error ⟨remainder, l⟩) :
    ∃ consumed, StopsBehind source consumed remainder l := by
  have hreads := Scan.reads_ofSource source
  obtain ⟨hrest, herror⟩ := Scan.result_eq_error_iff.mp h
  obtain ⟨rfl, rfl⟩ := ScanError.mk.inj herror
  obtain ⟨consumed, hsplit, hplace, hconsumed⟩ := Scan.exists_consumed source
  refine ⟨consumed, hsplit.symm, ?_, ?_, hplace, fun c hc => ?_⟩
  · exact fun hempty => hrest (by simpa using hempty)
  · exact ⟨_, Scan.result_eq_ok_iff.mpr ⟨by rw [hconsumed], rfl⟩⟩
  · rw [String.toList_ofList] at hc
    refine ⟨Token.Pattern.firstCut?_all_eq_none_iff.mp hreads.firstCut?_rest c hc, ?_⟩
    -- the name reaches to the remainder, so it would have gone on with the character
    rintro ⟨t, ht, hkind, hends⟩
    rw [hconsumed] at ht
    rw [← hplace] at hends
    have hcontinues := hreads.borders t ht hends c hc
    rwa [hkind] at hcontinues

/-- A scan fails with a remainder exactly if the source is split like this, which it is in one way
at most. It succeeds exactly if there is no such split. -/
theorem scan_error_iff_stopsBehind (source : String) :
    (∀ remainder l, scan source = .error ⟨remainder, l⟩ ↔
      ∃ consumed, StopsBehind source consumed remainder l) ∧
    (∀ consumed consumed' remainder remainder' l l', StopsBehind source consumed remainder l →
      StopsBehind source consumed' remainder' l' →
      consumed = consumed' ∧ remainder = remainder' ∧ l = l') ∧
    ((∃ tokens, scan source = .ok tokens) ↔
      ∀ consumed remainder l, ¬ StopsBehind source consumed remainder l) := by
  refine ⟨fun remainder l => ⟨exists_stopsBehind_of_scan_eq_error, ?_⟩, ?_, ?_, ?_⟩
  · rintro ⟨consumed, h⟩
    exact h.scan_eq_error
  · intro consumed consumed' remainder remainder' l l' h h'
    have herror := h.scan_eq_error.symm.trans h'.scan_eq_error
    simp only [Except.error.injEq, ScanError.mk.injEq] at herror
    obtain ⟨rfl, rfl⟩ := herror
    have happend := congrArg String.toList (h.append_eq.trans h'.append_eq.symm)
    rw [String.toList_append, String.toList_append] at happend
    exact ⟨String.toList_inj.mp (List.append_cancel_right happend), rfl, rfl⟩
  · rintro ⟨tokens, hscan⟩ consumed remainder l h
    rw [h.scan_eq_error] at hscan
    cases hscan
  · intro hnone
    cases hscan : scan source with
    | ok tokens => exact ⟨tokens, rfl⟩
    | error error =>
      obtain ⟨consumed, h⟩ := exists_stopsBehind_of_scan_eq_error hscan
      exact absurd h (hnone _ _ _)

/-- A letter that is not ASCII goes on with a name, and stops a scan behind a number. -/
theorem scan_error_iff_stopsBehind_letter :
    StopsBehind "aé = 1é" "aé = 1" "é" ⟨1, 7⟩ ∧ scan "aé = 1é" = .error ⟨"é", ⟨1, 7⟩⟩ ∧
      (∀ consumed remainder l, StopsBehind "aé = 1é" consumed remainder l →
        consumed = "aé = 1" ∧ remainder = "é" ∧ l = ⟨1, 7⟩) ∧
      ∀ consumed remainder l, ¬ StopsBehind "aé = 1" consumed remainder l := by
  have hok : scan "aé = 1" = .ok [⟨.identifier, "aé", ⟨1, 1⟩, ⟨1, 3⟩⟩,
      ⟨.assign, "=", ⟨1, 4⟩, ⟨1, 5⟩⟩, ⟨.number, "1", ⟨1, 6⟩, ⟨1, 7⟩⟩, .endMarker ⟨1, 7⟩] := by
    decide +kernel
  have hhead : ∀ c ∈ "é".toList.head?,
      Foreign c ∧ (EndsIn "aé = 1" .identifier → isWord c = false) := by
    rintro c ⟨⟩
    exact ⟨by decide +kernel, fun h => absurd h (by decide +kernel)⟩
  have hstops : StopsBehind "aé = 1é" "aé = 1" "é" ⟨1, 7⟩ :=
    ⟨rfl, by decide, ⟨_, hok⟩, by decide +kernel, hhead⟩
  have h := scan_error_iff_stopsBehind "aé = 1é"
  exact ⟨hstops, (h.1 _ _).mpr ⟨_, hstops⟩, fun _ _ _ h' => h.2.1 _ _ _ _ _ _ h' hstops,
    (scan_error_iff_stopsBehind "aé = 1").2.2.mp ⟨_, hok⟩⟩

end Reckoner
