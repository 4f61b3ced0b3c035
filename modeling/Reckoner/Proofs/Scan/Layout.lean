import Reckoner.Proofs.Scan.Reads
import Mathlib.Data.List.Chain

/-!
# Layouts

A layout spells a list of lexemes as a text, with blanks in front of them, between them and behind
them. Where no blank stands between two lexemes, the first must not go on into the second.

* `Layout.read`: scanning the text of a layout finds its lexemes again.
* `Layout.exists_of_read`: a text that is scanned to its end has a layout.
* `scan_iff_layout`: the two directions for whole sources, with the uniqueness of layouts.
-/

namespace Reckoner

open Text Token.Pattern

/-- A kind and a lexeme. -/
abbrev Lexeme := Token.Kind × String

/-- The token without its place. -/
def Token.toLexeme (t : Token) : Lexeme := (t.kind, t.lexeme)

/-- A text as the gap in front of its lexemes, and each lexeme with the gap behind it. -/
structure Layout where
  lead : List Char
  parts : List (Lexeme × List Char)

namespace Layout

/-- The lexemes in order. -/
def lexemes (L : Layout) : List Lexeme := L.parts.map Prod.fst

/-- The text of lexemes and the gaps behind them. -/
def textOf (parts : List (Lexeme × List Char)) : List Char :=
  parts.flatMap fun part => part.1.2.toList ++ part.2

/-- The text laid out. -/
def text (L : Layout) : List Char := L.lead ++ textOf L.parts

/-- Gaps are blank, the pattern of each kind matches its lexemes in full, and no lexeme goes on
into the next one. -/
structure Valid (L : Layout) : Prop where
  lead : ∀ c ∈ L.lead, isBlank c = true
  gap : ∀ part ∈ L.parts, ∀ c ∈ part.2, isBlank c = true
  matched : ∀ part ∈ L.parts, part.1.1.Matches part.1.2.toList
  apart : L.parts.IsChain fun part next => part.2 = [] → part.1.1.fuses next.1.1 = false

variable {L M : Layout} {part : Lexeme × List Char} {parts : List (Lexeme × List Char)}

@[simp] theorem textOf_nil : textOf [] = [] := rfl

@[simp] theorem textOf_cons (part : Lexeme × List Char) (parts : List (Lexeme × List Char)) :
    textOf (part :: parts) = part.1.2.toList ++ (part.2 ++ textOf parts) := by
  simp [textOf]

theorem text_cons (lead : List Char) (part : Lexeme × List Char)
    (parts : List (Lexeme × List Char)) :
    text ⟨lead, part :: parts⟩ = lead ++ (part.1.2.toList ++ text ⟨part.2, parts⟩) := by
  simp [text]

/-- The layout that starts at the gap behind the first lexeme. -/
theorem Valid.tail {lead : List Char} (h : Valid ⟨lead, part :: parts⟩) :
    Valid ⟨part.2, parts⟩ :=
  ⟨h.gap part (List.mem_cons_self ..), fun q hq => h.gap q (List.mem_cons_of_mem _ hq),
    fun q hq => h.matched q (List.mem_cons_of_mem _ hq), h.apart.tail⟩

/-- No blank stands right behind a gap. -/
theorem Valid.not_isBlank_head? (h : L.Valid) :
    ∀ c ∈ (textOf L.parts).head?, isBlank c = false := by
  intro c hc
  cases hparts : L.parts with
  | nil => rw [hparts] at hc; cases hc
  | cons part parts =>
    have hmatched := h.matched part (by simp [hparts])
    rw [hparts, textOf_cons, List.head?_append_of_ne_nil _ hmatched.ne_nil] at hc
    exact hmatched.not_isBlank c (List.mem_of_head? hc)

/-- The lexeme in front of a gap does not go on behind it. -/
theorem Valid.not_continues {lead : List Char} (h : Valid ⟨lead, part :: parts⟩) :
    ∀ c ∈ (text ⟨part.2, parts⟩).head?, part.1.1.continues c = false := by
  intro c hc
  rw [text] at hc
  cases hgap : part.2 with
  | cons d gap =>
    rw [hgap] at hc
    cases hc
    have hblank := h.gap part (List.mem_cons_self ..) c (by simp [hgap])
    exact Token.Kind.not_continues_of_isBlank _ hblank
  | nil =>
    rw [hgap, List.nil_append] at hc
    cases parts with
    | nil => cases hc
    | cons next parts =>
      have hfuses := (List.isChain_cons_cons.mp h.apart).1 hgap
      have hnext := h.matched next (by simp)
      cases hlexeme : next.1.2.toList with
      | nil => exact absurd hlexeme hnext.ne_nil
      | cons d ds =>
        rw [hlexeme] at hnext
        rw [textOf_cons, hlexeme] at hc
        cases hc
        rw [Token.Kind.continues_eq_fuses _ hnext, hfuses]

/-! ## A layout scans to its lexemes -/

/-- Scanning the text of a layout finds its lexemes again. -/
theorem Valid.read {L : Layout} (h : L.Valid) (here : Location) :
    (Scan.read (firstCut? all) here L.text).rest = [] ∧
      (Scan.read (firstCut? all) here L.text).tokens.map Token.toLexeme = L.lexemes := by
  obtain ⟨lead, parts⟩ := L
  induction parts generalizing lead here with
  | nil =>
    rw [text, Scan.read_gap_append here h.lead h.not_isBlank_head?, textOf_nil,
      Scan.read_of_none _ rfl]
    exact ⟨rfl, rfl⟩
  | cons part parts ih =>
    obtain ⟨hrest, htokens⟩ := ih ((here.after lead).after part.1.2.toList) part.2 h.tail
    have hmatched := h.matched part (List.mem_cons_self ..)
    have hhead : ∀ c ∈ (part.1.2.toList ++ text ⟨part.2, parts⟩).head?, isBlank c = false := by
      simpa [text] using h.not_isBlank_head?
    rw [text_cons, Scan.read_gap_append here h.lead hhead,
      Scan.read_lexeme_append _ hmatched h.not_continues]
    refine ⟨hrest, ?_⟩
    rw [Scan.keep, List.map_cons, htokens, Token.toLexeme, String.ofList_toList]
    rfl

/-! ## What scans to its end has a layout -/

/-- A gap in front of a layout. -/
theorem Valid.cons_gap {gap : List Char} (hgap : ∀ c ∈ gap, isBlank c = true) (h : L.Valid) :
    Valid ⟨gap ++ L.lead, L.parts⟩ := by
  refine ⟨fun c hc => ?_, h.gap, h.matched, h.apart⟩
  obtain hc | hc := List.mem_append.mp hc
  · exact hgap c hc
  · exact h.lead c hc

/-- A lexeme in front of a layout into which it does not go on. -/
theorem Valid.cons_lexeme {kind : Token.Kind} {lexeme : List Char} (hmatches : kind.Matches lexeme)
    (hnext : ∀ c ∈ L.text.head?, kind.continues c = false) (h : L.Valid) :
    Valid ⟨[], ((kind, String.ofList lexeme), L.lead) :: L.parts⟩ := by
  refine ⟨by simp, ?_, ?_, ?_⟩
  · intro q hq
    obtain rfl | hq := List.mem_cons.mp hq
    · exact h.lead
    · exact h.gap q hq
  · intro q hq
    obtain rfl | hq := List.mem_cons.mp hq
    · rwa [String.toList_ofList]
    · exact h.matched q hq
  · cases hparts : L.parts with
    | nil => exact List.isChain_singleton _
    | cons next parts =>
      refine List.isChain_cons_cons.mpr ⟨fun (hlead : L.lead = []) => ?_, hparts ▸ h.apart⟩
      have hmatched := h.matched next (by simp [hparts])
      cases hlexeme : next.1.2.toList with
      | nil => exact absurd hlexeme hmatched.ne_nil
      | cons c cs =>
        rw [hlexeme] at hmatched
        rw [← Token.Kind.continues_eq_fuses kind hmatched]
        exact hnext c (by simp [text, hlead, hparts, hlexeme])

/-- A text that is scanned to its end has a layout with the lexemes found. -/
theorem exists_of_read (here : Location) (cs : List Char)
    (h : (Scan.read (firstCut? all) here cs).rest = []) :
    ∃ L : Layout, L.Valid ∧ L.text = cs ∧
      L.lexemes = (Scan.read (firstCut? all) here cs).tokens.map Token.toLexeme := by
  have hreads := Scan.reads_read here cs
  generalize Scan.read (firstCut? all) here cs = s at h hreads
  induction hreads with
  | stuck _ =>
    subst h
    exact ⟨⟨[], []⟩, ⟨by simp, by simp, by simp, List.isChain_nil⟩, rfl, rfl⟩
  | @blank here c cs s hc _ ih =>
    obtain ⟨L, hL, htext, hlexemes⟩ := ih h
    have hgap : ∀ d ∈ [c], isBlank d = true := by simpa using hc
    exact ⟨⟨[c] ++ L.lead, L.parts⟩, hL.cons_gap hgap, congrArg (c :: ·) htext, hlexemes⟩
  | @lexeme here kind lexeme cs s hmatches hcs _ ih =>
    obtain ⟨L, hL, htext, hlexemes⟩ := ih h
    rw [← htext] at hcs ⊢
    refine ⟨_, hL.cons_lexeme hmatches hcs, ?_, ?_⟩
    · rw [text_cons, String.toList_ofList, List.nil_append]
    · rw [Scan.keep, List.map_cons, ← hlexemes]
      rfl

/-! ## Layouts are unique -/

/-- The gap in front of the lexemes is all that is blank there. -/
theorem Valid.takeWhile_text (h : L.Valid) : L.text.takeWhile isBlank = L.lead := by
  rw [text, List.takeWhile_append_of_pos h.lead]
  cases htext : textOf L.parts with
  | nil => simp
  | cons c cs =>
    have hc := h.not_isBlank_head? c (by rw [htext]; rfl)
    simp [hc]

theorem Valid.ext (hL : L.Valid) (hM : M.Valid) (htext : L.text = M.text)
    (hlexemes : L.lexemes = M.lexemes) : L = M := by
  obtain ⟨lead, parts⟩ := L
  obtain ⟨lead', parts'⟩ := M
  obtain rfl : lead = lead' := by
    have hlead := hL.takeWhile_text
    rw [htext, hM.takeWhile_text] at hlead
    exact hlead.symm
  induction parts generalizing lead parts' with
  | nil =>
    cases parts' with
    | nil => rfl
    | cons => cases hlexemes
  | cons part parts ih =>
    cases parts' with
    | nil => cases hlexemes
    | cons part' parts' =>
      obtain ⟨lexeme, gap⟩ := part
      obtain ⟨lexeme', gap'⟩ := part'
      simp only [lexemes, List.map_cons, List.cons.injEq] at hlexemes
      obtain ⟨rfl, hlexemes⟩ := hlexemes
      rw [text_cons, text_cons, List.append_cancel_left_eq, List.append_cancel_left_eq] at htext
      have hgap : gap = gap' := by
        have hgap := hL.tail.takeWhile_text
        rw [htext, hM.tail.takeWhile_text] at hgap
        exact hgap.symm
      subst hgap
      have h := ih gap hL.tail parts' hM.tail htext hlexemes
      rw [Layout.mk.injEq] at h
      rw [h.2]

/-- The characters of a layout that are not blank are those of its lexemes. -/
theorem Valid.filter_text (h : L.Valid) :
    L.text.filter (fun c => !isBlank c) = L.lexemes.flatMap fun lexeme => lexeme.2.toList := by
  obtain ⟨lead, parts⟩ := L
  induction parts generalizing lead with
  | nil =>
    have hlead : lead.filter (fun c => !isBlank c) = [] :=
      List.filter_eq_nil_iff.mpr fun c hc => by simp [h.lead c hc]
    simpa [text, lexemes] using hlead
  | cons part parts ih =>
    have hlead : lead.filter (fun c => !isBlank c) = [] :=
      List.filter_eq_nil_iff.mpr fun c hc => by simp [h.lead c hc]
    have hlexeme : part.1.2.toList.filter (fun c => !isBlank c) = part.1.2.toList :=
      List.filter_eq_self.mpr fun c hc => by
        simp [(h.matched part (List.mem_cons_self ..)).not_isBlank c hc]
    rw [text_cons, List.filter_append, List.filter_append, hlead, hlexeme, ih part.2 h.tail]
    rfl

end Layout

/-! ## Whole sources -/

/-- What closes the lexemes of a source. -/
def endLexeme : Lexeme := (.endMarker, "")

theorem Layout.Valid.scan_eq_ok {L : Layout} (h : L.Valid) {source : String}
    (hsource : L.text = source.toList) :
    ∃ tokens, scan source = .ok tokens ∧
      tokens.map Token.toLexeme = L.lexemes ++ [endLexeme] := by
  obtain ⟨hrest, hlexemes⟩ := h.read .start
  rw [hsource] at hrest hlexemes
  refine ⟨_, Scan.result_eq_ok_iff.mpr ⟨hrest, rfl⟩, ?_⟩
  rw [List.map_append, Scan.ofSource, hlexemes]
  rfl

theorem exists_layout_of_scan {source : String} {tokens : List Token}
    (h : scan source = .ok tokens) :
    ∃ L : Layout, L.Valid ∧ L.text = source.toList ∧
      tokens.map Token.toLexeme = L.lexemes ++ [endLexeme] := by
  obtain ⟨hrest, rfl⟩ := Scan.result_eq_ok_iff.mp h
  obtain ⟨L, hL, htext, hlexemes⟩ := Layout.exists_of_read .start source.toList hrest
  refine ⟨L, hL, htext, ?_⟩
  rw [List.map_append, Scan.ofSource, ← hlexemes]
  rfl

theorem map_unplaced_eq_iff {ts us : List Token} :
    ts.map Token.unplaced = us.map Token.unplaced ↔
      ts.map Token.toLexeme = us.map Token.toLexeme := by
  induction ts generalizing us with
  | nil => cases us <;> simp
  | cons t ts ih =>
    cases us with
    | nil => simp
    | cons u us => simp [ih, Token.unplaced_eq_iff, Token.toLexeme]

/-- A source is scanned to given lexemes exactly when it has a valid layout of them, which is then
unique. Scanning loses nothing but blanks, and every valid layout of the lexemes found is scanned
to the same tokens, their places aside. No word character is blank, and letters, digits and
underscores are word characters. -/
theorem scan_iff_layout (source : String) :
    (∀ lexemes, (∃ tokens, scan source = .ok tokens ∧
        tokens.map Token.toLexeme = lexemes ++ [endLexeme]) ↔
      ∃ L : Layout, L.Valid ∧ L.text = source.toList ∧ L.lexemes = lexemes) ∧
    (∀ L M : Layout, L.Valid → M.Valid → L.text = source.toList → M.text = source.toList →
      L = M) ∧
    (∀ tokens, scan source = .ok tokens →
      source.toList.filter (fun c => !isBlank c) = tokens.flatMap fun t => t.lexeme.toList) ∧
    (∀ tokens, scan source = .ok tokens → ∀ L : Layout, L.Valid →
      tokens.map Token.toLexeme = L.lexemes ++ [endLexeme] →
      ∃ again, scan (String.ofList L.text) = .ok again ∧
        again.map Token.unplaced = tokens.map Token.unplaced) ∧
    ∀ c : Char, (isWord c = true → isBlank c = false) ∧
      (c.isDigit = true ∨ c.isAlpha = true ∨ c = '_' → isWord c = true) := by
  refine ⟨fun lexemes => ⟨?_, ?_⟩, ?_, ?_, ?_, ?_⟩
  · rintro ⟨tokens, htokens, hlexemes⟩
    obtain ⟨L, hL, htext, hL'⟩ := exists_layout_of_scan htokens
    exact ⟨L, hL, htext, List.append_cancel_right (hL'.symm.trans hlexemes)⟩
  · rintro ⟨L, hL, htext, rfl⟩
    exact hL.scan_eq_ok htext
  · intro L M hL hM hLtext hMtext
    have hlexemes : L.lexemes = M.lexemes := by
      rw [← (hL.read .start).2, hLtext, ← hMtext, (hM.read .start).2]
    exact hL.ext hM (hLtext.trans hMtext.symm) hlexemes
  · intro tokens htokens
    obtain ⟨L, hL, htext, hlexemes⟩ := exists_layout_of_scan htokens
    have hflat : tokens.flatMap (fun t => t.lexeme.toList) =
        (tokens.map Token.toLexeme).flatMap fun lexeme => lexeme.2.toList := by
      rw [List.flatMap_map]
      rfl
    rw [← htext, hL.filter_text, hflat, hlexemes, List.flatMap_append]
    exact (List.append_nil _).symm
  · intro tokens _ L hL hlexemes
    obtain ⟨again, hagain, hlexemes'⟩ := hL.scan_eq_ok (String.toList_ofList (l := L.text)).symm
    exact ⟨again, hagain, map_unplaced_eq_iff.mpr (hlexemes'.trans hlexemes.symm)⟩
  · intro c
    refine ⟨isBlank_eq_false_of_isWord, ?_⟩
    rintro (h | h | rfl)
    · exact isWord_of_isDigit h
    · exact isWord_of_isNameStart (by simp [isNameStart, h])
    · exact isWord_of_isNameStart (by decide)

/-- `12ab +1`, laid out with few blanks. -/
def Layout.tight : Layout :=
  ⟨[], [((.number, "12"), []), ((.identifier, "ab"), [' ']), ((.operator .add, "+"), []),
    ((.number, "1"), [])]⟩

theorem isBlank_space : isBlank ' ' = true := by decide

theorem isBlank_tab : isBlank '\t' = true := by decide

theorem isBlank_newline : isBlank '\n' = true := by decide

theorem Layout.tight_valid : Layout.tight.Valid where
  lead := by simp [tight]
  gap := by simp [tight, isBlank_space]
  matched := by
    simp only [tight, List.mem_cons, List.not_mem_nil, or_false, forall_eq_or_imp, forall_eq]
    exact ⟨⟨number, mem_all.mpr (by simp), rfl, by decide⟩,
      ⟨identifier, mem_all.mpr (by simp), rfl, by decide +kernel⟩,
      ⟨mark (.operator .add) '+', by simp [all], rfl, by decide⟩,
      ⟨number, mem_all.mpr (by simp), rfl, by decide⟩⟩
  apart := by simp [tight, Token.Kind.fuses]

/-- The same lexemes with more blanks. -/
def Layout.loose : Layout :=
  ⟨[' '], [((.number, "12"), ['\t']), ((.identifier, "ab"), ['\n', ' ']),
    ((.operator .add, "+"), [' ']), ((.number, "1"), [])]⟩

theorem Layout.loose_valid : Layout.loose.Valid where
  lead := by simp [loose, isBlank_space]
  gap := by simp [loose, isBlank_space, isBlank_tab, isBlank_newline]
  matched := fun part hpart => by
    obtain ⟨part', hpart', heq⟩ : ∃ part' ∈ Layout.tight.parts, part'.1 = part.1 := by
      simp only [loose, List.mem_cons, List.not_mem_nil, or_false] at hpart
      rcases hpart with rfl | rfl | rfl | rfl <;> simp [tight]
    exact heq ▸ Layout.tight_valid.matched part' hpart'
  apart := by simp [loose]

theorem scan_iff_layout_tight :
    Layout.tight.Valid ∧ Layout.tight.text = "12ab +1".toList ∧ Layout.loose.Valid ∧
      ∃ tokens, scan "12ab +1" = .ok tokens ∧
        tokens.map Token.toLexeme = Layout.tight.lexemes ++ [endLexeme] ∧
        ∃ again, scan (String.ofList Layout.loose.text) = .ok again ∧
          again.map Token.unplaced = tokens.map Token.unplaced := by
  have h := scan_iff_layout "12ab +1"
  have htext : Layout.tight.text = "12ab +1".toList := by decide
  obtain ⟨tokens, htokens, hlexemes⟩ :=
    (h.1 Layout.tight.lexemes).mpr ⟨_, Layout.tight_valid, htext, rfl⟩
  exact ⟨Layout.tight_valid, htext, Layout.loose_valid, tokens, htokens, hlexemes,
    h.2.2.2.1 tokens htokens _ Layout.loose_valid hlexemes⟩

end Reckoner
