import Reckoner.Scan

/-!
# Cuts of a text

No character starts the lexemes of two patterns, so that at every place of a text at most one
pattern cuts, and it cuts one lexeme off: the longest it matches.

* `Token.Pattern.apart_all`: the lexical patterns start with different characters.
* `Token.Pattern.firstCut?_append`, `Token.Pattern.of_firstCut?`: the piece cut off a text, by the
  pattern that matches it and the character behind it.
* `Token.Kind.continues_eq_fuses`: whether a lexeme would go on into the next one is decided by
  the kinds of the two.
* `Scan.read_blank_cons`, `Scan.read_lexeme_append`: reading on behind a blank and behind a lexeme.
-/

namespace Reckoner

open Text

/-! ## Matching -/

namespace Token.Pattern

/-- The pattern matches the whole of a lexeme. -/
def Matches (p : Pattern) : List Char → Prop
  | [] => False
  | c :: cs => p.starts c = true ∧ ∀ d ∈ cs, p.continues d = true

-- the instance for lists is named, so that none is found that runs through all characters
instance (p : Pattern) : (lexeme : List Char) → Decidable (p.Matches lexeme)
  | [] => isFalse id
  | c :: cs =>
    have := List.decidableBAll (fun d => p.continues d = true) cs
    inferInstanceAs (Decidable (p.starts c = true ∧ ∀ d ∈ cs, p.continues d = true))

/-- No character starts lexemes of two of the patterns. -/
def Apart (patterns : List Pattern) : Prop :=
  ∀ p ∈ patterns, ∀ q ∈ patterns, ∀ c, p.starts c = true → q.starts c = true → p = q

theorem Matches.ne_nil {p : Pattern} {lexeme : List Char} (h : p.Matches lexeme) : lexeme ≠ [] := by
  rintro rfl
  exact h

theorem cut?_append {p : Pattern} {lexeme rest : List Char} (h : p.Matches lexeme)
    (hrest : ∀ c ∈ rest.head?, p.continues c = false) :
    p.cut? (lexeme ++ rest) = some ⟨p.kind, lexeme, rest, rfl, h.ne_nil⟩ := by
  cases lexeme with
  | nil => exact absurd h id
  | cons c cs =>
    obtain ⟨hc, hcs⟩ := h
    have htake : rest.takeWhile p.continues = [] := by
      cases rest with
      | nil => rfl
      | cons d rest => rw [List.takeWhile_cons_of_neg (by simp [hrest d rfl])]
    have hdrop : rest.dropWhile p.continues = rest := by
      cases rest with
      | nil => rfl
      | cons d rest => rw [List.dropWhile_cons_of_neg (by simp [hrest d rfl])]
    simp [cut?, hc, List.takeWhile_append_of_pos hcs, List.dropWhile_append_of_pos hcs, htake,
      hdrop]

theorem of_cut? {p : Pattern} {cs : List Char} {piece : Piece cs} (h : p.cut? cs = some piece) :
    piece.kind = p.kind ∧ p.Matches piece.lexeme ∧
      ∀ c ∈ piece.rest.head?, p.continues c = false := by
  cases cs with
  | nil => simp at h
  | cons c cs =>
    by_cases hc : p.starts c = true
    · rw [cut?, if_pos hc, Option.some.injEq] at h
      subst h
      refine ⟨rfl, ⟨hc, fun d hd => ?_⟩, fun d hd => ?_⟩
      · exact List.all_eq_true.mp List.all_takeWhile d hd
      · have hnot := List.head?_dropWhile_not p.continues cs
        simp only [Option.mem_def] at hd
        rw [hd] at hnot
        exact hnot
    · simp [cut?, hc] at h

theorem Matches.exists_starts {p : Pattern} {lexeme : List Char} (h : p.Matches lexeme)
    (rest : List Char) : ∃ c ∈ (lexeme ++ rest).head?, p.starts c = true := by
  cases lexeme with
  | nil => exact absurd h id
  | cons c cs => exact ⟨c, rfl, h.1⟩

/-- Among patterns with different first characters, the one that matches cuts its lexeme off. -/
theorem firstCut?_append {patterns : List Pattern} (happart : Apart patterns) {p : Pattern}
    (hp : p ∈ patterns) {lexeme rest : List Char} (h : p.Matches lexeme)
    (hrest : ∀ c ∈ rest.head?, p.continues c = false) :
    firstCut? patterns (lexeme ++ rest) = some ⟨p.kind, lexeme, rest, rfl, h.ne_nil⟩ := by
  rw [firstCut?]
  cases hcut : patterns.findSome? fun q => q.cut? (lexeme ++ rest) with
  | none =>
    have hnone := List.findSome?_eq_none_iff.mp hcut p hp
    rw [cut?_append h hrest] at hnone
    cases hnone
  | some piece =>
    obtain ⟨_, q, _, rfl, hq, -⟩ := List.findSome?_eq_some_iff.mp hcut
    obtain ⟨c, hc, hpc⟩ := h.exists_starts rest
    obtain ⟨d, hd, hqd⟩ := (of_cut? hq).2.1.exists_starts piece.rest
    rw [piece.lexeme_append_rest, Option.mem_def, hc, Option.some.injEq] at hd
    subst hd
    obtain rfl : q = p := happart q (by simp) p hp c hqd hpc
    rw [← hq, cut?_append h hrest]

theorem of_firstCut? {patterns : List Pattern} {cs : List Char} {piece : Piece cs}
    (h : firstCut? patterns cs = some piece) :
    ∃ p ∈ patterns, piece.kind = p.kind ∧ p.Matches piece.lexeme ∧
      ∀ c ∈ piece.rest.head?, p.continues c = false := by
  obtain ⟨_, p, _, rfl, hp, -⟩ := List.findSome?_eq_some_iff.mp h
  exact ⟨p, by simp, of_cut? hp⟩

theorem firstCut?_eq_none_iff {patterns : List Pattern} {cs : List Char} :
    firstCut? patterns cs = none ↔ ∀ p ∈ patterns, ∀ c ∈ cs.head?, p.starts c = false := by
  rw [firstCut?, List.findSome?_eq_none_iff]
  exact forall₂_congr fun p _ => cut?_eq_none_iff

/-! ## The lexical patterns -/

/-- The lexemes of a single character, with their kinds. -/
def marks : List (Kind × Char) :=
  [(.operator .add, '+'), (.operator .subtract, '-'), (.operator .multiply, '*'),
   (.operator .divide, '/'), (.assign, '='), (.openParen, '('), (.closeParen, ')')]

theorem mem_all {p : Pattern} :
    p ∈ all ↔ p = number ∨ p = identifier ∨ (∃ m ∈ marks, p = mark m.1 m.2) ∨ p = gap := by
  simp [all, marks, or_assoc]

/-- A mark is neither blank nor part of a name or number. -/
theorem not_isWord_of_mem_marks : ∀ m ∈ marks, isWord m.2 = false ∧ isBlank m.2 = false := by
  decide +kernel

theorem isDigit_eq_false_of_isNameStart {c : Char} (h : isNameStart c = true) :
    c.isDigit = false := by
  cases hd : c.isDigit with
  | false => rfl
  | true =>
    delta isNameStart Char.isAlpha Char.isUpper Char.isLower at h
    simp only [Char.isDigit, Bool.or_eq_true, Bool.and_eq_true, decide_eq_true_eq,
      beq_iff_eq] at h hd
    rcases h with (⟨h, -⟩ | ⟨h, -⟩) | rfl
    · exact absurd (UInt32.le_trans h hd.2) (by decide)
    · exact absurd (UInt32.le_trans h hd.2) (by decide)
    · exact absurd hd.2 (by decide)

/-- What a character that starts a lexeme is. -/
theorem starts_cases {p : Pattern} (hp : p ∈ all) {c : Char} (hc : p.starts c = true) :
    (p = number ∧ c.isDigit = true) ∨ (p = identifier ∧ isNameStart c = true) ∨
      (∃ m ∈ marks, p = mark m.1 m.2 ∧ c = m.2) ∨ p = gap ∧ isBlank c = true := by
  obtain rfl | rfl | ⟨m, hm, rfl⟩ | rfl := mem_all.mp hp
  · exact Or.inl ⟨rfl, hc⟩
  · exact Or.inr (Or.inl ⟨rfl, hc⟩)
  · exact Or.inr (Or.inr (Or.inl ⟨m, hm, rfl, by simpa [mark] using hc⟩))
  · exact Or.inr (Or.inr (Or.inr ⟨rfl, hc⟩))

theorem eq_of_mem_marks : ∀ m ∈ marks, ∀ n ∈ marks, m.2 = n.2 → m = n := by
  decide

/-- The lexical patterns start with different characters. -/
theorem apart_all : Apart all := by
  intro p hp q hq c hpc hqc
  have hdigit := @isWord_of_isDigit c
  have hname := @isWord_of_isNameStart c
  have hword := @isBlank_eq_false_of_isWord c
  have hdisjoint := @isDigit_eq_false_of_isNameStart c
  obtain ⟨rfl, h⟩ | ⟨rfl, h⟩ | ⟨m, hm, rfl, rfl⟩ | ⟨rfl, h⟩ := starts_cases hp hpc <;>
  obtain ⟨rfl, h'⟩ | ⟨rfl, h'⟩ | ⟨n, hn, rfl, hmn⟩ | ⟨rfl, h'⟩ := starts_cases hq hqc <;>
  grind [not_isWord_of_mem_marks, eq_of_mem_marks]

/-- A pattern without a kind matches blanks. -/
theorem isBlank_of_matches {p : Pattern} (hp : p ∈ all) (hkind : p.kind = none)
    {lexeme : List Char} (h : p.Matches lexeme) : ∀ c ∈ lexeme, isBlank c = true := by
  obtain rfl | rfl | ⟨m, -, rfl⟩ | rfl := mem_all.mp hp
  · cases hkind
  · cases hkind
  · cases hkind
  · cases lexeme with
    | nil => exact absurd h id
    | cons c cs =>
      intro d hd
      obtain rfl | hd := List.mem_cons.mp hd
      · exact h.1
      · exact h.2 d hd

end Token.Pattern

/-! ## Kinds of lexemes -/

namespace Token.Kind

open Token.Pattern

/-- The pattern of the kind matches the whole of a lexeme. -/
def Matches (kind : Kind) (lexeme : List Char) : Prop :=
  ∃ p ∈ Pattern.all, p.kind = some kind ∧ p.Matches lexeme

/-- Whether a lexeme of the kind goes on with a character. -/
def continues : Kind → Char → Bool
  | number => Char.isDigit
  | identifier => isWord
  | _ => fun _ => false

/-- Whether a lexeme of one kind goes on into a lexeme of another right behind it. -/
def fuses : Kind → Kind → Bool
  | number, number => true
  | identifier, number => true
  | identifier, identifier => true
  | _, _ => false

/-- Marks are neither numbers nor names. -/
theorem ne_of_mem_marks : ∀ m ∈ marks, m.1 ≠ number ∧ m.1 ≠ identifier := by
  decide

theorem continues_eq_false_of_ne {kind : Kind} (h : kind ≠ number ∧ kind ≠ identifier) (c : Char) :
    kind.continues c = false := by
  cases kind with
  | number => exact absurd rfl h.1
  | identifier => exact absurd rfl h.2
  | operator | assign | openParen | closeParen | endMarker => rfl

theorem fuses_eq_false_of_ne (kind : Kind) {next : Kind} (h : next ≠ number ∧ next ≠ identifier) :
    kind.fuses next = false := by
  cases next with
  | number => exact absurd rfl h.1
  | identifier => exact absurd rfl h.2
  | operator | assign | openParen | closeParen | endMarker => cases kind <;> rfl

theorem continues_of_mem_all {p : Pattern} (hp : p ∈ Pattern.all) {kind : Kind}
    (h : p.kind = some kind) : p.continues = kind.continues := by
  simp only [Pattern.all, List.mem_cons, List.not_mem_nil, or_false] at hp
  rcases hp with rfl | rfl | rfl | rfl | rfl | rfl | rfl | rfl | rfl | rfl <;> cases h <;> rfl

theorem matches_cases {kind : Kind} {lexeme : List Char} (h : kind.Matches lexeme) :
    (kind = number ∧ lexeme ≠ [] ∧ ∀ c ∈ lexeme, c.isDigit = true) ∨
      (kind = identifier ∧ ∃ c cs, lexeme = c :: cs ∧ isNameStart c = true ∧
        ∀ d ∈ cs, isWord d = true) ∨
      ∃ m ∈ marks, kind = m.1 ∧ lexeme = [m.2] := by
  obtain ⟨p, hp, hkind, hp'⟩ := h
  cases lexeme with
  | nil => exact absurd hp' id
  | cons c cs =>
    obtain ⟨hc, hcs⟩ := hp'
    obtain ⟨rfl, h⟩ | ⟨rfl, h⟩ | ⟨m, hm, rfl, rfl⟩ | ⟨rfl, h⟩ := starts_cases hp hc
    · cases hkind
      refine Or.inl ⟨rfl, by simp, ?_⟩
      intro d hd
      obtain rfl | hd := List.mem_cons.mp hd
      · exact h
      · exact hcs d hd
    · cases hkind
      exact Or.inr (Or.inl ⟨rfl, c, cs, rfl, h, hcs⟩)
    · cases hkind
      cases cs with
      | nil => exact Or.inr (Or.inr ⟨m, hm, rfl, rfl⟩)
      | cons d cs => exact absurd (hcs d (by simp)) (by simp [mark])
    · cases hkind

/-- The names. -/
theorem matches_identifier_iff {lexeme : List Char} :
    identifier.Matches lexeme ↔ Pattern.identifier.Matches lexeme := by
  refine ⟨fun h => ?_, fun h => ⟨Pattern.identifier, mem_all.mpr (Or.inr (Or.inl rfl)), rfl, h⟩⟩
  obtain ⟨hkind, -⟩ | ⟨-, c, cs, rfl, hc, hcs⟩ | ⟨m, hm, hkind, -⟩ := matches_cases h
  · cases hkind
  · exact ⟨hc, hcs⟩
  · exact absurd hkind.symm (ne_of_mem_marks m hm).2

/-- The numbers. -/
theorem matches_number_iff {lexeme : List Char} :
    number.Matches lexeme ↔ lexeme ≠ [] ∧ ∀ c ∈ lexeme, c.isDigit = true := by
  constructor
  · intro h
    obtain ⟨-, h⟩ | ⟨hkind, -⟩ | ⟨m, hm, hkind, -⟩ := matches_cases h
    · exact h
    · cases hkind
    · exact absurd hkind.symm (ne_of_mem_marks m hm).1
  · rintro ⟨hne, h⟩
    refine ⟨Pattern.number, mem_all.mpr (Or.inl rfl), rfl, ?_⟩
    cases lexeme with
    | nil => exact absurd rfl hne
    | cons c cs => exact ⟨h c (by simp), fun d hd => h d (by simp [hd])⟩

/-- No lexeme is an end marker. -/
theorem not_matches_endMarker (lexeme : List Char) : ¬ endMarker.Matches lexeme := by
  intro h
  have hmarks : ∀ m ∈ marks, m.1 ≠ endMarker := by decide
  obtain ⟨hkind, -⟩ | ⟨hkind, -⟩ | ⟨m, hm, hkind, -⟩ := matches_cases h
  · cases hkind
  · cases hkind
  · exact hmarks m hm hkind.symm

/-- The characters of a lexeme are not blank. -/
theorem Matches.not_isBlank {kind : Kind} {lexeme : List Char} (h : kind.Matches lexeme) :
    ∀ c ∈ lexeme, isBlank c = false := by
  intro c hc
  obtain ⟨-, -, h⟩ | ⟨-, d, ds, rfl, hd, hds⟩ | ⟨m, hm, -, rfl⟩ := matches_cases h
  · exact isBlank_eq_false_of_isWord (isWord_of_isDigit (h c hc))
  · obtain rfl | hc := List.mem_cons.mp hc
    · exact isBlank_eq_false_of_isWord (isWord_of_isNameStart hd)
    · exact isBlank_eq_false_of_isWord (hds c hc)
  · rw [List.mem_singleton.mp hc]
    exact (not_isWord_of_mem_marks m hm).2

theorem Matches.newline_not_mem {kind : Kind} {lexeme : List Char} (h : kind.Matches lexeme) :
    '\n' ∉ lexeme := by
  intro hmem
  have hblank : isBlank '\n' = true := by decide
  rw [h.not_isBlank _ hmem] at hblank
  cases hblank

theorem Matches.ne_nil {kind : Kind} {lexeme : List Char} (h : kind.Matches lexeme) :
    lexeme ≠ [] := by
  obtain ⟨p, -, -, hp⟩ := h
  exact hp.ne_nil

/-- Lexemes go on with word characters only. -/
theorem not_continues_of_not_isWord (kind : Kind) {c : Char} (h : isWord c = false) :
    kind.continues c = false := by
  rw [Bool.eq_false_iff] at h ⊢
  intro hc
  cases kind with
  | number => exact h (isWord_of_isDigit hc)
  | identifier => exact h hc
  | operator | assign | openParen | closeParen | endMarker => cases hc

/-- Whether a lexeme would go on into the next one is decided by the kinds of the two. -/
theorem continues_eq_fuses (kind : Kind) {next : Kind} {c : Char} {cs : List Char}
    (h : next.Matches (c :: cs)) : kind.continues c = kind.fuses next := by
  obtain ⟨rfl, -, h⟩ | ⟨rfl, d, ds, heq, hd, -⟩ | ⟨m, hm, rfl, heq⟩ := matches_cases h
  · have hc := h c (List.mem_cons_self ..)
    cases kind with
    | number => exact hc
    | identifier => exact isWord_of_isDigit hc
    | operator | assign | openParen | closeParen | endMarker => rfl
  · cases heq
    cases kind with
    | number => exact isDigit_eq_false_of_isNameStart hd
    | identifier => exact isWord_of_isNameStart hd
    | operator | assign | openParen | closeParen | endMarker => rfl
  · cases heq
    rw [fuses_eq_false_of_ne kind (ne_of_mem_marks m hm)]
    exact not_continues_of_not_isWord kind (not_isWord_of_mem_marks m hm).1

theorem not_continues_of_isBlank (kind : Kind) {c : Char} (h : isBlank c = true) :
    kind.continues c = false :=
  not_continues_of_not_isWord kind (isWord_eq_false_of_isBlank h)

/-- The lexemes of a single character. -/
theorem matches_mark {m : Kind × Char} (hm : m ∈ marks) : m.1.Matches [m.2] :=
  ⟨mark m.1 m.2, mem_all.mpr (Or.inr (Or.inr (Or.inl ⟨m, hm, rfl⟩))), rfl, by simp [mark,
    Pattern.Matches]⟩

theorem not_continues_mark {m : Kind × Char} (hm : m ∈ marks) (c : Char) :
    m.1.continues c = false :=
  continues_eq_false_of_ne (ne_of_mem_marks m hm) c

end Token.Kind

/-! ## Reading piece by piece -/

namespace Scan

variable {cut? : (cs : List Char) → Option (Piece cs)} {cs : List Char}

theorem read_of_none (here : Location) (h : cut? cs = none) :
    read cut? here cs = ⟨[], here, cs⟩ := by
  rw [read, h]

theorem read_of_gap (here : Location) {p : Piece cs} (h : cut? cs = some p) (hp : p.kind = none) :
    read cut? here cs = read cut? (here.after p.lexeme) p.rest := by
  rw [read, h]
  simp only [hp]

theorem read_of_token (here : Location) {p : Piece cs} (h : cut? cs = some p) {kind : Token.Kind}
    (hp : p.kind = some kind) :
    read cut? here cs = (read cut? (here.after p.lexeme) p.rest).keep
      ⟨kind, String.ofList p.lexeme, here, here.after p.lexeme⟩ := by
  rw [read, h]
  simp only [hp]

open Token.Pattern

/-- Blanks in front of something else are passed over. -/
theorem read_gap_append (here : Location) {gap cs : List Char} (hgap : ∀ c ∈ gap, isBlank c = true)
    (hcs : ∀ c ∈ cs.head?, isBlank c = false) :
    read (firstCut? all) here (gap ++ cs) =
      read (firstCut? all) (here.after gap) cs := by
  cases gap with
  | nil => rfl
  | cons c gap =>
    have hmatches : Token.Pattern.gap.Matches (c :: gap) :=
      ⟨hgap c (by simp), fun d hd => hgap d (by simp [hd])⟩
    exact read_of_gap here (firstCut?_append apart_all (mem_all.mpr (by simp)) hmatches hcs) rfl

/-- A lexeme in front of something that it does not go on with is cut off whole. -/
theorem read_lexeme_append (here : Location) {kind : Token.Kind} {lexeme cs : List Char}
    (h : kind.Matches lexeme) (hcs : ∀ c ∈ cs.head?, kind.continues c = false) :
    read (firstCut? all) here (lexeme ++ cs) =
      (read (firstCut? all) (here.after lexeme) cs).keep
        ⟨kind, String.ofList lexeme, here, here.after lexeme⟩ := by
  obtain ⟨p, hp, hkind, hmatches⟩ := h
  rw [← Token.Kind.continues_of_mem_all hp hkind] at hcs
  exact read_of_token here (firstCut?_append apart_all hp hmatches hcs) hkind

/-- A blank is passed over, whatever follows. -/
theorem read_blank_cons (here : Location) {c : Char} (hc : isBlank c = true) (cs : List Char) :
    read (firstCut? all) here (c :: cs) = read (firstCut? all) (here.step c) cs := by
  have hgap : ∀ d ∈ cs.takeWhile isBlank, isBlank d = true :=
    fun d hd => List.all_eq_true.mp List.all_takeWhile d hd
  have hrest : ∀ d ∈ (cs.dropWhile isBlank).head?, isBlank d = false := by
    intro d hd
    have hnot := List.head?_dropWhile_not isBlank cs
    rw [Option.mem_def] at hd
    rw [hd] at hnot
    exact hnot
  have hcgap : ∀ d ∈ c :: cs.takeWhile isBlank, isBlank d = true := by
    intro d hd
    obtain rfl | hd := List.mem_cons.mp hd
    · exact hc
    · exact hgap d hd
  -- both sides stand behind the last of the blanks
  rw [← List.takeWhile_append_dropWhile (p := isBlank) (l := cs), ← List.cons_append,
    read_gap_append here hcgap hrest, read_gap_append _ hgap hrest, Location.after_cons]

/-- A single character of its own is cut off, whatever follows. -/
theorem read_mark_cons (here : Location) {m : Token.Kind × Char} (hm : m ∈ marks)
    (cs : List Char) :
    read (firstCut? all) here (m.2 :: cs) = (read (firstCut? all) (here.step m.2) cs).keep
      ⟨m.1, String.ofList [m.2], here, here.step m.2⟩ :=
  read_lexeme_append here (Token.Kind.matches_mark hm)
    fun c _ => Token.Kind.not_continues_mark hm c

end Scan

end Reckoner
