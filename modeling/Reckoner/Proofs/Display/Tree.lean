import Reckoner.Proofs.Display.Word
import Reckoner.Proofs.Grammar.RoundTrip

/-!
# The texts of expressions

The text of an expression begins with a word: a literal, a name, or the keyword of an assignment or
an operation. Only behind a keyword a parenthesis opens, so that a name may be a keyword too, and
inside it the operands end at a comma or at the parenthesis that closes. So the text can be taken
apart again.

* `Expr.Named`: the expressions whose names are names of the language. Every expression that a
  source spells is one.
* `Expr.eq_of_text_append`: a text that begins with the text of an expression determines the
  expression and what is behind it.
* `text_determines_tree`: expressions with the same text are equal.
-/

namespace Reckoner

open Display Token.Pattern

theorem Operator.symbol_append_inj {op op' : Operator} {r s : List Char}
    (h : op.symbol.toList ++ r = op'.symbol.toList ++ s) : op = op' ∧ r = s := by
  -- every symbol is a single character
  obtain ⟨c, hc, -⟩ := exists_mark op
  obtain ⟨c', hc', -⟩ := exists_mark op'
  rw [hc, hc'] at h
  obtain ⟨rfl, rfl⟩ := List.cons.inj h
  have hsymbol := ofSymbol?_symbol op
  rw [String.toList_inj.mp (hc.trans hc'.symm), ofSymbol?_symbol, Option.some.injEq] at hsymbol
  exact ⟨hsymbol.symm, rfl⟩

namespace Expr

/-- The names in the expression are an ASCII letter or underscore and word characters. -/
def Named : Expr → Prop
  | .literal _ => True
  | .var name => identifier.Matches name.toList
  | .assign name value => identifier.Matches name.toList ∧ value.Named
  | .binary _ left right => left.Named ∧ right.Named

instance decidableNamed : (e : Expr) → Decidable e.Named
  | .literal _ => isTrue trivial
  | .var name => inferInstanceAs (Decidable (identifier.Matches name.toList))
  | .assign _ value =>
    have := decidableNamed value
    inferInstanceAs (Decidable (_ ∧ value.Named))
  | .binary _ left right =>
    have := decidableNamed left
    have := decidableNamed right
    inferInstanceAs (Decidable (left.Named ∧ right.Named))

theorem Writable.named {e : Expr} (h : e.Writable) : e.Named := by
  induction e with
  | literal => trivial
  | var => exact h
  | assign _ _ ih => exact ⟨h.1, ih h.2⟩
  | binary _ _ _ ihl ihr => exact ⟨ihl h.1, ihr h.2⟩

/-- The names in what a source spells are names of the language. -/
theorem named_of_parseWithin {source : String} {tokens : List Token} {limit : Nat} {e : Expr}
    (hscan : scan source = .ok tokens) (hparse : parseWithin limit tokens = .ok e) : e.Named := by
  obtain ⟨D, htokens, rfl, -, -⟩ := parseWithin_eq_ok_iff_derivation.mp hparse
  exact (D.writable (htokens ▸ matches_of_mem_body hscan)).named

/-! ## Words and operands -/

theorem text_assign (name : String) (value : Expr) :
    (assign name value).text = "Assignment(" ++ name ++ ", " ++ value.text ++ ")" := rfl

theorem text_binary (op : Operator) (left right : Expr) :
    (binary op left right).text =
      "BinaryOp(" ++ op.symbol ++ ", " ++ left.text ++ ", " ++ right.text ++ ")" := rfl

/-- The word at the front of the text. -/
def frontWord : Expr → String
  | .literal value => toString value
  | .var name => name
  | .assign _ _ => "Assignment"
  | .binary _ _ _ => "BinaryOp"

/-- What stands behind the word: nothing, or the operands in parentheses. -/
def operandText : Expr → List Char
  | .literal _ => []
  | .var _ => []
  | .assign name value => '(' :: (name.toList ++ ',' :: ' ' :: (value.text.toList ++ [')']))
  | .binary op left right =>
    '(' :: (op.symbol.toList ++
      ',' :: ' ' :: (left.text.toList ++ ',' :: ' ' :: (right.text.toList ++ [')'])))

theorem toList_text (e : Expr) : e.text.toList = e.frontWord.toList ++ e.operandText := by
  cases e with
  | literal | var => exact (List.append_nil _).symm
  | assign name value => simp [text_assign, frontWord, operandText]
  | binary op left right => simp [text_binary, frontWord, operandText]

theorem Named.isWord_frontWord {e : Expr} (h : e.Named) : IsWord e.frontWord.toList := by
  have hkeywords : identifier.Matches "Assignment".toList ∧
      identifier.Matches "BinaryOp".toList := by
    decide +kernel
  cases e with
  | literal value => exact value.isWord_toString
  | var name => exact isWord_of_matches h
  | assign => exact isWord_of_matches hkeywords.1
  | binary => exact isWord_of_matches hkeywords.2

/-! ## Taking a text apart -/

/-- What stands behind the text of an operand: a comma or the parenthesis that closes. Behind the
text of the whole there is nothing. -/
def Closes (cs : List Char) : Prop := ∀ c ∈ cs.head?, c = ',' ∨ c = ')'

variable {d e : Expr} {cs r s : List Char}

theorem closes_nil : Closes [] := by
  rintro _ ⟨⟩

theorem closes_comma (cs : List Char) : Closes (',' :: cs) := by
  rintro _ ⟨⟩
  exact Or.inl rfl

theorem closes_closeParen (cs : List Char) : Closes (')' :: cs) := by
  rintro _ ⟨⟩
  exact Or.inr rfl

theorem Closes.head?_ne (h : Closes cs) : cs.head? ≠ some '(' := by
  intro hopen
  exact absurd (h _ hopen) (by decide)

theorem Closes.ends (h : Closes cs) : Ends cs := by
  cases cs with
  | nil => rintro _ ⟨⟩
  | cons c cs =>
    obtain rfl | rfl := h c rfl
    · exact ends_cons (by decide) cs
    · exact ends_cons (by decide) cs

theorem ends_operandText (e : Expr) (hr : Closes r) : Ends (e.operandText ++ r) := by
  cases e with
  | literal | var => exact hr.ends
  | assign | binary => exact ends_cons (by decide) _

/-- The word at the front and what stands behind it are decided by the text. -/
theorem frontWord_inj (hd : d.Named) (he : e.Named) (hr : Closes r) (hs : Closes s)
    (h : d.text.toList ++ r = e.text.toList ++ s) :
    d.frontWord = e.frontWord ∧ d.operandText ++ r = e.operandText ++ s := by
  rw [toList_text, toList_text, List.append_assoc, List.append_assoc] at h
  obtain ⟨hword, hrest⟩ := hd.isWord_frontWord.append_inj he.isWord_frontWord
    (d.ends_operandText hr) (e.ends_operandText hs) h
  exact ⟨String.toList_inj.mp hword, hrest⟩

/-- A text that begins with the text of an expression determines the expression and what is behind
it. -/
theorem eq_of_text_append (hd : d.Named) (he : e.Named) (hr : Closes r) (hs : Closes s)
    (h : d.text.toList ++ r = e.text.toList ++ s) : d = e ∧ r = s := by
  -- operands are read off with all that is behind them: the induction is for whatever stands there
  induction d generalizing e r s with
  | literal v =>
    obtain ⟨hword, hrest⟩ := frontWord_inj hd he hr hs h
    cases e with
    | literal w => exact ⟨congrArg literal (Value.toString_injective hword), hrest⟩
    | var name =>
      obtain rfl : toString v = name := hword
      exact absurd he v.not_matches_toString
    | assign | binary => exact (hr.head?_ne (congrArg List.head? hrest)).elim
  | var name =>
    obtain ⟨hword, hrest⟩ := frontWord_inj hd he hr hs h
    cases e with
    | literal w =>
      obtain rfl : name = toString w := hword
      exact absurd hd w.not_matches_toString
    | var name' => exact ⟨congrArg var hword, hrest⟩
    | assign | binary => exact (hr.head?_ne (congrArg List.head? hrest)).elim
  | assign name value ih =>
    obtain ⟨hword, hrest⟩ := frontWord_inj hd he hr hs h
    cases e with
    | literal | var => exact (hs.head?_ne (congrArg List.head? hrest.symm)).elim
    | assign name' value' =>
      have hinner : name.toList ++ ',' :: ' ' :: (value.text.toList ++ ')' :: r) =
          name'.toList ++ ',' :: ' ' :: (value'.text.toList ++ ')' :: s) := by
        simpa [operandText] using hrest
      obtain ⟨hname, hbehind⟩ := (isWord_of_matches hd.1).append_mark_inj (by decide)
        (isWord_of_matches he.1) hinner
      obtain ⟨rfl, htail⟩ := ih hd.2 he.2 (closes_closeParen r) (closes_closeParen s) hbehind
      rw [String.toList_inj.mp hname]
      exact ⟨rfl, List.tail_eq_of_cons_eq htail⟩
    | binary => exact absurd (show "Assignment" = "BinaryOp" from hword) (by decide)
  | binary op left right ihl ihr =>
    obtain ⟨hword, hrest⟩ := frontWord_inj hd he hr hs h
    cases e with
    | literal | var => exact (hs.head?_ne (congrArg List.head? hrest.symm)).elim
    | assign => exact absurd (show "BinaryOp" = "Assignment" from hword) (by decide)
    | binary op' left' right' =>
      have hinner : op.symbol.toList ++ ',' :: ' ' :: (left.text.toList ++
            ',' :: ' ' :: (right.text.toList ++ ')' :: r)) =
          op'.symbol.toList ++ ',' :: ' ' :: (left'.text.toList ++
            ',' :: ' ' :: (right'.text.toList ++ ')' :: s)) := by
        simpa [operandText] using hrest
      obtain ⟨rfl, hoperands⟩ := Operator.symbol_append_inj hinner
      obtain ⟨rfl, hright⟩ := ihl hd.1 he.1 (closes_comma _) (closes_comma _)
        (List.tail_eq_of_cons_eq (List.tail_eq_of_cons_eq hoperands))
      obtain ⟨rfl, htail⟩ := ihr hd.2 he.2 (closes_closeParen r) (closes_closeParen s)
        (List.tail_eq_of_cons_eq (List.tail_eq_of_cons_eq hright))
      exact ⟨rfl, List.tail_eq_of_cons_eq htail⟩

end Expr

/-- Expressions with the same text are equal, whatever their literals and however their names are
chosen among the names of the language. So two sources spell expressions with the same text exactly
when they spell the same expression. -/
theorem text_determines_tree :
    (∀ d e : Expr, d.Named → e.Named → toString d = toString e → d = e) ∧
    ∀ (source source' : String) (tokens tokens' : List Token) (limit limit' : Nat) (d e : Expr),
      scan source = .ok tokens → parseWithin limit tokens = .ok d →
      scan source' = .ok tokens' → parseWithin limit' tokens' = .ok e →
      (toString d = toString e ↔ d = e) := by
  have hinjective : ∀ d e : Expr, d.Named → e.Named → toString d = toString e → d = e := by
    intro d e hd he h
    have htext : d.text.toList ++ [] = e.text.toList ++ [] :=
      congrArg (fun text : String => text.toList ++ []) h
    exact (Expr.eq_of_text_append hd he Expr.closes_nil Expr.closes_nil htext).1
  refine ⟨hinjective, fun _ _ _ _ _ _ d e hscan hparse hscan' hparse' => ⟨fun h => ?_, ?_⟩⟩
  · exact hinjective d e (Expr.named_of_parseWithin hscan hparse)
      (Expr.named_of_parseWithin hscan' hparse') h
  · rintro rfl
    rfl

/-- A negative literal, less a name that is a keyword. -/
def Expr.negativeLess : Expr := .binary .subtract (.literal ⟨-1, by decide⟩) (.var "BinaryOp")

/-- `12 - Assignment`. -/
def Expr.less : Expr := .binary .subtract (.literal ⟨12, by decide⟩) (.var "Assignment")

/-- `Assignment = 12 - Assignment`. -/
def Expr.assignsLess : Expr := .assign "Assignment" .less

theorem text_determines_tree_keywords :
    Expr.negativeLess.Named ∧ Expr.less.Named ∧
      toString Expr.negativeLess = "BinaryOp(-, -1, BinaryOp)" ∧
      toString Expr.negativeLess ≠ toString Expr.less ∧
      (toString Expr.less = toString Expr.assignsLess ↔ Expr.less = Expr.assignsLess) := by
  obtain ⟨hinjective, hsources⟩ := text_determines_tree
  have hnegative : Expr.negativeLess.Named := by decide +kernel
  have hless : Expr.less.Named := by decide +kernel
  have hscan : scan "12 - Assignment" = .ok [⟨.number, "12", ⟨1, 1⟩, ⟨1, 3⟩⟩,
      ⟨.operator .subtract, "-", ⟨1, 4⟩, ⟨1, 5⟩⟩, ⟨.identifier, "Assignment", ⟨1, 6⟩, ⟨1, 16⟩⟩,
      .endMarker ⟨1, 16⟩] := by
    decide +kernel
  have hscan' : scan "Assignment=12-Assignment" = .ok [⟨.identifier, "Assignment", ⟨1, 1⟩, ⟨1, 11⟩⟩,
      ⟨.assign, "=", ⟨1, 11⟩, ⟨1, 12⟩⟩, ⟨.number, "12", ⟨1, 12⟩, ⟨1, 14⟩⟩,
      ⟨.operator .subtract, "-", ⟨1, 14⟩, ⟨1, 15⟩⟩, ⟨.identifier, "Assignment", ⟨1, 15⟩, ⟨1, 25⟩⟩,
      .endMarker ⟨1, 25⟩] := by
    decide +kernel
  refine ⟨hnegative, hless, by decide +kernel, fun h => ?_, ?_⟩
  · exact absurd (hinjective _ _ hnegative hless h) (by decide)
  · exact hsources _ _ _ _ 0 1 _ _ hscan (by decide +kernel) hscan' (by decide +kernel)

end Reckoner
