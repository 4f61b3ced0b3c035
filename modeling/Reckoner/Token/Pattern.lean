import Reckoner.Text.Word
import Reckoner.Token

/-!
# Lexical patterns

A pattern describes the lexemes of one kind: a first character of one class and as many further
characters of another as follow. `Pattern.all` lists the patterns in order of priority. Cutting a
text by a pattern gives a `Piece`: a non-empty lexeme and the rest behind it.

* `Pattern.cut?_eq_none_iff`: a pattern cuts exactly the texts that begin with one of its first
  characters.
-/

namespace Reckoner

open Text

/-- A non-empty lexeme at the front of `cs` and the rest behind it. A piece without a kind
separates tokens and is no token itself. -/
structure Piece (cs : List Char) where
  kind : Option Token.Kind
  lexeme : List Char
  rest : List Char
  lexeme_append_rest : lexeme ++ rest = cs
  lexeme_ne_nil : lexeme ≠ []

theorem Piece.length_rest_lt {cs : List Char} (p : Piece cs) : p.rest.length < cs.length := by
  have h := congrArg List.length p.lexeme_append_rest
  have hpos := List.length_pos_iff.mpr p.lexeme_ne_nil
  rw [List.length_append] at h
  omega

/-- The lexemes of one kind: a first character and those that may follow it. -/
structure Token.Pattern where
  kind : Option Token.Kind
  starts : Char → Bool
  continues : Char → Bool

namespace Token.Pattern

/-- One or more digits. -/
def number : Pattern := ⟨some .number, Char.isDigit, Char.isDigit⟩

/-- A letter or underscore and any word characters. -/
def identifier : Pattern := ⟨some .identifier, isNameStart, isWord⟩

/-- A single given character. -/
def mark (kind : Kind) (c : Char) : Pattern := ⟨some kind, (· == c), fun _ => false⟩

/-- One or more blanks, which only separate tokens. -/
def gap : Pattern := ⟨none, isBlank, isBlank⟩

/-- The patterns in order of priority. -/
def all : List Pattern :=
  [number, identifier, mark (.operator .add) '+', mark (.operator .subtract) '-',
   mark (.operator .multiply) '*', mark (.operator .divide) '/', mark .assign '=',
   mark .openParen '(', mark .closeParen ')', gap]

/-- The longest piece of the pattern at the front of a text. -/
def cut? (p : Pattern) : (cs : List Char) → Option (Piece cs)
  | [] => none
  | c :: cs =>
    if p.starts c then
      some ⟨p.kind, c :: cs.takeWhile p.continues, cs.dropWhile p.continues,
        by rw [List.cons_append, List.takeWhile_append_dropWhile], List.cons_ne_nil _ _⟩
    else none

/-- The piece of the first pattern in a list that cuts a text. -/
def firstCut? (patterns : List Pattern) (cs : List Char) : Option (Piece cs) :=
  patterns.findSome? fun p => p.cut? cs

@[simp] theorem cut?_nil (p : Pattern) : p.cut? [] = none := rfl

theorem cut?_eq_none_iff {p : Pattern} {cs : List Char} :
    p.cut? cs = none ↔ ∀ c ∈ cs.head?, p.starts c = false := by
  cases cs with
  | nil => simp
  | cons c cs => by_cases h : p.starts c = true <;> simp [cut?, h]

end Token.Pattern

end Reckoner
