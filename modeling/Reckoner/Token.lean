import Reckoner.Location
import Reckoner.Operator

/-!
# Tokens

A token is a lexeme with its kind and the place it was read at. A list of tokens is closed by an
end marker, an empty token at the end of the text.

* `Token.unplaced` forgets the place, and two tokens that differ only in their place are the same
  afterwards.
* `Token.Kind.ofLabel?_label`: every kind is found again by its label.
-/

namespace Reckoner

/-- The kinds of tokens. -/
inductive Token.Kind
  | number
  | identifier
  | operator (op : Operator)
  | assign
  | openParen
  | closeParen
  | endMarker
  deriving DecidableEq

namespace Token.Kind

/-- The name of a kind in messages. -/
def label : Kind → String
  | number => "NUMBER"
  | identifier => "IDENTIFIER"
  | operator .add => "PLUS"
  | operator .subtract => "MINUS"
  | operator .multiply => "STAR"
  | operator .divide => "SLASH"
  | assign => "ASSIGN"
  | openParen => "LPAREN"
  | closeParen => "RPAREN"
  | endMarker => "ENDMARKER"

instance : ToString Kind := ⟨label⟩

/-- All kinds. -/
def all : List Kind :=
  [number, identifier] ++ Operator.all.map operator ++ [assign, openParen, closeParen, endMarker]

/-- The kind with a given label. -/
def ofLabel? (s : String) : Option Kind :=
  all.find? fun k => k.label == s

theorem ofLabel?_label (k : Kind) : ofLabel? k.label = some k := by
  cases k with
  | operator op => cases op <;> decide
  | _ => decide

end Token.Kind

/-- A lexeme with its kind and place. -/
structure Token where
  kind : Token.Kind
  lexeme : String
  span : Span
  deriving DecidableEq

namespace Token

/-- The end marker at a place. -/
def endMarker (l : Location) : Token := ⟨.endMarker, "", .point l⟩

/-- The token without its place: kind and lexeme are kept, the span becomes the initial one. -/
def unplaced (t : Token) : Token := { t with span := .initial }

instance : ToString Token := ⟨fun t => t.kind.label ++ "('" ++ t.lexeme ++ "')"⟩

theorem unplaced_eq_iff {t u : Token} :
    t.unplaced = u.unplaced ↔ t.kind = u.kind ∧ t.lexeme = u.lexeme := by
  cases t; cases u; simp [unplaced]

end Token

end Reckoner
