import Reckoner.Token

/-!
# Parse errors

Every parse error names the token at which reading stopped, and is reported at the place where
that token starts.
-/

namespace Reckoner

/-- Why a list of tokens is no expression. -/
inductive ParseError
  /-- Another kind of token had to stand here. -/
  | expected (kind : Token.Kind) (found : Token)
  /-- An operand had to start here. -/
  | unexpected (found : Token)
  /-- The expression is complete, but the tokens go on. -/
  | trailing (found : Token)
  /-- The lexeme denotes no value. -/
  | tooLarge (found : Token)
  /-- The parenthesis or assignment opens one level more than the limit allows. -/
  | tooDeeplyNested (found : Token) (limit : Nat)
  deriving DecidableEq

namespace ParseError

/-- The token at which reading stopped. -/
def found : ParseError → Token
  | expected _ t | unexpected t | trailing t | tooLarge t | tooDeeplyNested t _ => t

/-- The error with its token changed. -/
def mapFound (f : Token → Token) : ParseError → ParseError
  | expected k t => expected k (f t)
  | unexpected t => unexpected (f t)
  | trailing t => trailing (f t)
  | tooLarge t => tooLarge (f t)
  | tooDeeplyNested t limit => tooDeeplyNested (f t) limit

/-- The error without the place of its token. -/
def unplaced (e : ParseError) : ParseError := e.mapFound Token.unplaced

/-- The one-line text of a parse error. -/
def message : ParseError → String
  | expected k t => s!"Expected {k}, found {t} at {t.span.start}"
  | unexpected t => s!"Unexpected token {t} at {t.span.start}"
  | trailing t => s!"Unexpected trailing token {t} at {t.span.start}"
  | tooLarge t => s!"Integer literal {t} at {t.span.start} is too large"
  | tooDeeplyNested t limit => s!"Token {t} at {t.span.start} nests deeper than {limit} levels"

end ParseError

end Reckoner
