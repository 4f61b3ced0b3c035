import Reckoner.Expr
import Reckoner.Parse.Error
import Reckoner.Parse.Sentence

/-!
# Parsing

The grammar of expressions, read from left to right with one token of lookahead:

* an expression is a sum: products joined by `+` and `-`, grouped to the left;
* a product is factors joined by `*` and `/`, grouped to the left;
* a factor is a number, a name, a name with `=` and an expression, or an expression in
  parentheses.

A parenthesis and an assignment open a level of nesting, and a limit bounds the levels open at
once. A `Reader` reads some tokens from the front of a list and leaves fewer, which is why every
rule below comes to an end; the levels still allowed are the argument on which `expression`
recurs.

* `parseWithin` reads a whole list of tokens under a given limit, `parse` under the usual one.
-/

namespace Reckoner

/-- An expression that was read, and the tokens left behind it: fewer than `n`. -/
structure Parsed (n : Nat) where
  tree : Expr
  rest : List Token
  length_rest_lt : rest.length < n

/-- A rule of the grammar: reads at least one token from the front. -/
abbrev Reader := (ts : List Token) → Except ParseError (Parsed ts.length)

namespace Parse

/-- The operator that a token stands for, if it is one of the given precedence. -/
def operator? (level : Precedence) (t : Token) : Option Operator :=
  match t.kind with
  | .operator op => if op.precedence = level then some op else none
  | _ => none

/-- Reads operators of one precedence, each with its right operand, and groups them to the left
behind a first operand. -/
def more (level : Precedence) (operand : Reader) (left : Expr) :
    (ts : List Token) → Except ParseError (Parsed (ts.length + 1))
  | [] => .ok ⟨left, [], by simp⟩
  | t :: ts =>
    match operator? level t with
    | none => .ok ⟨left, t :: ts, by simp⟩
    | some op => do
      let right ← operand ts
      let all ← more level operand (.binary op left right.tree) right.rest
      return ⟨all.tree, all.rest, by
        have := right.length_rest_lt
        have := all.length_rest_lt
        simp only [List.length_cons]
        omega⟩
  termination_by ts => ts.length
  decreasing_by
    have := right.length_rest_lt
    simp only [List.length_cons]
    omega

/-- Reads one or more operands joined by operators of one precedence. -/
def chain (level : Precedence) (operand : Reader) : Reader := fun ts => do
  let first ← operand ts
  let all ← more level operand first.tree first.rest
  return ⟨all.tree, all.rest, by
    have := first.length_rest_lt
    have := all.length_rest_lt
    omega⟩

/-- Reads a factor. `nest` reads the expression inside a level opened by a token, and `stop` is
found where the tokens run out. -/
def factor (stop : Token) (nest : Token → Reader) : Reader
  | [] => .error (.unexpected stop)
  | t :: ts =>
    match t.kind with
    | .number =>
      match Value.ofNumeral? t.lexeme with
      | some v => .ok ⟨.literal v, ts, by simp⟩
      | none => .error (.tooLarge t)
    | .identifier =>
      match ts with
      | [] => .ok ⟨.var t.lexeme, [], by simp⟩
      | u :: us =>
        if u.kind = .assign then do
          let value ← nest u us
          return ⟨.assign t.lexeme value.tree, value.rest, by
            have := value.length_rest_lt
            simp only [List.length_cons]
            omega⟩
        else .ok ⟨.var t.lexeme, u :: us, by simp⟩
    | .openParen => do
      let inner ← nest t ts
      match h : inner.rest with
      | [] => .error (.expected .closeParen stop)
      | u :: us =>
        if u.kind = .closeParen then
          return ⟨inner.tree, us, by
            have := inner.length_rest_lt
            simp only [h, List.length_cons] at this ⊢
            omega⟩
        else .error (.expected .closeParen u)
    | _ => .error (.unexpected t)

/-- Reads a sum of products of factors. -/
def sum (stop : Token) (nest : Token → Reader) : Reader :=
  chain .additive (chain .multiplicative (factor stop nest))

/-- Reads an expression with so many levels of nesting still allowed. With none left, the token
that would open one is refused. -/
def expression (limit : Nat) (stop : Token) : (levels : Nat) → Reader
  | 0 => sum stop fun opener _ => .error (.tooDeeplyNested opener limit)
  | levels + 1 => sum stop fun _ ts => expression limit stop levels ts

/-- The usual limit on nested parentheses and assignments. -/
def usualLimit : Nat := 128

end Parse

/-- The expression that a list of tokens spells, with at most `limit` levels of nesting. Tokens
behind the first end marker are not looked at. -/
def parseWithin (limit : Nat) (tokens : List Token) : Except ParseError Expr := do
  let sentence := Sentence.ofTokens tokens
  let parsed ← Parse.expression limit sentence.stop limit sentence.body
  match parsed.rest with
  | [] => return parsed.tree
  | t :: _ => throw (.trailing t)

/-- The expression that a list of tokens spells, with the usual limit. -/
def parse (tokens : List Token) : Except ParseError Expr :=
  parseWithin Parse.usualLimit tokens

end Reckoner
