import Loxeme.Token.Kind
import Loxeme.Token.Literal

/-!
# Tokens

A token is a lexeme with its kind, the line on which it starts and, for numbers and strings, its
value.

* `Token.display`: a short form for messages.
* `Token.dump`: the canonical form, one line for each token unless its string holds a line feed.
* `Token.agrees`: equality with numbers compared as numbers.
-/

namespace Loxeme

/-- A lexical unit of a source. Lines count from one. -/
structure Token where
  kind : Kind
  lexeme : String
  line : Nat
  literal : Option Literal
  deriving DecidableEq, Repr

namespace Token

/-- A token without a value. -/
def plain (kind : Kind) (lexeme : String) (line : Nat) : Token :=
  ⟨kind, lexeme, line, none⟩

/-- The token that ends each scan; its lexeme is empty. -/
def eof (line : Nat) : Token :=
  plain .eof "" line

/-- A token with its value replaced. -/
def withLiteral (token : Token) (literal : Literal) : Token :=
  { token with literal := some literal }

/-- A short form: the lexeme and its line in angle brackets. -/
def display (token : Token) : String :=
  "<" ++ token.lexeme ++ " @ " ++ toString token.line ++ ">"

/-- The text of a value that may be missing. -/
def literalText : Option Literal → String
  | some literal => literal.toText
  | none => "null"

/-- The canonical form: kind, lexeme and value, one blank between them. -/
def dump (token : Token) : String :=
  token.kind.name ++ " " ++ token.lexeme ++ " " ++ literalText token.literal

/-- Equality of two tokens, with numbers compared as IEEE 754 has it. -/
def agrees (a b : Token) : Bool :=
  a.kind == b.kind && a.lexeme == b.lexeme && a.line == b.line &&
    Literal.agrees? a.literal b.literal

end Token

end Loxeme
