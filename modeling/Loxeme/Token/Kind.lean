import Loxeme.Token.Keyword
import Loxeme.Token.Symbol

/-!
# Kinds of tokens

The closed set of lexical categories: a symbol or a keyword is its own category, and there are
strings, numbers, names that are not keywords, and the end of the source.

* `Kind.name`: the upper-case name of a kind.
* `Kind.ofName?_name`: the names of two kinds differ.
* `Kind.ofWord`: the kind of a word, a keyword or a name.
-/

namespace Loxeme

/-- The lexical category of a token. -/
inductive Kind
  | symbol (s : Symbol)
  | keyword (k : Keyword)
  | string
  | number
  | identifier
  | eof
  deriving DecidableEq, Repr

namespace Kind

/-- The upper-case name of a kind. -/
def name : Kind → String
  | .symbol s => s.name
  | .keyword k => k.name
  | .string => "STRING"
  | .number => "NUMBER"
  | .identifier => "IDENTIFIER"
  | .eof => "EOF"

/-- Whether a kind is one of the reserved words. -/
def isKeyword : Kind → Bool
  | .keyword _ => true
  | _ => false

/-- All kinds, each one once. -/
def all : List Kind :=
  Symbol.all.map .symbol ++ [.string, .number, .identifier] ++ Keyword.all.map .keyword ++ [.eof]

theorem mem_all (k : Kind) : k ∈ all := by
  cases k <;> simp [all, Symbol.mem_all, Keyword.mem_all]

/-- The kind with a given upper-case name. -/
def ofName? (name : String) : Option Kind :=
  all.find? fun k => k.name == name

/-- A word is a keyword if it is spelled as one, and a name otherwise. -/
def ofWord (word : List Char) : Kind :=
  match Keyword.ofChars? word with
  | some k => .keyword k
  | none => .identifier

/-- Different kinds have different names. -/
theorem ofName?_name (k : Kind) : ofName? k.name = some k := by
  rcases k with s | k | _ | _ | _ | _
  · cases s <;> rfl
  · cases k <;> rfl
  all_goals rfl

end Kind

end Loxeme
