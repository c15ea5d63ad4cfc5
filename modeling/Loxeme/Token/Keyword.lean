/-!
# Keywords

The reserved words of the language. A word is a keyword if it is spelled exactly as one; a change
of case makes it an ordinary name.

* `Keyword.ofChars?`: the keyword of a spelling.
* `Keyword.ofChars?_eq_some_iff`: a text is read as the keyword whose spelling it is.
-/

namespace Loxeme

/-- A reserved word. -/
inductive Keyword
  | andKw | classKw | elseKw | falseKw | forKw | funKw | ifKw | nilKw
  | orKw | printKw | returnKw | superKw | thisKw | trueKw | varKw | whileKw
  deriving DecidableEq, Repr

namespace Keyword

/-- All keywords, in the order of their spellings. -/
def all : List Keyword :=
  [.andKw, .classKw, .elseKw, .falseKw, .forKw, .funKw, .ifKw, .nilKw, .orKw, .printKw,
    .returnKw, .superKw, .thisKw, .trueKw, .varKw, .whileKw]

theorem mem_all (k : Keyword) : k ∈ all := by
  cases k <;> decide

/-- The word itself. -/
def spelling : Keyword → String
  | .andKw => "and"
  | .classKw => "class"
  | .elseKw => "else"
  | .falseKw => "false"
  | .forKw => "for"
  | .funKw => "fun"
  | .ifKw => "if"
  | .nilKw => "nil"
  | .orKw => "or"
  | .printKw => "print"
  | .returnKw => "return"
  | .superKw => "super"
  | .thisKw => "this"
  | .trueKw => "true"
  | .varKw => "var"
  | .whileKw => "while"

/-- The upper-case name of a keyword. -/
def name : Keyword → String
  | .andKw => "AND"
  | .classKw => "CLASS"
  | .elseKw => "ELSE"
  | .falseKw => "FALSE"
  | .forKw => "FOR"
  | .funKw => "FUN"
  | .ifKw => "IF"
  | .nilKw => "NIL"
  | .orKw => "OR"
  | .printKw => "PRINT"
  | .returnKw => "RETURN"
  | .superKw => "SUPER"
  | .thisKw => "THIS"
  | .trueKw => "TRUE"
  | .varKw => "VAR"
  | .whileKw => "WHILE"

/-- The keyword that a word is, if it is one. -/
def ofChars? (word : List Char) : Option Keyword :=
  all.find? fun k => k.spelling.toList == word

theorem spelling_toList_injective {k l : Keyword} (h : k.spelling.toList = l.spelling.toList) :
    k = l := by
  revert h
  cases k <;> cases l <;> decide

theorem ofChars?_eq_some_iff {word : List Char} {k : Keyword} :
    ofChars? word = some k ↔ word = k.spelling.toList := by
  constructor
  · intro h
    have hk := List.find?_some h
    exact (eq_of_beq hk).symm
  · rintro rfl
    cases k <;> rfl

end Keyword

end Loxeme
