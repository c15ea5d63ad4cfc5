/-!
# Symbols

The punctuation marks and operators of the language. Each is one character, or one of `!`, `=`,
`<`, `>` with a `=` behind it. Where both readings are possible the longer one is taken.

* `Symbol.take?`: the longest symbol at the front of a text, and the text behind it.
* `Symbol.chars_append_of_take?`: no character is lost.
-/

namespace Loxeme

/-- A punctuation mark or an operator. -/
inductive Symbol
  | leftParen | rightParen | leftBrace | rightBrace
  | comma | dot | semicolon
  | minus | plus | star | slash
  | bang | bangEqual | equal | equalEqual | less | lessEqual | greater | greaterEqual
  deriving DecidableEq, Repr

namespace Symbol

/-- All symbols, each one once. -/
def all : List Symbol :=
  [.leftParen, .rightParen, .leftBrace, .rightBrace, .comma, .dot, .semicolon, .minus, .plus,
    .star, .slash, .bang, .bangEqual, .equal, .equalEqual, .less, .lessEqual, .greater,
    .greaterEqual]

theorem mem_all (s : Symbol) : s ∈ all := by
  cases s <;> decide

/-- The spelling of a symbol. -/
def chars : Symbol → List Char
  | .leftParen => ['(']
  | .rightParen => [')']
  | .leftBrace => ['\x7b']
  | .rightBrace => ['\x7d']
  | .comma => [',']
  | .dot => ['.']
  | .semicolon => [';']
  | .minus => ['-']
  | .plus => ['+']
  | .star => ['*']
  | .slash => ['/']
  | .bang => ['!']
  | .bangEqual => ['!', '=']
  | .equal => ['=']
  | .equalEqual => ['=', '=']
  | .less => ['<']
  | .lessEqual => ['<', '=']
  | .greater => ['>']
  | .greaterEqual => ['>', '=']

theorem chars_ne_nil (s : Symbol) : s.chars ≠ [] := by
  cases s <;> simp [chars]

/-- The upper-case name of a symbol. -/
def name : Symbol → String
  | .leftParen => "LEFT_PAREN"
  | .rightParen => "RIGHT_PAREN"
  | .leftBrace => "LEFT_BRACE"
  | .rightBrace => "RIGHT_BRACE"
  | .comma => "COMMA"
  | .dot => "DOT"
  | .semicolon => "SEMICOLON"
  | .minus => "MINUS"
  | .plus => "PLUS"
  | .star => "STAR"
  | .slash => "SLASH"
  | .bang => "BANG"
  | .bangEqual => "BANG_EQUAL"
  | .equal => "EQUAL"
  | .equalEqual => "EQUAL_EQUAL"
  | .less => "LESS"
  | .lessEqual => "LESS_EQUAL"
  | .greater => "GREATER"
  | .greaterEqual => "GREATER_EQUAL"

/-- The symbol that a character is on its own. -/
def single? : Char → Option Symbol
  | '(' => some .leftParen
  | ')' => some .rightParen
  | '\x7b' => some .leftBrace
  | '\x7d' => some .rightBrace
  | ',' => some .comma
  | '.' => some .dot
  | ';' => some .semicolon
  | '-' => some .minus
  | '+' => some .plus
  | '*' => some .star
  | '/' => some .slash
  | '!' => some .bang
  | '=' => some .equal
  | '<' => some .less
  | '>' => some .greater
  | _ => none

/-- The symbol that a character is together with a `=` behind it. -/
def withEqual? : Char → Option Symbol
  | '!' => some .bangEqual
  | '=' => some .equalEqual
  | '<' => some .lessEqual
  | '>' => some .greaterEqual
  | _ => none

/-- The longest symbol that starts with a character and goes on into the text behind it. -/
def take? (c : Char) (text : List Char) : Option (Symbol × List Char) :=
  match text, withEqual? c with
  | '=' :: rest, some s => some (s, rest)
  | _, _ => (single? c).map (·, text)

/-! ## Spelling and reading -/

theorem chars_of_single? {c : Char} {s : Symbol} (h : single? c = some s) : s.chars = [c] := by
  unfold single? at h
  split at h <;> cases h <;> rfl

theorem chars_of_withEqual? {c : Char} {s : Symbol} (h : withEqual? c = some s) :
    s.chars = [c, '='] := by
  unfold withEqual? at h
  split at h <;> cases h <;> rfl

theorem chars_append_of_take? {c : Char} {text rest : List Char} {s : Symbol}
    (h : take? c text = some (s, rest)) : s.chars ++ rest = c :: text := by
  unfold take? at h
  split at h
  · rename_i hs
    cases h
    simp [chars_of_withEqual? hs]
  · obtain ⟨s', hs, he⟩ := Option.map_eq_some_iff.mp h
    cases he
    simp [chars_of_single? hs]

/-- Without a `=` behind it, a character is a symbol on its own or none. -/
theorem take?_of_head?_ne {c : Char} {text : List Char} (h : text.head? ≠ some '=') :
    take? c text = (single? c).map (·, text) := by
  unfold take?
  split
  · exact absurd rfl h
  · rfl

/-- A character that forms no symbol with a `=` behind it is a symbol on its own or none. -/
theorem take?_of_withEqual?_eq_none {c : Char} (h : withEqual? c = none) (text : List Char) :
    take? c text = (single? c).map (·, text) := by
  unfold take?
  split
  · rename_i hs
    rw [h] at hs
    cases hs
  · rfl

end Symbol

end Loxeme
