import Loxeme.Source.Offset

/-!
# Positions in a source

A position is a number of bytes from the start of a source and the line reached there. Both only
grow with the text that is passed.

* `Position.after_append`: passing two texts is passing the first and then the second.
-/

namespace Loxeme

/-- The number of line feeds in a text. -/
def lineFeeds (text : List Char) : Nat :=
  text.count '\n'

@[simp] theorem lineFeeds_nil : lineFeeds [] = 0 := rfl

@[simp] theorem lineFeeds_append (a b : List Char) :
    lineFeeds (a ++ b) = lineFeeds a + lineFeeds b :=
  List.count_append

/-- A place in a source: the bytes before it, and its line, counted from one. -/
structure Position where
  offset : Nat
  line : Nat
  deriving DecidableEq, Repr

namespace Position

/-- The start of a source. -/
def start : Position := ⟨0, 1⟩

/-- The position behind a text that begins at a position. -/
def after (p : Position) (text : List Char) : Position :=
  ⟨p.offset + byteLength text, p.line + lineFeeds text⟩

@[simp] theorem after_nil (p : Position) : p.after [] = p := rfl

@[simp] theorem after_append (p : Position) (a b : List Char) :
    p.after (a ++ b) = (p.after a).after b := by
  simp [after, Nat.add_assoc]

end Position

end Loxeme
