import Loxeme.Alphabet.Basic
import Loxeme.Source.Run
import Loxeme.Token.Symbol

/-!
# Segments of a source

A source is a sequence of segments: blanks, comments, symbols, quoted texts, numbers, words, stray
characters that start nothing, and at the very end perhaps a quoted text that is not closed. At
each place the longest segment is taken.

* `Segment.next`: the segment at the front of a non-empty text, and the text behind it.
* `Segment.chars_append_next`: a segment and the text behind it are the text before it.
* `Segment.chars_next_ne_nil`, `Segment.length_next_lt`: each segment takes at least one
  character.
-/

namespace Loxeme

/-- A piece of a source that is read at once. -/
inductive Segment
  /-- One blank. -/
  | blank (c : Char)
  /-- Two slashes and the text behind them up to the end of the line. -/
  | comment (body : List Char)
  /-- A punctuation mark or an operator. -/
  | symbol (s : Symbol)
  /-- A text between quotes. -/
  | quoted (body : List Char)
  /-- A run of digits, with a point and a second run of digits or without. -/
  | number (whole : List Char) (fraction : Option (List Char))
  /-- A letter and the letters and digits behind it. -/
  | word (spelling : List Char)
  /-- A character that starts no other segment. -/
  | stray (c : Char)
  /-- A quote and the text behind it, which holds no other quote. -/
  | unclosed (body : List Char)
  deriving DecidableEq, Repr

namespace Segment

/-- The characters of a segment. -/
def chars : Segment → List Char
  | .blank c => [c]
  | .comment body => '/' :: '/' :: body
  | .symbol s => s.chars
  | .quoted body => '"' :: (body ++ ['"'])
  | .number whole none => whole
  | .number whole (some fraction) => whole ++ '.' :: fraction
  | .word spelling => spelling
  | .stray c => [c]
  | .unclosed body => '"' :: body

/-- What follows an opening quote: the text up to the next quote, or all of it if there is none. -/
def nextQuoted (text : List Char) : Segment × List Char :=
  let body := text.takeWhile (· != '"')
  match text.dropWhile (· != '"') with
  | [] => (.unclosed body, [])
  | _ :: rest => (.quoted body, rest)

/-- What a digit starts: it and the digits behind it, and if a point and another digit follow, the
point and all digits behind it. -/
def nextNumber (c : Char) (text : List Char) : Segment × List Char :=
  let whole := c :: text.takeWhile isDigit
  match text.dropWhile isDigit with
  | '.' :: d :: rest =>
    if isDigit d then (.number whole (some (d :: rest.takeWhile isDigit)), rest.dropWhile isDigit)
    else (.number whole none, '.' :: d :: rest)
  | rest => (.number whole none, rest)

/-- What a character starts that is no blank, quote, digit or letter: a comment, a symbol, or
nothing. -/
def nextMark (c : Char) (text : List Char) : Segment × List Char :=
  match c, text with
  | '/', '/' :: rest => (.comment (rest.takeWhile (· != '\n')), rest.dropWhile (· != '\n'))
  | c, text =>
    match Symbol.take? c text with
    | some (s, rest) => (.symbol s, rest)
    | none => (.stray c, text)

/-- The longest segment at the front of a text with a first character, and the text behind it. -/
def next (c : Char) (text : List Char) : Segment × List Char :=
  if isBlank c then (.blank c, text)
  else if c == '"' then nextQuoted text
  else if isDigit c then nextNumber c text
  else if isLetter c then (.word (c :: text.takeWhile isWordPart), text.dropWhile isWordPart)
  else nextMark c text

/-! ## No character is lost -/

theorem nextQuoted_of_not_mem {text : List Char} (h : '"' ∉ text) :
    nextQuoted text = (.unclosed text, []) := by
  rw [nextQuoted, takeWhile_eq_self (bne_of_not_mem h), dropWhile_eq_nil (bne_of_not_mem h)]

theorem nextQuoted_append {body : List Char} (h : '"' ∉ body) (rest : List Char) :
    nextQuoted (body ++ '"' :: rest) = (.quoted body, rest) := by
  have hstop : ∀ c ∈ ('"' :: rest).head?, (c != '"') = false := by
    rintro c ⟨⟩
    rfl
  rw [nextQuoted, takeWhile_run (bne_of_not_mem h) hstop, dropWhile_run (bne_of_not_mem h) hstop]

theorem chars_append_nextQuoted (text : List Char) :
    (nextQuoted text).1.chars ++ (nextQuoted text).2 = '"' :: text := by
  by_cases h : '"' ∈ text
  · obtain ⟨body, rest, rfl, hbody⟩ := List.eq_append_cons_of_mem h
    rw [nextQuoted_append hbody]
    simp [chars]
  · rw [nextQuoted_of_not_mem h, List.append_nil]
    rfl

theorem chars_append_nextNumber (c : Char) (text : List Char) :
    (nextNumber c text).1.chars ++ (nextNumber c text).2 = c :: text := by
  have hsplit := List.takeWhile_append_dropWhile (p := isDigit) (l := text)
  unfold nextNumber
  split
  · rename_i d rest h
    have hrest := List.takeWhile_append_dropWhile (p := isDigit) (l := rest)
    rw [h] at hsplit
    split <;> simp [chars, hsplit, hrest]
  · simp [chars, hsplit]

theorem chars_append_nextMark (c : Char) (text : List Char) :
    (nextMark c text).1.chars ++ (nextMark c text).2 = c :: text := by
  unfold nextMark
  split
  · simp [chars]
  · split
    · rename_i h
      exact Symbol.chars_append_of_take? h
    · rfl

theorem chars_append_next (c : Char) (text : List Char) :
    (next c text).1.chars ++ (next c text).2 = c :: text := by
  unfold next
  split
  · rfl
  split
  · rename_i h
    rw [chars_append_nextQuoted, eq_of_beq h]
  split
  · exact chars_append_nextNumber c text
  split
  · simp [chars]
  · exact chars_append_nextMark c text

/-! ## Each segment takes a character -/

theorem chars_nextQuoted_ne_nil (text : List Char) : (nextQuoted text).1.chars ≠ [] := by
  unfold nextQuoted
  split <;> simp [chars]

theorem chars_nextNumber_ne_nil (c : Char) (text : List Char) :
    (nextNumber c text).1.chars ≠ [] := by
  unfold nextNumber
  split
  · split <;> simp [chars]
  · simp [chars]

theorem chars_nextMark_ne_nil (c : Char) (text : List Char) : (nextMark c text).1.chars ≠ [] := by
  unfold nextMark
  split
  · simp [chars]
  · split
    · exact Symbol.chars_ne_nil _
    · simp [chars]

theorem chars_next_ne_nil (c : Char) (text : List Char) : (next c text).1.chars ≠ [] := by
  unfold next
  split
  · simp [chars]
  split
  · exact chars_nextQuoted_ne_nil text
  split
  · exact chars_nextNumber_ne_nil c text
  split
  · simp [chars]
  · exact chars_nextMark_ne_nil c text

theorem length_next_lt (c : Char) (text : List Char) :
    (next c text).2.length < (c :: text).length := by
  have hpos := List.length_pos_iff.mpr (chars_next_ne_nil c text)
  rw [← chars_append_next c text, List.length_append]
  omega

end Segment

end Loxeme
