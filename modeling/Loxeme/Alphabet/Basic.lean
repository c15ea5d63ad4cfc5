import Loxeme.Alphabet.Letters

/-!
# Character classes

A source is read through four classes of characters: blanks, digits, letters, and the letters
and digits that continue a word. Digits are the ten ASCII digits alone; letters are all of the
Unicode property `Alphabetic`.

* `isLetter_iff`: a letter is an ASCII letter or in a range of letters.
* `isLetter_of_lt`: below U+00AA the letters are the ASCII letters.
* `isLetter_of_isAlpha`: each ASCII letter is a letter.
* `isBlank_eq_false_of_isDigit`, `isLetter_eq_false_of_isBlank`, `isLetter_eq_false_of_isDigit`:
  no character is in two of the classes blank, digit and letter.
* `isWordPart_eq_false_of_isBlank`, `isBlank_eq_false_of_isWordPart`: a blank ends a word.
-/

namespace Loxeme

/-- Space, tab, carriage return and line feed separate lexemes and mean nothing else. -/
def isBlank (c : Char) : Bool :=
  c == ' ' || c == '\t' || c == '\r' || c == '\n'

/-- The digits of a number are `0` to `9`. -/
def isDigit (c : Char) : Bool :=
  '0' ≤ c && c ≤ '9'

/-- A letter starts a word. It is any character with the property `Alphabetic`. -/
def isLetter (c : Char) : Bool :=
  c.isAlpha || Alphabet.covers Alphabet.lettersBeyondAscii c.toNat

/-- A word goes on through letters and digits. -/
def isWordPart (c : Char) : Bool :=
  isLetter c || isDigit c

/-- A letter is an ASCII letter or in some range of letters, wherever the walk through the ranges
stops. -/
theorem isLetter_iff {c : Char} : isLetter c = true ↔ c.isAlpha = true ∨
    ∃ r ∈ Alphabet.lettersBeyondAscii, r.1 ≤ c.toNat ∧ c.toNat ≤ r.2 := by
  rw [isLetter, Bool.or_eq_true, Alphabet.covers_eq_any Alphabet.ascends_lettersBeyondAscii,
    List.any_eq_true]
  simp

example : isLetter 'é' = true := by decide +kernel

theorem isLetter_of_isAlpha {c : Char} (h : c.isAlpha = true) : isLetter c = true := by
  simp [isLetter, h]

theorem isLetter_of_lt {c : Char} (h : c.toNat < 0xAA) : isLetter c = c.isAlpha := by
  have : Alphabet.covers Alphabet.lettersBeyondAscii c.toNat = false :=
    Alphabet.covers_eq_false_of_lt h
  simp [isLetter, this]

/-! ## The classes are disjoint -/

theorem isBlank_iff {c : Char} : isBlank c = true ↔ c = ' ' ∨ c = '\t' ∨ c = '\r' ∨ c = '\n' := by
  simp [isBlank, or_assoc]

theorem isDigit_iff {c : Char} : isDigit c = true ↔ '0'.toNat ≤ c.toNat ∧ c.toNat ≤ '9'.toNat := by
  simp [isDigit, Char.le_def, UInt32.le_iff_toNat_le]

theorem isBlank_eq_false_of_isDigit {c : Char} (h : isDigit c = true) : isBlank c = false := by
  rw [Bool.eq_false_iff]
  intro hb
  rcases isBlank_iff.mp hb with rfl | rfl | rfl | rfl <;> revert h <;> decide

theorem isLetter_eq_false_of_isBlank {c : Char} (h : isBlank c = true) : isLetter c = false := by
  rcases isBlank_iff.mp h with rfl | rfl | rfl | rfl <;> exact isLetter_of_lt (by decide)

theorem isWordPart_eq_false_of_isBlank {c : Char} (h : isBlank c = true) :
    isWordPart c = false := by
  have hletter := isLetter_eq_false_of_isBlank h
  rcases isBlank_iff.mp h with rfl | rfl | rfl | rfl <;> rw [isWordPart, hletter] <;> decide

theorem isBlank_eq_false_of_isWordPart {c : Char} (h : isWordPart c = true) :
    isBlank c = false := by
  rw [Bool.eq_false_iff]
  intro hb
  rw [isWordPart_eq_false_of_isBlank hb] at h
  cases h

theorem isLetter_eq_false_of_isDigit {c : Char} (h : isDigit c = true) : isLetter c = false := by
  obtain ⟨hlow, hhigh⟩ := isDigit_iff.mp h
  have hn : c.toNat = 48 ∨ c.toNat = 49 ∨ c.toNat = 50 ∨ c.toNat = 51 ∨ c.toNat = 52 ∨
      c.toNat = 53 ∨ c.toNat = 54 ∨ c.toNat = 55 ∨ c.toNat = 56 ∨ c.toNat = 57 := by
    have h0 : '0'.toNat = 48 := rfl
    have h9 : '9'.toNat = 57 := rfl
    omega
  rw [← Char.ofNat_toNat c]
  rcases hn with hn | hn | hn | hn | hn | hn | hn | hn | hn | hn <;> rw [hn] <;>
    exact isLetter_of_lt (by decide)

end Loxeme
