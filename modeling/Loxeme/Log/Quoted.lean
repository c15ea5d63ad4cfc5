import Loxeme.Alphabet.Extenders
import Loxeme.Alphabet.Ignorable
import Loxeme.Alphabet.Invisible

/-!
# Quoted texts

A text from outside, a lexeme or a file name, is written between quotes in the log. A character that
could be taken for another one there, or for none, is escaped: quotes and backslashes, what cannot
be seen, and what is drawn upon the character before it.

* `escape`: a character as it is written between quotes.
* `quoted`: a text between quotes.
* `lineFeed_not_mem_quoted`: a quoted text never ends the line that it stands on.
-/

namespace Loxeme.Log

/-- The two halfwidth sound marks of the Japanese syllabary extend the character before them, but
have a cell of their own. -/
def isHalfwidthMark (c : Char) : Bool :=
  c == '\uff9e' || c == '\uff9f'

/-- Whether a character is drawn upon the character before it. -/
def isCombining (c : Char) : Bool :=
  Alphabet.covers Alphabet.extenders c.toNat && !isHalfwidthMark c

/-- Whether a character is drawn as nothing: by its category, or where it is not supported. -/
def isUnseen (c : Char) : Bool :=
  Alphabet.covers Alphabet.invisible c.toNat || Alphabet.covers Alphabet.ignorable c.toNat

/-- Whether a character can be seen by itself. -/
def isVisible (c : Char) : Bool :=
  ' ' ≤ c && (c ≤ '~' || !isUnseen c && !isCombining c)

/-- A character as it is written between quotes. What has no escape of its own is written as its
code point in hexadecimal digits. -/
def escape (c : Char) : List Char :=
  if c == '"' || c == '\\' then ['\\', c]
  else if c == '\n' then ['\\', 'n']
  else if c == '\r' then ['\\', 'r']
  else if c == '\t' then ['\\', 't']
  else if c == '\x00' then ['\\', '0']
  else if isVisible c then [c]
  else ['\\', 'u', '\x7b'] ++ Nat.toDigits 16 c.toNat ++ ['\x7d']

/-- A text between quotes, with its characters escaped. -/
def quoted (text : String) : String :=
  "\"" ++ String.ofList (text.toList.flatMap escape) ++ "\""

/-! ## No line feeds -/

theorem lineFeed_not_mem_hex (n : Nat) : '\n' ∉ Nat.toDigits 16 n := by
  have hdigit : ∀ d, d < 16 → '\n' ≠ Nat.digitChar d := by decide
  induction n using Nat.strongRecOn with
  | ind n ih =>
    by_cases h : n < 16
    · rw [Nat.toDigits_of_lt_base h, List.mem_singleton]
      exact hdigit n h
    · have hlow : n % 16 < 16 := Nat.mod_lt n (by decide)
      have hpos : 0 < n / 16 := by omega
      have hcut := Nat.toDigits_append_toDigits (b := 16) (by decide) hpos hlow
      rw [Nat.div_add_mod, Nat.toDigits_of_lt_base hlow] at hcut
      rw [← hcut, List.mem_append, List.mem_singleton]
      exact fun hm => hm.elim (ih _ (by omega)) (hdigit _ hlow)

theorem lineFeed_not_mem_escape (c : Char) : '\n' ∉ escape c := by
  by_cases hc : c = '\n'
  · subst hc; decide
  have hc : '\n' ≠ c := fun h => hc h.symm
  have hhex := lineFeed_not_mem_hex c.toNat
  simp only [escape]
  repeat' split
  all_goals simp [hc, hhex]

theorem lineFeed_not_mem_quoted (text : String) : '\n' ∉ (quoted text).toList := by
  simp only [quoted, String.toList_append, String.toList_ofList, List.mem_append, List.mem_flatMap]
  rintro ((h | ⟨c, -, h⟩) | h)
  · revert h; decide
  · exact lineFeed_not_mem_escape c h
  · revert h; decide

end Loxeme.Log
