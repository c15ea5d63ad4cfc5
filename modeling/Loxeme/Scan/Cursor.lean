import Loxeme.Scan.Basic
import Loxeme.Source.Position
import Loxeme.Source.Run

/-!
# Scanners and their cursor

A scanner reads its source from left to right. It knows by offsets where the lexeme that is read
starts and which character is next, and it counts the lines that it passes.

* `Scanner.advance`, `Scanner.takeIf`, `Scanner.advanceWhile`: the three ways to move.
* `Scanner.Reads`: what is before the lexeme, the lexeme and what is behind it.
* `Scanner.Reads.peek`, `Scanner.Reads.lexeme`, `Scanner.Reads.advanceWhile`: what is seen and
  where the moves end, as texts.
-/

namespace Loxeme

/-- A source, the place that is reached in it, and what was found. -/
structure Scanner where
  source : String
  /-- The offset of the first character of the lexeme. -/
  start : Nat
  /-- The offset of the next character. -/
  current : Nat
  /-- The line of the next character. -/
  line : Nat
  /-- The line of the first character of the lexeme. -/
  startLine : Nat
  /-- The tokens that are not handed out yet. -/
  found : Array Token
  /-- The errors of the last scan. -/
  faults : Array LexError
  /-- The log records that are not handed out yet. -/
  log : Array Log.Record
  deriving DecidableEq, Repr

namespace Scanner

/-- A scanner of a source that has not scanned yet. -/
def ofSource (source : String) : Scanner := ⟨source, 0, 0, 1, 1, #[], #[], #[]⟩

/-- Whether the whole source is read. -/
def isAtEnd (s : Scanner) : Bool :=
  s.source.utf8ByteSize ≤ s.current

/-- The next character, if there is one. -/
def peek (s : Scanner) : Option Char :=
  String.Pos.Raw.get? s.source ⟨s.current⟩

/-- The character behind the next one, if there is one. -/
def peekNext (s : Scanner) : Option Char :=
  s.peek.bind fun c => String.Pos.Raw.get? s.source ⟨s.current + c.utf8Size⟩

/-- The text between two offsets, if they are in order and both the edge of a character. -/
def slice? (s : Scanner) (low high : Nat) : Option String :=
  if low ≤ high && String.Pos.Raw.isValid s.source ⟨low⟩ &&
      String.Pos.Raw.isValid s.source ⟨high⟩ then
    some (String.Pos.Raw.extract s.source ⟨low⟩ ⟨high⟩)
  else none

/-- The lexeme that is read. -/
def lexeme (s : Scanner) : String :=
  (s.slice? s.start s.current).getD ""

/-- The cursor behind a character, which may end a line. -/
def pass (s : Scanner) (c : Char) : Scanner :=
  { s with
    current := s.current + c.utf8Size
    line := if c == '\n' then s.line + 1 else s.line }

/-- The next character is read, if there is one. -/
def advance (s : Scanner) : Option Char × Scanner :=
  match s.peek with
  | some c => (some c, s.pass c)
  | none => (none, s)

/-- The next character is read if it is the given one. No line is counted. -/
def takeIf (s : Scanner) (expected : Char) : Bool × Scanner :=
  if s.peek == some expected then
    (true, { s with current := s.current + expected.utf8Size })
  else (false, s)

/-- Characters are read for as long as they are of a class. -/
def advanceWhile (p : Char → Bool) (s : Scanner) : Scanner :=
  match _h : s.peek with
  | some c => if p c then (s.pass c).advanceWhile p else s
  | none => s
termination_by s.source.utf8ByteSize - s.current
decreasing_by
  have hlt : s.current < s.source.utf8ByteSize := lt_utf8ByteSize_of_get? _h
  have hpos := c.utf8Size_pos
  simp only [pass]
  omega

theorem advanceWhile_of_peek {p : Char → Bool} {s : Scanner} {c : Char} (h : s.peek = some c) :
    s.advanceWhile p = if p c then (s.pass c).advanceWhile p else s := by
  rw [advanceWhile]
  split
  · rename_i d hd
    cases h.symm.trans hd
    rfl
  · rename_i hnone
    cases h.symm.trans hnone

theorem advanceWhile_of_end {p : Char → Bool} {s : Scanner} (h : s.peek = none) :
    s.advanceWhile p = s := by
  rw [advanceWhile]
  split
  · rename_i d hd
    cases h.symm.trans hd
  · rfl

/-! ## The cursor in terms of texts -/

/-- The cursor behind a text. -/
def past (s : Scanner) (text : List Char) : Scanner :=
  { s with current := s.current + byteLength text, line := s.line + lineFeeds text }

@[simp] theorem past_nil (s : Scanner) : s.past [] = s := rfl

@[simp] theorem past_append (s : Scanner) (a b : List Char) :
    s.past (a ++ b) = (s.past a).past b := by
  simp [past, Nat.add_assoc]

theorem pass_eq_past (s : Scanner) (c : Char) : s.pass c = s.past [c] := by
  by_cases h : c = '\n' <;> simp [pass, past, lineFeeds, h]

/-- The source is cut in three: what is before the lexeme, the lexeme, and what is behind it. -/
structure Reads (s : Scanner) (before taken rest : List Char) : Prop where
  source_eq : s.source = String.ofList (before ++ taken ++ rest)
  start_eq : s.start = byteLength before
  current_eq : s.current = byteLength before + byteLength taken

namespace Reads

variable {s : Scanner} {before taken rest : List Char}

theorem peek (h : s.Reads before taken rest) : s.peek = rest.head? := by
  rw [Scanner.peek, h.source_eq, h.current_eq, ← byteLength_append, get?_byteLength]

/-- The lexeme grows by the text that is passed. -/
theorem past {text : List Char} (h : s.Reads before taken (text ++ rest)) :
    (s.past text).Reads before (taken ++ text) rest where
  source_eq := by simp [Scanner.past, h.source_eq]
  start_eq := h.start_eq
  current_eq := by simp [Scanner.past, h.current_eq, Nat.add_assoc]

theorem peekNext (h : s.Reads before taken rest) : s.peekNext = rest.tail.head? := by
  rw [Scanner.peekNext, h.peek]
  cases rest with
  | nil => rfl
  | cons c rest =>
    have hp : s.Reads before taken ([c] ++ rest) := h
    exact hp.past.peek

/-- A part of the lexeme, given by the offsets of its ends. -/
theorem slice? {a b c : List Char} (h : s.Reads before (a ++ b ++ c) rest) :
    s.slice? (s.start + byteLength a) (s.start + byteLength a + byteLength b) =
      some (String.ofList b) := by
  have hsource : s.source = String.ofList ((before ++ a) ++ b ++ (c ++ rest)) := by
    simp [h.source_eq]
  have hlow : String.Pos.Raw.isValid s.source ⟨byteLength (before ++ a)⟩ = true := by
    rw [hsource, List.append_assoc]
    exact isValid_byteLength _ _
  have hhigh : String.Pos.Raw.isValid s.source
      ⟨byteLength (before ++ a) + byteLength b⟩ = true := by
    rw [hsource, ← byteLength_append]
    exact isValid_byteLength _ _
  rw [h.start_eq, ← byteLength_append, Scanner.slice?, hlow, hhigh, hsource, extract_byteLength]
  simp

theorem lexeme (h : s.Reads before taken rest) : s.lexeme = String.ofList taken := by
  have hp : s.Reads before ([] ++ taken ++ []) rest := by simpa using h
  have hs := hp.slice?
  rw [byteLength_nil, Nat.add_zero, h.start_eq, ← h.current_eq, ← h.start_eq] at hs
  rw [Scanner.lexeme, hs]
  rfl

theorem advance {c : Char} (h : s.Reads before taken (c :: rest)) :
    s.advance = (some c, s.past [c]) := by
  rw [Scanner.advance, h.peek]
  exact congrArg (Prod.mk (some c)) (pass_eq_past s c)

/-- A move over a character that ends no line. -/
theorem takeIf {expected : Char} (h : s.Reads before taken rest) (hc : expected ≠ '\n') :
    s.takeIf expected =
      if rest.head? = some expected then (true, s.past [expected]) else (false, s) := by
  have hpast : s.past [expected] = { s with current := s.current + expected.utf8Size } := by
    simp [Scanner.past, lineFeeds, hc]
  rw [Scanner.takeIf, h.peek, hpast]
  by_cases he : rest.head? = some expected <;> simp [he]

theorem advanceWhile {p : Char → Bool} (h : s.Reads before taken rest) :
    s.advanceWhile p = s.past (rest.takeWhile p) := by
  induction rest generalizing s taken with
  | nil => exact advanceWhile_of_end h.peek
  | cons c rest ih =>
    have hone : s.Reads before taken ([c] ++ rest) := h
    rw [advanceWhile_of_peek h.peek]
    by_cases hc : p c
    · rw [if_pos hc, pass_eq_past, ih hone.past, List.takeWhile_cons_of_pos hc, ← past_append]
      rfl
    · rw [if_neg hc, List.takeWhile_cons_of_neg hc, past_nil]

/-- A whole run is passed if nothing of its class follows. -/
theorem advanceWhile_run {p : Char → Bool} {run : List Char}
    (h : s.Reads before taken (run ++ rest)) (hrun : ∀ c ∈ run, p c = true)
    (hstop : ∀ c ∈ rest.head?, p c = false) : s.advanceWhile p = s.past run := by
  rw [h.advanceWhile, takeWhile_run hrun hstop]

/-- The state behind a text at the start of a lexeme. -/
theorem past_of_eq {a text : List Char} (h : s.Reads before [] a) (ha : a = text ++ rest) :
    (s.past text).Reads before text rest := by
  subst ha
  simpa using h.past

end Reads

end Scanner

end Loxeme
