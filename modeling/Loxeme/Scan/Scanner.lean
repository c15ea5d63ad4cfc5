import Loxeme.Scan.Round

/-!
# Scanning

A scan reads lexemes until the source is at its end. It can be done any number of times; each one
starts over.

* `Scanner.rounds`: all the rounds of a scan.
* `Scanner.scan`: a scan, and the scanner behind it.
* `scan`, `tokenize`: the scan of a source by a new scanner, and its result.
-/

namespace Loxeme

namespace Scanner

/-- A new lexeme starts at the cursor. -/
def begin (s : Scanner) : Scanner :=
  { s with start := s.current, startLine := s.line }

/-- One round: the next lexeme is read. -/
def round (s : Scanner) : Scanner :=
  s.begin.readLexeme

/-- The cursor is between two texts that are the source. -/
structure At (s : Scanner) (before rest : List Char) : Prop where
  source_eq : s.source = String.ofList (before ++ rest)
  current_eq : s.current = byteLength before

/-- The cursor is at the edge of a character. -/
def Sound (s : Scanner) : Prop :=
  ∃ before rest, s.At before rest

namespace At

variable {s : Scanner} {before rest : List Char}

theorem reads_begin (h : s.At before rest) : s.begin.Reads before [] rest where
  source_eq := by rw [List.append_nil]; exact h.source_eq
  start_eq := h.current_eq
  current_eq := h.current_eq

theorem peek (h : s.At before rest) : s.peek = rest.head? :=
  h.reads_begin.peek

theorem peekNext (h : s.At before rest) : s.peekNext = rest.tail.head? :=
  h.reads_begin.peekNext

theorem isAtEnd_iff (h : s.At before rest) : s.isAtEnd = true ↔ rest = [] := by
  rw [isAtEnd, decide_eq_true_iff, h.source_eq, h.current_eq, utf8ByteSize_ofList,
    byteLength_append]
  cases rest with
  | nil => simp
  | cons c rest =>
    have := c.utf8Size_pos
    simp only [byteLength_cons, reduceCtorEq, iff_false]
    omega

/-- A round passes the segment at the front of what is left. -/
theorem round_eq {g : Segment} (h : s.At before (g.chars ++ rest)) (hg : g.Fits rest) :
    s.round = (s.begin.past g.chars).settle g :=
  h.reads_begin.readLexeme hg

theorem round {g : Segment} (h : s.At before (g.chars ++ rest)) (hg : g.Fits rest) :
    s.round.At (before ++ g.chars) rest := by
  rw [h.round_eq hg]
  constructor
  · rw [source_settle, List.append_assoc]
    exact h.source_eq
  · rw [current_settle, byteLength_append, ← h.current_eq]
    rfl

end At

/-- Where the source is not at its end, a segment is in front. -/
theorem Sound.exists_fits {s : Scanner} (h : s.Sound) (hend : ¬s.isAtEnd = true) :
    ∃ before g rest, s.At before (Segment.chars g ++ rest) ∧ g.Fits rest := by
  obtain ⟨before, rest, hat⟩ := h
  have hne : rest ≠ [] := fun he => hend (hat.isAtEnd_iff.mpr he)
  obtain ⟨c, text, rfl⟩ := List.exists_cons_of_ne_nil hne
  exact ⟨before, _, _, (Segment.chars_append_next c text).symm ▸ hat, Segment.fits_next c text⟩

theorem Sound.round {s : Scanner} (h : s.Sound) (hend : ¬s.isAtEnd = true) : s.round.Sound := by
  obtain ⟨before, g, rest, hat, hg⟩ := h.exists_fits hend
  exact ⟨_, _, hat.round hg⟩

/-- A round leaves less of the source. -/
theorem Sound.round_lt {s : Scanner} (h : s.Sound) (hend : ¬s.isAtEnd = true) :
    s.round.source.utf8ByteSize - s.round.current < s.source.utf8ByteSize - s.current := by
  obtain ⟨before, g, rest, hat, hg⟩ := h.exists_fits hend
  have hat' := hat.round hg
  obtain ⟨c, tail, hc⟩ := List.exists_cons_of_ne_nil (Segment.chars_ne_nil_of_fits hg)
  have hpos := c.utf8Size_pos
  rw [hat.source_eq, hat'.source_eq, hat.current_eq, hat'.current_eq, utf8ByteSize_ofList,
    utf8ByteSize_ofList, hc]
  simp only [byteLength_append, byteLength_cons]
  omega

/-- Rounds until the source is at its end. -/
def rounds (s : Scanner) (h : s.Sound) : Scanner :=
  if hend : s.isAtEnd then s else s.round.rounds (h.round hend)
termination_by s.source.utf8ByteSize - s.current
decreasing_by exact h.round_lt hend

/-- The cursor is put before the first character again, and the errors of the last scan are
forgotten. -/
def restart (s : Scanner) : Scanner :=
  { s with start := 0, current := 0, line := 1, faults := #[] }

theorem at_restart (s : Scanner) : s.restart.At [] s.source.toList where
  source_eq := String.ofList_toList.symm
  current_eq := rfl

theorem sound_restart (s : Scanner) : s.restart.Sound :=
  ⟨_, _, s.at_restart⟩

/-- The token for the end of the source, and a summary in the log. -/
def finish (s : Scanner) : Scanner :=
  let s := { s with found := s.found.push (.eof s.line) }
  { s with log := s.log.push (.finished s.found.size s.faults.size s.line) }

/-- A scan, and the scanner behind it, which keeps the errors. -/
def scan (s : Scanner) : Scan × Scanner :=
  let s := (s.restart.rounds s.sound_restart).finish
  (⟨s.found.toList, s.faults.toList, s.log.toList⟩, { s with found := #[], log := #[] })

/-- The errors of the last scan. -/
def errors (s : Scanner) : List LexError :=
  s.faults.toList

/-- Whether the last scan met an error. -/
def hadError (s : Scanner) : Bool :=
  !s.errors.isEmpty

/-- The errors of the last scan of a scanner that is given up for them. -/
def intoErrors (s : Scanner) : List LexError :=
  s.faults.toList

end Scanner

/-- The scan of a source by a new scanner. -/
def scan (source : String) : Scan :=
  (Scanner.ofSource source).scan.1

/-- The tokens of a source, or all of its errors if there are any. -/
def tokenize (source : String) : Except (List LexError) (List Token) :=
  (scan source).result

end Loxeme
