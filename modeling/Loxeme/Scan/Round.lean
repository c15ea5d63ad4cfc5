import Loxeme.Scan.Cursor
import Loxeme.Scan.Finding
import Loxeme.Source.Grammar

/-!
# One round of a scan

A round reads one lexeme, which starts where the cursor is, and finds a token in it, an error or
nothing.

* `Scanner.readLexeme`: what the first character of a lexeme starts, and the reading of it.
* `Scanner.Reads.readLexeme`: a round passes the longest segment at the front of what is left, and
  its finding is the meaning of this piece.
-/

namespace Loxeme

namespace Scanner

/-! ## What is found -/

/-- A token is found. -/
def emit (s : Scanner) (t : Token) : Scanner :=
  { s with found := s.found.push t, log := s.log.push (.token t.kind t.lexeme t.line) }

/-- The lexeme is a token without a value. -/
def emitPlain (s : Scanner) (kind : Kind) : Scanner :=
  s.emit (.plain kind s.lexeme s.startLine)

/-- The lexeme is a token with a value. -/
def emitLiteral (s : Scanner) (kind : Kind) (value : Literal) : Scanner :=
  s.emit ((Token.plain kind s.lexeme s.startLine).withLiteral value)

/-- An error is found. -/
def report (s : Scanner) (e : LexError) : Scanner :=
  { s with faults := s.faults.push e, log := s.log.push (.lexError e) }

/-! ## Reading a lexeme whose first character is read -/

/-- A string: up to the next quote. Both of its quotes take one byte. -/
def readString (s : Scanner) : Scanner :=
  match (s.advanceWhile (· != '"')).takeIf '"' with
  | (true, s) =>
    s.emitLiteral .string (.text ((s.slice? (s.start + 1) (s.current - 1)).getD ""))
  | (false, s) => s.report (.unterminatedString s.line)

/-- The fraction of a number, if a point and a digit come next. -/
def readFraction (s : Scanner) : Scanner :=
  if s.peekNext.any isDigit then
    match s.takeIf '.' with
    | (true, s) => s.advanceWhile isDigit
    | (false, s) => s
  else s

/-- A number: its digits, and its fraction if there is one. -/
def readNumber (s : Scanner) : Scanner :=
  let s := (s.advanceWhile isDigit).readFraction
  match Decimal.read? s.lexeme.toList with
  | some d => s.emitLiteral .number (.number (Binary64.ofDecimal d))
  | none =>
    { s with log := s.log.push (.noValue s.lexeme) }.report (.invalidNumber s.lexeme s.line)

/-- A word: a keyword or a name. -/
def readWord (s : Scanner) : Scanner :=
  let s := s.advanceWhile isWordPart
  s.emitPlain (Kind.ofWord s.lexeme.toList)

/-- A character that is a symbol on its own, or starts nothing. -/
def readSingle (s : Scanner) (c : Char) : Scanner :=
  match Symbol.single? c with
  | some symbol => s.emitPlain (.symbol symbol)
  | none => s.report (.unexpectedCharacter c s.line)

/-- A comment, up to the end of the line, or the symbol that its first character is alone. -/
def readSlash (s : Scanner) : Scanner :=
  match s.takeIf '/' with
  | (true, s) => s.advanceWhile (· != '\n')
  | (false, s) => s.emitPlain (.symbol .slash)

/-- A comment, a symbol of one or two characters, or nothing. -/
def readMark (s : Scanner) (c : Char) : Scanner :=
  if c == '/' then s.readSlash
  else
    match Symbol.withEqual? c with
    | some symbol =>
      match s.takeIf '=' with
      | (true, s) => s.emitPlain (.symbol symbol)
      | (false, s) => s.readSingle c
    | none => s.readSingle c

/-- One lexeme is read. -/
def readLexeme (s : Scanner) : Scanner :=
  match s.advance with
  | (none, s) => s
  | (some c, s) =>
    if isBlank c then s
    else if c == '"' then s.readString
    else if isDigit c then s.readNumber
    else if isLetter c then s.readWord
    else s.readMark c

/-! ## A round in terms of segments -/

/-- What a piece means is added to what was found. -/
def note (s : Scanner) : Option Finding → Scanner
  | some (.token t) => s.emit t
  | some (.error e) => s.report e
  | none => s

/-- The lexeme is noted as a segment. -/
def settle (s : Scanner) (g : Segment) : Scanner :=
  s.note (Piece.finding? ⟨g, ⟨s.start, s.startLine⟩, ⟨s.current, s.line⟩⟩)

namespace Reads

variable {s : Scanner} {before taken rest : List Char}

theorem emitPlain (h : s.Reads before taken rest) (kind : Kind) :
    s.emitPlain kind = s.emit (.plain kind (String.ofList taken) s.startLine) := by
  rw [Scanner.emitPlain, h.lexeme]

theorem emitLiteral (h : s.Reads before taken rest) (kind : Kind) (value : Literal) :
    s.emitLiteral kind value =
      s.emit ((Token.plain kind (String.ofList taken) s.startLine).withLiteral value) := by
  rw [Scanner.emitLiteral, h.lexeme]

theorem readString_quoted {body : List Char}
    (h : s.Reads before [] ((Segment.quoted body).chars ++ rest)) (hbody : '"' ∉ body) :
    (s.past ['"']).readString =
      (s.past (Segment.quoted body).chars).settle (.quoted body) := by
  have hopen : (s.past ['"']).Reads before ['"'] (body ++ '"' :: rest) :=
    h.past_of_eq (by simp [Segment.chars])
  have hread : (s.past ['"']).advanceWhile (· != '"') = s.past ('"' :: body) := by
    rw [hopen.advanceWhile_run (bne_of_not_mem hbody) (by simp), ← past_append,
      List.singleton_append]
  have hmid : (s.past ('"' :: body)).Reads before ('"' :: body) ('"' :: rest) :=
    h.past_of_eq (by simp [Segment.chars])
  have hpast : (s.past ('"' :: body)).past ['"'] = s.past (Segment.quoted body).chars := by
    rw [← past_append]
    rfl
  have hend : (s.past (Segment.quoted body).chars).Reads before (Segment.quoted body).chars rest :=
    h.past_of_eq rfl
  -- The value ends one byte before the cursor, where the second quote starts.
  have hquote : byteLength ['"'] = 1 := rfl
  have hlast : (s.past (Segment.quoted body).chars).current - 1 =
      (s.past (Segment.quoted body).chars).start + byteLength ['"'] + byteLength body := by
    rw [hend.current_eq, hend.start_eq]
    simp only [Segment.chars, byteLength_append, byteLength_cons, byteLength_nil] at hquote ⊢
    omega
  have hvalue := hend.slice? (a := ['"']) (b := body) (c := ['"'])
  rw [← hlast, hquote] at hvalue
  rw [Scanner.readString, hread, hmid.takeIf (by decide), List.head?_cons, if_pos rfl, hpast]
  simp only [hvalue, hend.emitLiteral]
  rfl

theorem readString_unclosed {body : List Char}
    (h : s.Reads before [] (Segment.unclosed body).chars) (hbody : '"' ∉ body) :
    (s.past ['"']).readString =
      (s.past (Segment.unclosed body).chars).settle (.unclosed body) := by
  have hopen : (s.past ['"']).Reads before ['"'] (body ++ []) :=
    h.past_of_eq (by simp [Segment.chars])
  have hread : (s.past ['"']).advanceWhile (· != '"') = s.past (Segment.unclosed body).chars := by
    rw [hopen.advanceWhile_run (bne_of_not_mem hbody) (by simp), ← past_append]
    rfl
  have hend : (s.past (Segment.unclosed body).chars).Reads before
      (Segment.unclosed body).chars [] :=
    h.past_of_eq (by simp)
  rw [Scanner.readString, hread, hend.takeIf (by decide)]
  rfl

/-- No fraction is read where none follows. -/
theorem readFraction_of_not (h : s.Reads before taken rest) (hpoint : ¬FractionFollows rest) :
    s.readFraction = s := by
  rw [Scanner.readFraction, h.peekNext]
  split
  · rename_i hdigit
    cases rest with
    | nil => cases hdigit
    | cons c rest =>
      cases rest with
      | nil => cases hdigit
      | cons d tail =>
        have hc : c ≠ '.' := by
          rintro rfl
          exact hpoint ⟨d, tail, rfl, hdigit⟩
        rw [h.takeIf (by decide), if_neg (by simpa using hc)]
  · rfl

theorem readFraction_digits {fraction : List Char}
    (h : s.Reads before taken ('.' :: fraction ++ rest)) (hfraction : IsDigits fraction)
    (hstop : ∀ c ∈ rest.head?, isDigit c = false) :
    s.readFraction = s.past ('.' :: fraction) := by
  obtain ⟨hne, hdigits⟩ := hfraction
  obtain ⟨d, tail, rfl⟩ := List.exists_cons_of_ne_nil hne
  have hnext : s.peekNext.any isDigit = true := by
    rw [h.peekNext]
    exact hdigits d (.head _)
  have hsplit : s.Reads before taken (['.'] ++ (d :: tail ++ rest)) := h
  have hhead : ('.' :: d :: tail ++ rest).head? = some '.' := rfl
  have hpoint := hsplit.past
  rw [Scanner.readFraction, if_pos hnext, h.takeIf (by decide), if_pos hhead]
  simp only
  rw [hpoint.advanceWhile_run hdigits hstop, ← past_append]
  rfl

/-- What becomes of a number whose digits and fraction are read. -/
private theorem readNumber_of_read {t : Scanner} {whole : List Char}
    {fraction : Option (List Char)} {d : Decimal}
    (hread : (t.advanceWhile isDigit).readFraction = s)
    (h : s.Reads before (Segment.number whole fraction).chars rest)
    (hd : Decimal.read? (Segment.number whole fraction).chars = some d) :
    t.readNumber = s.settle (.number whole fraction) := by
  unfold Scanner.readNumber
  simp only [hread, h.lexeme, String.toList_ofList, hd, h.emitLiteral]
  unfold settle Piece.finding?
  simp only [hd]
  rfl

theorem readNumber_whole {c : Char} {run : List Char}
    (h : s.Reads before [] ((Segment.number (c :: run) none).chars ++ rest))
    (hfits : (Segment.number (c :: run) none).Fits rest) :
    (s.past [c]).readNumber =
      (s.past (Segment.number (c :: run) none).chars).settle (.number (c :: run) none) := by
  obtain ⟨⟨hne, hdigits⟩, hstop, hpoint⟩ := hfits
  have hfirst : (s.past [c]).Reads before [c] (run ++ rest) := h.past_of_eq rfl
  have hend := h.past_of_eq rfl
  have hread : ((s.past [c]).advanceWhile isDigit).readFraction = s.past (c :: run) := by
    rw [hfirst.advanceWhile_run (fun d hd => hdigits d (.tail _ hd)) hstop, ← past_append,
      List.singleton_append]
    exact hend.readFraction_of_not hpoint
  exact readNumber_of_read hread hend (Decimal.read?_whole hne hdigits)

theorem readNumber_fraction {c : Char} {run fraction : List Char}
    (h : s.Reads before [] ((Segment.number (c :: run) (some fraction)).chars ++ rest))
    (hfits : (Segment.number (c :: run) (some fraction)).Fits rest) :
    (s.past [c]).readNumber =
      (s.past (Segment.number (c :: run) (some fraction)).chars).settle
        (.number (c :: run) (some fraction)) := by
  obtain ⟨⟨hne, hdigits⟩, hfraction, hstop⟩ := hfits
  have hfirst : (s.past [c]).Reads before [c] (run ++ ('.' :: fraction ++ rest)) :=
    h.past_of_eq (by simp [Segment.chars])
  have hwhole : (s.past (c :: run)).Reads before (c :: run) ('.' :: fraction ++ rest) :=
    h.past_of_eq (by simp [Segment.chars])
  have hread : ((s.past [c]).advanceWhile isDigit).readFraction =
      s.past (c :: run ++ '.' :: fraction) := by
    rw [hfirst.advanceWhile_run (fun d hd => hdigits d (.tail _ hd)) (by rintro d ⟨⟩; decide),
      ← past_append, List.singleton_append, hwhole.readFraction_digits hfraction hstop,
      ← past_append]
  exact readNumber_of_read hread (h.past_of_eq rfl)
    (Decimal.read?_fraction hne hdigits hfraction.1 hfraction.2)

theorem readWord_run {c : Char} {run : List Char} (h : s.Reads before [] (c :: run ++ rest))
    (hrun : ∀ d ∈ run, isWordPart d = true) (hstop : ∀ d ∈ rest.head?, isWordPart d = false) :
    (s.past [c]).readWord = (s.past (c :: run)).settle (.word (c :: run)) := by
  have hfirst : (s.past [c]).Reads before [c] (run ++ rest) := h.past_of_eq rfl
  have hend : (s.past (c :: run)).Reads before (c :: run) rest := h.past_of_eq rfl
  have hread : (s.past [c]).advanceWhile isWordPart = s.past (c :: run) := by
    rw [hfirst.advanceWhile_run hrun hstop, ← past_append]
    rfl
  rw [Scanner.readWord, hread]
  simp only [hend.lexeme, String.toList_ofList, hend.emitPlain]
  rfl

theorem readSlash_comment {body : List Char}
    (h : s.Reads before [] ((Segment.comment body).chars ++ rest)) (hbody : '\n' ∉ body)
    (hstop : ∀ c ∈ rest.head?, c = '\n') :
    (s.past ['/']).readSlash = s.past (Segment.comment body).chars := by
  have hfirst : (s.past ['/']).Reads before ['/'] ('/' :: (body ++ rest)) :=
    h.past_of_eq (by simp [Segment.chars])
  have hboth : (s.past ['/', '/']).Reads before ['/', '/'] (body ++ rest) :=
    h.past_of_eq (by simp [Segment.chars])
  have hpast : (s.past ['/']).past ['/'] = s.past ['/', '/'] := by
    rw [← past_append, List.singleton_append]
  rw [Scanner.readSlash, hfirst.takeIf (by decide), List.head?_cons, if_pos rfl, hpast]
  simp only
  rw [hboth.advanceWhile_run (bne_of_not_mem hbody)
    (fun c hc => bne_eq_false_iff_eq.mpr (hstop c hc)), ← past_append]
  rfl

/-- A symbol of one character. -/
theorem readSingle_symbol {symbol : Symbol} {c : Char} (h : s.Reads before [c] rest)
    (hc : Symbol.single? c = some symbol) : s.readSingle c = s.settle (.symbol symbol) := by
  rw [Scanner.readSingle, hc]
  simp only
  rw [h.emitPlain, ← Symbol.chars_of_single? hc]
  rfl

/-- A symbol of two characters. -/
theorem readMark_withEqual {symbol : Symbol} {c : Char} (h : s.Reads before [c] ('=' :: rest))
    (hne : c ≠ '/') (hc : Symbol.withEqual? c = some symbol) :
    s.readMark c = (s.past ['=']).settle (.symbol symbol) := by
  have hboth : (s.past ['=']).Reads before ([c] ++ ['=']) rest := h.past
  rw [Scanner.readMark, if_neg (by simpa using hne), hc]
  simp only
  rw [h.takeIf (by decide), List.head?_cons, if_pos rfl]
  simp only
  rw [hboth.emitPlain, List.singleton_append, ← Symbol.chars_of_withEqual? hc]
  rfl

/-- A character that is read alone: it starts no comment and no symbol of two characters. -/
theorem readMark_single {c : Char} (h : s.Reads before [c] rest) (hne : c ≠ '/')
    (hequal : rest.head? ≠ some '=' ∨ Symbol.withEqual? c = none) :
    s.readMark c = s.readSingle c := by
  rw [Scanner.readMark, if_neg (by simpa using hne)]
  cases hc : Symbol.withEqual? c with
  | none => rfl
  | some symbol =>
    have hhead : rest.head? ≠ some '=' := hequal.resolve_right (by simp [hc])
    simp only
    rw [h.takeIf (by decide), if_neg hhead]

theorem readMark_symbol {symbol : Symbol} {c : Char} {text : List Char}
    (h : s.Reads before [] (symbol.chars ++ rest)) (hends : symbol.Ends rest)
    (ht : symbol.chars ++ rest = c :: text) :
    (s.past [c]).readMark c = (s.past symbol.chars).settle (.symbol symbol) := by
  have hfirst : (s.past [c]).Reads before [c] text := h.past_of_eq ht
  cases symbol with
  | bangEqual | equalEqual | lessEqual | greaterEqual =>
    cases ht
    exact hfirst.readMark_withEqual (by decide) rfl
  -- These might have been longer. That no `=` follows is what `Ends` says of them.
  | bang | equal | less | greater =>
    cases ht
    rw [hfirst.readMark_single (by decide) (.inl hends)]
    exact hfirst.readSingle_symbol rfl
  | slash =>
    cases ht
    have hslash : (s.past ['/']).Reads before ['/'] rest := hfirst
    rw [Scanner.readMark, if_pos (beq_self_eq_true '/'), Scanner.readSlash,
      hslash.takeIf (by decide), if_neg hends]
    simp only
    rw [hslash.emitPlain]
    rfl
  | _ =>
    cases ht
    rw [hfirst.readMark_single (by decide) (.inr rfl)]
    exact hfirst.readSingle_symbol rfl

theorem readMark_stray {c : Char} (h : s.Reads before [c] rest) (hc : ¬StartsSegment c) :
    s.readMark c = s.settle (.stray c) := by
  have hne : c ≠ '/' := by
    rintro rfl
    exact hc (.inr (.inr (.inr (.inr ⟨.slash, rfl⟩))))
  rw [h.readMark_single hne (.inr (withEqual?_of_not_startsSegment hc)), Scanner.readSingle,
    single?_of_not_startsSegment hc]
  rfl

/-! ## A whole round -/

/-- The first character of a lexeme decides how it is read. -/
theorem readLexeme_cons {c : Char} (h : s.Reads before [] (c :: rest)) :
    s.readLexeme =
      if isBlank c then s.past [c]
      else if c == '"' then (s.past [c]).readString
      else if isDigit c then (s.past [c]).readNumber
      else if isLetter c then (s.past [c]).readWord
      else (s.past [c]).readMark c := by
  rw [Scanner.readLexeme, h.advance]

/-- A round passes the segment at the front of what is left, and finds what it means. -/
theorem readLexeme {g : Segment} (h : s.Reads before [] (g.chars ++ rest)) (hg : g.Fits rest) :
    s.readLexeme = (s.past g.chars).settle g := by
  cases g with
  | blank c =>
    have hc : isBlank c = true := hg
    rw [readLexeme_cons (c := c) h, if_pos hc]
    rfl
  | comment body =>
    rw [readLexeme_cons (c := '/') h]
    exact h.readSlash_comment hg.1 hg.2
  | symbol symbol =>
    obtain ⟨c, tail, hchars⟩ := List.exists_cons_of_ne_nil symbol.chars_ne_nil
    obtain ⟨hb, hq, hd, hl⟩ := Symbol.of_head? (s := symbol) (c := c) (by rw [hchars]; rfl)
    have ht : symbol.chars ++ rest = c :: (tail ++ rest) := by rw [hchars]; rfl
    have hcons : s.Reads before [] (c :: (tail ++ rest)) := ht ▸ h
    rw [hcons.readLexeme_cons]
    simp only [hb, beq_false_of_ne hq, hd, hl, Bool.false_eq_true, if_false]
    exact h.readMark_symbol hg ht
  | quoted body =>
    rw [readLexeme_cons (c := '"') h]
    exact h.readString_quoted hg
  | number whole fraction =>
    -- With a fraction or without one, a number starts with a digit.
    have hwhole : IsDigits whole := by
      cases fraction with
      | none => exact hg.1
      | some fraction => exact hg.1
    obtain ⟨c, run, rfl⟩ := List.exists_cons_of_ne_nil hwhole.1
    have hc : isDigit c = true := hwhole.2 c (.head _)
    cases fraction with
    | none =>
      rw [readLexeme_cons (c := c) h]
      simp only [isBlank_eq_false_of_isDigit hc, beq_false_of_ne (ne_quote_of_isDigit hc), hc,
        Bool.false_eq_true, if_false, if_true]
      exact h.readNumber_whole hg
    | some fraction =>
      rw [readLexeme_cons (c := c) h]
      simp only [isBlank_eq_false_of_isDigit hc, beq_false_of_ne (ne_quote_of_isDigit hc), hc,
        Bool.false_eq_true, if_false, if_true]
      exact h.readNumber_fraction hg
  | word spelling =>
    obtain ⟨⟨c, run, rfl, hc, hrun⟩, hstop⟩ := hg
    rw [readLexeme_cons (c := c) h]
    simp only [isBlank_eq_false_of_isLetter hc, beq_false_of_ne (ne_quote_of_isLetter hc),
      isDigit_eq_false_of_isLetter hc, hc, Bool.false_eq_true, if_false, if_true]
    exact h.readWord_run hrun hstop
  | stray c =>
    have hc : ¬StartsSegment c := hg
    have hfirst : (s.past [c]).Reads before [c] rest := h.past_of_eq rfl
    have hmark := hfirst.readMark_stray hc
    simp only [StartsSegment, not_or] at hc
    rw [readLexeme_cons (c := c) h]
    simpa [hc, Segment.chars] using hmark
  | unclosed body =>
    obtain ⟨hbody, rfl⟩ := hg
    rw [List.append_nil] at h
    rw [readLexeme_cons (c := '"') h]
    exact h.readString_unclosed hbody

end Reads

/-! ## What a round leaves as it is -/

section Settle

variable (s : Scanner) (f : Option Finding) (g : Segment)

@[simp] theorem source_note : (s.note f).source = s.source := by
  rcases f with _ | _ | _ <;> rfl

@[simp] theorem current_note : (s.note f).current = s.current := by
  rcases f with _ | _ | _ <;> rfl

@[simp] theorem line_note : (s.note f).line = s.line := by
  rcases f with _ | _ | _ <;> rfl

@[simp] theorem source_settle : (s.settle g).source = s.source := source_note s _

@[simp] theorem current_settle : (s.settle g).current = s.current := current_note s _

@[simp] theorem line_settle : (s.settle g).line = s.line := line_note s _

end Settle

end Scanner

end Loxeme
