import Loxeme.Proofs.Lexemes

/-!
# Scanning one character at a time

A machine without any look-ahead that reads a source character by character. It cannot tell tokens
apart, but it knows what is code, what is a string and what is a comment, and it keeps the text of
all tokens. The scan finds the same text and the same errors.

* `Machine.step`: what one character changes.
* `Machine.drain`: a text is read up to its end.
* `Machine.drain_segment`: the segment at the front of a text is kept if it is a token, and dropped
  otherwise, and the machine is in code behind it.
* `Machine.drain_eq`: the machine keeps the lexemes of a text and records its errors.
* `scan_agrees_with_machine`: the lexemes and the errors of a scan are those of the machine.
-/

namespace Loxeme

/-- Whether a character can occur in a token that is no string. -/
def occursInToken (c : Char) : Bool :=
  isLetter c || isDigit c || Symbol.all.any (·.chars.contains c)

/-- What the next character is read as. -/
inductive Mode
  | code
  /-- A slash was just seen, which is kept unless another one follows. -/
  | slash
  | comment
  /-- The text of a string so far, with its opening quote. -/
  | string (buffer : List Char)
  deriving DecidableEq, Repr

/-- A machine that reads a source one character at a time. -/
structure Machine where
  mode : Mode
  /-- The line of the next character. -/
  line : Nat
  /-- The text of the tokens so far. -/
  kept : List Char
  errors : List LexError
  deriving DecidableEq, Repr

namespace Machine

/-- The machine in front of a source. -/
def start : Machine := ⟨.code, 1, [], []⟩

/-- The slash that was just seen starts no comment. -/
def keepSlash (m : Machine) : Machine :=
  { m with mode := .code, kept := m.kept ++ ['/'] }

/-- A character is read in code. -/
def readCode (m : Machine) (c : Char) : Machine :=
  if isBlank c then m
  else if c == '/' then { m with mode := .slash }
  else if c == '"' then { m with mode := .string ['"'] }
  else if occursInToken c then { m with kept := m.kept ++ [c] }
  else { m with errors := m.errors ++ [.unexpectedCharacter c m.line] }

/-- A character is read. A comment lasts until before the end of its line. -/
def read (m : Machine) (c : Char) : Machine :=
  match m.mode with
  | .code => m.readCode c
  | .slash => if c == '/' then { m with mode := .comment } else m.keepSlash.readCode c
  | .comment => if c == '\n' then { m with mode := .code }.readCode c else m
  | .string buffer =>
    if c == '"' then { m with mode := .code, kept := m.kept ++ (buffer ++ [c]) }
    else { m with mode := .string (buffer ++ [c]) }

/-- A line feed counts as a line in each mode. -/
def countLine (m : Machine) (c : Char) : Machine :=
  if c == '\n' then { m with line := m.line + 1 } else m

/-- A character is read, and the lines are counted. -/
def step (m : Machine) (c : Char) : Machine :=
  (m.read c).countLine c

/-- The source is at its end. -/
def finish (m : Machine) : Machine :=
  match m.mode with
  | .code | .comment => { m with mode := .code }
  | .slash => m.keepSlash
  | .string _ => { m with mode := .code, errors := m.errors ++ [.unterminatedString m.line] }

/-- A text is read up to its end. -/
def drain (m : Machine) (text : List Char) : Machine :=
  (text.foldl step m).finish

/-- A whole source is read. -/
def run (source : String) : Machine :=
  start.drain source.toList

/-! ## Runs of characters -/

variable {m : Machine} {text rest : List Char}

theorem drain_append (m : Machine) (a b : List Char) :
    m.drain (a ++ b) = (a.foldl step m).drain b := by
  rw [drain, List.foldl_append]
  rfl

theorem countLine_eq (m : Machine) (c : Char) :
    m.countLine c = { m with line := m.line + lineFeeds [c] } := by
  by_cases h : c = '\n' <;> simp [countLine, lineFeeds, h]

theorem countLine_of_ne {c : Char} (h : c ≠ '\n') (m : Machine) : m.countLine c = m := by
  simp [countLine, h]

/-- A slash is kept where no other one follows. -/
theorem drain_slash (hm : m.mode = .slash) (h : text.head? ≠ some '/') :
    m.drain text = m.keepSlash.drain text := by
  cases text with
  | nil => simp [drain, finish, hm, keepSlash]
  | cons c text =>
    have hc : c ≠ '/' := by simpa using h
    have hstep : m.step c = m.keepSlash.step c := by
      simp [step, read, hm, hc, keepSlash]
    rw [drain, drain, List.foldl_cons, List.foldl_cons, hstep]

/-- A comment ends where the text or its line does. -/
theorem drain_comment (hm : m.mode = .comment) (h : ∀ c ∈ text.head?, c = '\n') :
    m.drain text = drain { m with mode := .code } text := by
  cases text with
  | nil => simp [drain, finish, hm]
  | cons c text =>
    obtain rfl := h c rfl
    have hstep : m.step '\n' = step { m with mode := .code } '\n' := by
      simp [step, read, hm]
    rw [drain, drain, List.foldl_cons, List.foldl_cons, hstep]

/-- A character that is kept by itself. -/
def IsPlain (c : Char) : Prop :=
  isBlank c = false ∧ c ≠ '/' ∧ c ≠ '"' ∧ occursInToken c = true

theorem foldl_plain (hm : m.mode = .code) (h : ∀ c ∈ text, IsPlain c) :
    text.foldl step m = { m with kept := m.kept ++ text } := by
  induction text generalizing m with
  | nil => simp
  | cons c text ih =>
    obtain ⟨hblank, hslash, hquote, hoccurs⟩ := h c (.head _)
    have hline : c ≠ '\n' := by
      rintro rfl
      cases hblank
    have hstep : m.step c = { m with kept := m.kept ++ [c] } := by
      simp [step, read, hm, readCode, hblank, hslash, hquote, hoccurs, countLine_of_ne hline]
    have hrest := @ih { m with kept := m.kept ++ [c] } hm fun d hd => h d (.tail _ hd)
    rw [List.foldl_cons, hstep, hrest, List.append_assoc, List.singleton_append]

/-- The text of a comment is dropped. -/
theorem foldl_comment (hm : m.mode = .comment) (h : '\n' ∉ text) : text.foldl step m = m := by
  induction text with
  | nil => rfl
  | cons c text ih =>
    obtain ⟨hc, htext⟩ := not_or.mp (mt List.mem_cons.mpr h)
    have hstep : m.step c = m := by
      simp [step, read, hm, Ne.symm hc, countLine_of_ne (Ne.symm hc)]
    rw [List.foldl_cons, hstep, ih htext]

/-- The text of a string waits for the quote that ends it. -/
theorem foldl_string {buffer : List Char} (hm : m.mode = .string buffer) (h : '"' ∉ text) :
    text.foldl step m =
      { m with mode := .string (buffer ++ text), line := m.line + lineFeeds text } := by
  induction text generalizing m buffer with
  | nil => simp [← hm]
  | cons c text ih =>
    obtain ⟨hc, htext⟩ := not_or.mp (mt List.mem_cons.mpr h)
    have hstep : m.step c =
        { m with mode := .string (buffer ++ [c]), line := m.line + lineFeeds [c] } := by
      simp [step, read, hm, Ne.symm hc, countLine_eq]
    rw [List.foldl_cons, hstep, ih rfl htext, ← List.singleton_append (l := text), lineFeeds_append]
    simp [Nat.add_assoc]

/-! ## Characters that are kept by themselves -/

theorem occursInToken_iff {c : Char} :
    occursInToken c = true ↔ isLetter c = true ∨ isDigit c = true ∨ ∃ s : Symbol, c ∈ s.chars := by
  simp [occursInToken, Symbol.mem_all, or_assoc]

/-- Each character of a symbol is the first one of a symbol. -/
theorem exists_head?_of_mem_chars {s : Symbol} {c : Char} (h : c ∈ s.chars) :
    ∃ t : Symbol, t.chars.head? = some c := by
  have hall : (s.chars.all fun d => Symbol.all.any (·.chars.head? == some d)) = true := by
    cases s <;> decide
  obtain ⟨t, -, ht⟩ := List.any_eq_true.mp (List.all_eq_true.mp hall c h)
  exact ⟨t, eq_of_beq ht⟩

theorem isPlain_of_isLetter {c : Char} (h : isLetter c = true) : IsPlain c := by
  refine ⟨isBlank_eq_false_of_isLetter h, ?_, ne_quote_of_isLetter h, ?_⟩
  · rintro rfl
    exact absurd h (by rw [isLetter_of_lt (by decide)]; decide)
  · exact occursInToken_iff.mpr (.inl h)

theorem isPlain_of_isDigit {c : Char} (h : isDigit c = true) : IsPlain c := by
  refine ⟨isBlank_eq_false_of_isDigit h, ?_, ne_quote_of_isDigit h, ?_⟩
  · rintro rfl
    exact absurd h (by decide)
  · exact occursInToken_iff.mpr (.inr (.inl h))

theorem isPlain_of_mem_symbol {s : Symbol} {c : Char} (h : c ∈ s.chars) (hc : c ≠ '/') :
    IsPlain c := by
  obtain ⟨t, ht⟩ := exists_head?_of_mem_chars h
  obtain ⟨hblank, hquote, -, -⟩ := Symbol.of_head? ht
  exact ⟨hblank, hc, hquote, occursInToken_iff.mpr (.inr (.inr ⟨s, h⟩))⟩

/-- A character that starts no segment occurs in no token. -/
theorem occursInToken_of_not_startsSegment {c : Char} (h : ¬StartsSegment c) :
    occursInToken c = false := by
  rw [Bool.eq_false_iff]
  intro hoccurs
  rcases occursInToken_iff.mp hoccurs with hletter | hdigit | ⟨s, hs⟩
  · exact h (.inr (.inr (.inr (.inl hletter))))
  · exact h (.inr (.inr (.inl hdigit)))
  · exact h (.inr (.inr (.inr (.inr (exists_head?_of_mem_chars hs)))))

/-! ## Segments -/

/-- The machine behind a text, in code, with what was found in it. -/
def behind (m : Machine) (text : List Char) (findings : List Finding) : Machine where
  mode := .code
  line := m.line + lineFeeds text
  kept := m.kept ++ (findings.filterMap Finding.token?).flatMap (·.lexeme.toList)
  errors := m.errors ++ findings.filterMap Finding.error?

theorem behind_append (m : Machine) (a b : List Char) (f g : List Finding) :
    m.behind (a ++ b) (f ++ g) = (m.behind a f).behind b g := by
  simp [behind, Nat.add_assoc]

theorem behind_nil (m : Machine) (text : List Char) :
    m.behind text [] = { m with mode := .code, line := m.line + lineFeeds text } := by
  simp [behind]

theorem behind_token (m : Machine) (text : List Char) (t : Token) :
    m.behind text [.token t] =
      { m with
        mode := .code, line := m.line + lineFeeds text, kept := m.kept ++ t.lexeme.toList } := by
  simp [behind, Finding.token?, Finding.error?]

theorem behind_error (m : Machine) (text : List Char) (e : LexError) :
    m.behind text [.error e] =
      { m with mode := .code, line := m.line + lineFeeds text, errors := m.errors ++ [e] } := by
  simp [behind, Finding.token?, Finding.error?]

/-- A token of characters that are kept by themselves. -/
theorem drain_plain {t : Token} (hm : m.mode = .code) (h : ∀ c ∈ text, IsPlain c)
    (ht : t.lexeme = String.ofList text) :
    m.drain (text ++ rest) = (m.behind text [.token t]).drain rest := by
  have hlines : lineFeeds text = 0 :=
    List.count_eq_zero_of_not_mem fun hmem => nomatch (h '\n' hmem).1
  rw [drain_append, foldl_plain hm h, behind_token, ht, hlines, String.toList_ofList, hm]
  rfl

theorem drain_blank {c : Char} (hm : m.mode = .code) (hc : isBlank c = true) :
    m.drain ([c] ++ rest) = (m.behind [c] []).drain rest := by
  have hread : m.read c = m := by simp [read, hm, readCode, hc]
  rw [drain_append, List.foldl_cons, List.foldl_nil, step, hread, countLine_eq, behind_nil, hm]

theorem drain_comment_segment {body : List Char} (hm : m.mode = .code) (hbody : '\n' ∉ body)
    (hstop : ∀ c ∈ rest.head?, c = '\n') :
    m.drain ((Segment.comment body).chars ++ rest) =
      (m.behind (Segment.comment body).chars []).drain rest := by
  have hopen : (m.step '/').step '/' = { m with mode := .comment } := by
    simp [step, read, hm, readCode, countLine, isBlank]
  have hlines : lineFeeds ('/' :: '/' :: body) = 0 := by
    simpa [lineFeeds] using List.count_eq_zero_of_not_mem hbody
  rw [drain_append, Segment.chars, List.foldl_cons, List.foldl_cons, hopen, foldl_comment rfl hbody,
    drain_comment rfl hstop, behind_nil, hlines]
  rfl

theorem drain_symbol {s : Symbol} {t : Token} (hm : m.mode = .code) (hs : s.Ends rest)
    (ht : t.lexeme = String.ofList s.chars) :
    m.drain (s.chars ++ rest) = (m.behind s.chars [.token t]).drain rest := by
  by_cases hslash : s = .slash
  · -- A slash waits for the next character, which is none.
    subst hslash
    have hstep : m.step '/' = { m with mode := .slash } := by
      simp [step, read, hm, readCode, countLine, isBlank]
    rw [drain_append, behind_token, ht, String.toList_ofList, Symbol.chars, List.foldl_cons,
      List.foldl_nil, hstep, drain_slash rfl hs]
    rfl
  · refine drain_plain hm (fun c hc => isPlain_of_mem_symbol hc ?_) ht
    rintro rfl
    cases s <;> first | exact hslash rfl | exact absurd hc (by decide)

theorem drain_quoted {body : List Char} {t : Token} (hm : m.mode = .code) (hbody : '"' ∉ body)
    (ht : t.lexeme = String.ofList (Segment.quoted body).chars) :
    m.drain ((Segment.quoted body).chars ++ rest) =
      (m.behind (Segment.quoted body).chars [.token t]).drain rest := by
  have hopen : m.step '"' = { m with mode := .string ['"'] } := by
    simp [step, read, hm, readCode, countLine, isBlank]
  have hclose : ∀ line, step { m with mode := .string ('"' :: body), line := line } '"' =
      { m with mode := .code, line := line, kept := m.kept ++ (Segment.quoted body).chars } := by
    simp [step, read, countLine, Segment.chars]
  have hlines : lineFeeds (Segment.quoted body).chars = lineFeeds body := by
    simp [lineFeeds, Segment.chars]
  rw [drain_append, behind_token, ht, hlines, String.toList_ofList, ← hclose, Segment.chars,
    List.foldl_cons, hopen, List.foldl_append, foldl_string rfl hbody]
  rfl

theorem drain_stray {c : Char} (hm : m.mode = .code) (hc : ¬StartsSegment c) :
    m.drain ([c] ++ rest) =
      (m.behind [c] [.error (.unexpectedCharacter c m.line)]).drain rest := by
  have hoccurs := occursInToken_of_not_startsSegment hc
  have hslash : c ≠ '/' := by
    rintro rfl
    exact hc (.inr (.inr (.inr (.inr ⟨.slash, rfl⟩))))
  simp only [StartsSegment, not_or] at hc
  have hread : m.read c = { m with errors := m.errors ++ [.unexpectedCharacter c m.line] } := by
    simp [read, hm, readCode, hc, hslash, hoccurs]
  rw [drain_append, List.foldl_cons, List.foldl_nil, step, hread, countLine_eq, behind_error, hm]

theorem drain_unclosed {body : List Char} (hm : m.mode = .code) (hbody : '"' ∉ body) :
    m.drain (Segment.unclosed body).chars =
      (m.behind (Segment.unclosed body).chars
        [.error (.unterminatedString (m.line + lineFeeds (Segment.unclosed body).chars))]).drain
        [] := by
  have hopen : m.step '"' = { m with mode := .string ['"'] } := by
    simp [step, read, hm, readCode, countLine, isBlank]
  have hlines : lineFeeds (Segment.unclosed body).chars = lineFeeds body := by
    simp [lineFeeds, Segment.chars]
  rw [behind_error, hlines, drain, Segment.chars, List.foldl_cons, hopen, foldl_string rfl hbody]
  rfl

/-- The segment at the front of a text means the same to the machine as it does to a scan. -/
theorem drain_segment {g : Segment} {p : Position} (hm : m.mode = .code) (hp : p.line = m.line)
    (hg : g.Fits rest) :
    m.drain (g.chars ++ rest) =
      (m.behind g.chars (Piece.finding? ⟨g, p, p.after g.chars⟩).toList).drain rest := by
  cases g with
  | blank c => exact drain_blank hm hg
  | comment body => exact drain_comment_segment hm hg.1 hg.2
  | symbol s => exact drain_symbol hm hg rfl
  | quoted body => exact drain_quoted hm hg rfl
  -- A word or a number is kept character by character, as it has none that ends code.
  | word spelling =>
    obtain ⟨⟨c, tail, rfl, hletter, hparts⟩, -⟩ := hg
    refine drain_plain hm (fun d hd => ?_) rfl
    rcases List.mem_cons.mp hd with rfl | hd
    · exact isPlain_of_isLetter hletter
    · rcases (Bool.or_eq_true _ _).mp (hparts d hd) with h | h
      · exact isPlain_of_isLetter h
      · exact isPlain_of_isDigit h
  | number whole fraction =>
    simp only [Piece.finding?, Segment.read?_number hg]
    refine drain_plain hm (fun d hd => ?_) rfl
    cases fraction with
    | none => exact isPlain_of_isDigit (hg.1.2 d hd)
    | some fraction =>
      rcases List.mem_append.mp hd with hd | hd
      · exact isPlain_of_isDigit (hg.1.2 d hd)
      rcases List.mem_cons.mp hd with rfl | hd
      · exact isPlain_of_mem_symbol (s := .dot) (.head _) (by decide)
      · exact isPlain_of_isDigit (hg.2.1.2 d hd)
  | stray c =>
    -- A stray character is no line feed, so the line behind it is the one where it stands.
    have hline : c ≠ '\n' := by
      rintro rfl
      exact hg (.inl rfl)
    have hstop : (p.after [c]).line = m.line := by
      simp [Position.after, lineFeeds, hline, hp]
    simp only [Piece.finding?, Segment.chars, hstop]
    exact drain_stray hm hg
  | unclosed body =>
    obtain ⟨hbody, rfl⟩ := hg
    simp only [Piece.finding?, Position.after, hp, List.append_nil]
    exact drain_unclosed hm hbody

/-- The machine keeps the lexemes of a text and records its errors. -/
theorem drain_eq {p : Position} (hm : m.mode = .code) (hp : p.line = m.line) (text : List Char) :
    m.drain text = m.behind text (Scanner.findingsFrom p text) := by
  induction text using Source.cut_induction generalizing m p with
  | nil => simp [drain, finish, hm, behind_nil]
  | cons c text ih =>
    have hg := Segment.fits_next c text
    have hline : (p.after (Segment.next c text).1.chars).line =
        m.line + lineFeeds (Segment.next c text).1.chars := by
      rw [← hp]
      rfl
    rw [← Segment.chars_append_next c text, drain_segment hm hp hg,
      @ih (m.behind _ _) _ rfl hline, ← behind_append, Scanner.findingsFrom_append hg]

end Machine

/-- The machine that reads one character at a time agrees with the scan: the text that it keeps is
that of all lexemes in their order, its errors are those of the scan, and there are none exactly if
the source has tokens. -/
theorem scan_agrees_with_machine (source : String) :
    String.join ((Scanner.ofSource source).scan.1.tokens.map Token.lexeme) =
        String.ofList (Machine.run source).kept ∧
      (Scanner.ofSource source).scan.2.errors = (Machine.run source).errors ∧
      ((∃ tokens, tokenize source = .ok tokens) ↔ (Machine.run source).errors = []) := by
  have hrun : Machine.run source = Machine.start.behind source.toList
      (Scanner.findingsFrom Position.start source.toList) := Machine.drain_eq rfl rfl source.toList
  have herrors : (scan source).errors = (Machine.run source).errors := by
    rw [hrun, scan_eq_ofFindings]
    rfl
  refine ⟨?_, herrors, ?_⟩
  · show String.join ((scan source).tokens.map Token.lexeme) = _
    rw [hrun, scan_eq_ofFindings, ← String.toList_inj, String.toList_join, String.toList_ofList]
    simp [Scan.ofFindings, Machine.behind, Machine.start, List.flatMap_map, Token.eof, Token.plain]
  · rw [exists_tokenize_eq_ok_iff, ← errors_eq_nil_iff, herrors]

/-- Two slashes in a string, one between words and two before a comment. -/
example : Machine.run "a/ b\"//\"//c\n@" =
    ⟨.code, 2, "a/b\"//\"".toList, [.unexpectedCharacter '@' 2]⟩ := by
  decide +kernel

end Loxeme
