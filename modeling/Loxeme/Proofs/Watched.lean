import Loxeme.Scan.Scanner

/-!
# Scans that are watched

A scan counts with offsets and asks for ranges of its source, and nothing of this is seen in what it
gives. Here each operation of a scan notes what it does. Only the notes are new: a scan that is
watched gives what the scan gives.

* `Probe`: what is noted of a scan.
* `Watched`: a value, and what was noted on the way to it.
* `Watched.scan`, `Watched.value_scan`: a scan that is watched, and that it is the scan.
-/

namespace Loxeme

/-- What is noted of a scan. -/
inductive Probe
  /-- The scanner at a point where it has moved. -/
  | point (s : Scanner)
  /-- A scanner asks for the text between two offsets. -/
  | range (s : Scanner) (low high : Nat)
  /-- Two numbers are added. -/
  | sum (a b : Nat)
  /-- A number is taken from another one. -/
  | difference (a b : Nat)
  /-- A round has led from one scanner to the next. -/
  | round (s t : Scanner)
  deriving DecidableEq, Repr

/-- Whether the end of a round is noted. -/
def Probe.isRound : Probe → Bool
  | .round _ _ => true
  | _ => false

/-- A value, and what was noted on the way to it. -/
structure Watched (α : Type) where
  value : α
  probes : List Probe

namespace Watched

variable {α β : Type}

instance : Monad Watched where
  pure a := ⟨a, []⟩
  bind x f := ⟨(f x.value).value, x.probes ++ (f x.value).probes⟩

@[simp] theorem value_pure (a : α) : (pure a : Watched α).value = a := rfl

@[simp] theorem probes_pure (a : α) : (pure a : Watched α).probes = [] := rfl

@[simp] theorem value_bind (x : Watched α) (f : α → Watched β) :
    (x >>= f).value = (f x.value).value := rfl

@[simp] theorem probes_bind (x : Watched α) (f : α → Watched β) :
    (x >>= f).probes = x.probes ++ (f x.value).probes := rfl

@[simp] theorem value_ite (p : Prop) [Decidable p] (x y : Watched α) :
    (if p then x else y).value = if p then x.value else y.value :=
  apply_ite value p x y

/-- A value with what is known of it: that it is the one of the operation. -/
def attach (x : Watched α) : Watched {a // a = x.value} := ⟨⟨x.value, rfl⟩, x.probes⟩

@[simp] theorem value_attach (x : Watched α) : x.attach.value = ⟨x.value, rfl⟩ := rfl

@[simp] theorem probes_attach (x : Watched α) : x.attach.probes = x.probes := rfl

/-- What is known of a value may be left out where it is not used. -/
theorem attach_bind {x : Watched α} {f : {a // a = x.value} → Watched β} {g : α → Watched β}
    (h : ∀ a, f a = g a.1) : x.attach >>= f = x >>= g := by
  have hvalue : f ⟨x.value, rfl⟩ = g x.value := h ⟨x.value, rfl⟩
  show Watched.mk (f ⟨x.value, rfl⟩).value (x.probes ++ (f ⟨x.value, rfl⟩).probes) = _
  rw [hvalue]
  rfl

/-! ## Single operations -/

/-- Something is noted. -/
def note (p : Probe) : Watched Unit := ⟨(), [p]⟩

/-- The scanner is seen where it has moved to. -/
def reach (s : Scanner) : Watched Scanner := ⟨s, [.point s]⟩

/-- The text between two offsets. -/
def ask (s : Scanner) (low high : Nat) : Watched (Option String) :=
  ⟨s.slice? low high, [.range s low high]⟩

def add (a b : Nat) : Watched Nat := ⟨a + b, [.sum a b]⟩

def subtract (a b : Nat) : Watched Nat := ⟨a - b, [.difference a b]⟩

/-! ## The cursor -/

/-- The next character: the first one of what is left of the source. -/
def peek (s : Scanner) : Watched (Option Char) := do
  let rest ← ask s s.current s.source.utf8ByteSize
  return rest.bind (·.toList.head?)

/-- The character behind the next one: the second one of what is left of the source. -/
def peekNext (s : Scanner) : Watched (Option Char) := do
  let rest ← ask s s.current s.source.utf8ByteSize
  return rest.bind (·.toList.tail.head?)

def lexeme (s : Scanner) : Watched String := do
  return (← ask s s.start s.current).getD ""

/-- The line behind a character. -/
def countLine (line : Nat) (c : Char) : Watched Nat :=
  if c == '\n' then add line 1 else return line

def pass (s : Scanner) (c : Char) : Watched Scanner := do
  let current ← add s.current c.utf8Size
  let line ← countLine s.line c
  reach { s with current, line }

def advance (s : Scanner) : Watched (Option Char × Scanner) := do
  match ← peek s with
  | some c => return (some c, ← pass s c)
  | none => return (none, s)

def takeIf (s : Scanner) (expected : Char) : Watched (Bool × Scanner) := do
  if (← peek s) == some expected then
    let current ← add s.current expected.utf8Size
    return (true, ← reach { s with current })
  else return (false, s)

/-- What is left of the source can be asked for where the cursor is at the edge of a character, and
nowhere else. -/
theorem value_ask_rest (s : Scanner) :
    (∃ before rest, s.At before rest ∧
      (ask s s.current s.source.utf8ByteSize).value = some (String.ofList rest)) ∨
    s.peek = none ∧ (ask s s.current s.source.utf8ByteSize).value = none := by
  by_cases hedge : String.Pos.Raw.IsValid s.source ⟨s.current⟩
  · obtain ⟨before, rest, hsource, hcurrent⟩ := isValid_iff.mp hedge
    refine .inl ⟨before, rest, ⟨hsource, hcurrent⟩, ?_⟩
    have hend : s.source.utf8ByteSize = byteLength before + byteLength rest := by
      rw [hsource, utf8ByteSize_ofList, byteLength_append]
    have hlast := isValid_byteLength (before ++ rest) []
    have htext := extract_byteLength before rest []
    rw [List.append_nil, byteLength_append] at hlast
    rw [List.append_nil] at htext
    rw [ask, Scanner.slice?, hend, hcurrent, hsource, isValid_byteLength, hlast, htext]
    simp
  · refine .inr ⟨?_, ?_⟩
    · cases hpeek : s.peek with
      | none => rfl
      | some c =>
        obtain ⟨before, rest, hsource, hcurrent⟩ := exists_of_get? hpeek
        exact absurd (isValid_iff.mpr ⟨before, c :: rest, hsource, hcurrent⟩) hedge
    · -- Away from an edge the text from the cursor on cannot be asked for.
      have hinvalid : String.Pos.Raw.isValid s.source ⟨s.current⟩ = false :=
        Bool.eq_false_iff.mpr (mt String.Pos.Raw.isValid_eq_true_iff.mp hedge)
      simp [ask, Scanner.slice?, hinvalid]

@[simp] theorem value_peek (s : Scanner) : (peek s).value = s.peek := by
  rcases value_ask_rest s with ⟨before, rest, hat, hask⟩ | ⟨hnone, hask⟩
  · rw [peek, value_bind, hask, hat.peek]
    simp
  · rw [peek, value_bind, hask, hnone]
    rfl

@[simp] theorem value_peekNext (s : Scanner) : (peekNext s).value = s.peekNext := by
  rcases value_ask_rest s with ⟨before, rest, hat, hask⟩ | ⟨hnone, hask⟩
  · rw [peekNext, value_bind, hask, hat.peekNext]
    simp
  · rw [peekNext, value_bind, hask, Scanner.peekNext, hnone]
    rfl

@[simp] theorem value_lexeme (s : Scanner) : (lexeme s).value = s.lexeme := rfl

@[simp] theorem value_countLine (line : Nat) (c : Char) :
    (countLine line c).value = if c == '\n' then line + 1 else line := by
  rw [countLine, value_ite]
  rfl

@[simp] theorem value_pass (s : Scanner) (c : Char) : (pass s c).value = s.pass c := by
  rw [pass, value_bind, value_bind, value_countLine]
  rfl

@[simp] theorem value_advance (s : Scanner) : (advance s).value = s.advance := by
  unfold advance Scanner.advance
  rw [value_bind, value_peek]
  cases s.peek with
  | none => rfl
  | some c =>
    simp only [value_bind, value_pass]
    rfl

@[simp] theorem value_takeIf (s : Scanner) (expected : Char) :
    (takeIf s expected).value = s.takeIf expected := by
  unfold takeIf Scanner.takeIf
  rw [value_bind, value_peek]
  cases h : s.peek == some expected <;> rfl

/-- A move leaves less of the source. -/
theorem left_advance_lt {s : Scanner} {c : Char} (h : s.peek = some c) :
    s.advance.2.source.utf8ByteSize - s.advance.2.current < s.source.utf8ByteSize - s.current := by
  have hend := lt_utf8ByteSize_of_get? h
  have hpos := c.utf8Size_pos
  rw [Scanner.advance, h]
  show s.source.utf8ByteSize - (s.current + c.utf8Size) < _
  omega

/-- Characters are read for as long as they are of a class: the next one is tested, and then it is
read. -/
def advanceWhile (p : Char → Bool) (s : Scanner) : Watched Scanner := do
  match ← (peek s).attach with
  | ⟨some c, _hc⟩ =>
    if p c then
      let ⟨(_, t), _ht⟩ ← (advance s).attach
      advanceWhile p t
    else return s
  | ⟨none, _⟩ => return s
termination_by s.source.utf8ByteSize - s.current
decreasing_by
  rw [value_peek] at _hc
  rw [value_advance] at _ht
  have hless := left_advance_lt _hc.symm
  rwa [← _ht] at hless

theorem advanceWhile_eq (p : Char → Bool) (s : Scanner) :
    advanceWhile p s = (do
      match ← peek s with
      | some c => if p c then advanceWhile p (← advance s).2 else return s
      | none => return s) := by
  rw [advanceWhile]
  refine attach_bind fun a => ?_
  rcases a with ⟨_ | c, h⟩ <;> rfl

@[simp] theorem value_advanceWhile (p : Char → Bool) (s : Scanner) :
    (advanceWhile p s).value = s.advanceWhile p := by
  induction s using advanceWhile.induct with
  | case1 s ih =>
    rw [advanceWhile_eq, value_bind, value_peek]
    cases hc : s.peek with
    | none => rw [Scanner.advanceWhile_of_end hc, value_pure]
    | some c =>
      have hadvance : s.advance = (some c, s.pass c) := by rw [Scanner.advance, hc]
      -- The induction is about the scanner that the noted move gives, which is the plain one.
      have hlater := ih c (by rw [value_peek, hc]) (some c) (s.pass c)
        (by rw [value_advance, hadvance])
      rw [Scanner.advanceWhile_of_peek hc, value_ite, value_bind, value_advance, hadvance, hlater,
        value_pure]

/-! ## Reading a lexeme -/

def emitPlain (s : Scanner) (kind : Kind) : Watched Scanner := do
  return s.emit (.plain kind (← lexeme s) s.startLine)

def emitLiteral (s : Scanner) (kind : Kind) (value : Literal) : Watched Scanner := do
  return s.emit ((Token.plain kind (← lexeme s) s.startLine).withLiteral value)

def readString (s : Scanner) : Watched Scanner := do
  match ← takeIf (← advanceWhile (· != '"') s) '"' with
  | (true, s) =>
    let low ← add s.start 1
    let high ← subtract s.current 1
    let body ← ask s low high
    emitLiteral s .string (.text (body.getD ""))
  | (false, s) => return s.report (.unterminatedString s.line)

def readFraction (s : Scanner) : Watched Scanner := do
  if (← peekNext s).any isDigit then
    match ← takeIf s '.' with
    | (true, s) => advanceWhile isDigit s
    | (false, s) => return s
  else return s

def readNumber (s : Scanner) : Watched Scanner := do
  let s ← readFraction (← advanceWhile isDigit s)
  let numeral ← lexeme s
  match Decimal.read? numeral.toList with
  | some d => emitLiteral s .number (.number (Binary64.ofDecimal d))
  | none =>
    return { s with log := s.log.push (.noValue numeral) }.report (.invalidNumber numeral s.line)

def readWord (s : Scanner) : Watched Scanner := do
  let s ← advanceWhile isWordPart s
  let spelling ← lexeme s
  emitPlain s (Kind.ofWord spelling.toList)

def readSingle (s : Scanner) (c : Char) : Watched Scanner :=
  match Symbol.single? c with
  | some symbol => emitPlain s (.symbol symbol)
  | none => return s.report (.unexpectedCharacter c s.line)

def readSlash (s : Scanner) : Watched Scanner := do
  match ← takeIf s '/' with
  | (true, s) => advanceWhile (· != '\n') s
  | (false, s) => emitPlain s (.symbol .slash)

def readMark (s : Scanner) (c : Char) : Watched Scanner :=
  if c == '/' then readSlash s
  else
    match Symbol.withEqual? c with
    | some symbol => do
      match ← takeIf s '=' with
      | (true, s) => emitPlain s (.symbol symbol)
      | (false, s) => readSingle s c
    | none => readSingle s c

def readLexeme (s : Scanner) : Watched Scanner := do
  match ← advance s with
  | (none, s) => return s
  | (some c, s) =>
    if isBlank c then return s
    else if c == '"' then readString s
    else if isDigit c then readNumber s
    else if isLetter c then readWord s
    else readMark s c

@[simp] theorem value_emitPlain (s : Scanner) (kind : Kind) :
    (emitPlain s kind).value = s.emitPlain kind := rfl

@[simp] theorem value_emitLiteral (s : Scanner) (kind : Kind) (value : Literal) :
    (emitLiteral s kind value).value = s.emitLiteral kind value := rfl

@[simp] theorem value_readString (s : Scanner) : (readString s).value = s.readString := by
  unfold readString Scanner.readString
  rw [value_bind, value_advanceWhile, value_bind, value_takeIf]
  rcases (s.advanceWhile (· != '"')).takeIf '"' with ⟨_ | _, t⟩ <;> rfl

@[simp] theorem value_readFraction (s : Scanner) : (readFraction s).value = s.readFraction := by
  unfold readFraction Scanner.readFraction
  rw [value_bind, value_peekNext]
  cases h : s.peekNext.any isDigit with
  | false => rfl
  | true =>
    rw [if_pos rfl, if_pos rfl, value_bind, value_takeIf]
    rcases s.takeIf '.' with ⟨_ | _, t⟩
    · rfl
    · exact value_advanceWhile isDigit t

@[simp] theorem value_readNumber (s : Scanner) : (readNumber s).value = s.readNumber := by
  unfold readNumber Scanner.readNumber
  simp only [value_bind, value_advanceWhile, value_readFraction, value_lexeme]
  cases Decimal.read? (s.advanceWhile isDigit).readFraction.lexeme.toList <;> rfl

@[simp] theorem value_readWord (s : Scanner) : (readWord s).value = s.readWord := by
  simp [readWord, Scanner.readWord]

@[simp] theorem value_readSingle (s : Scanner) (c : Char) :
    (readSingle s c).value = s.readSingle c := by
  unfold readSingle Scanner.readSingle
  cases Symbol.single? c <;> rfl

@[simp] theorem value_readSlash (s : Scanner) : (readSlash s).value = s.readSlash := by
  unfold readSlash Scanner.readSlash
  rw [value_bind, value_takeIf]
  rcases s.takeIf '/' with ⟨_ | _, t⟩
  · rfl
  · exact value_advanceWhile _ t

@[simp] theorem value_readMark (s : Scanner) (c : Char) : (readMark s c).value = s.readMark c := by
  unfold readMark Scanner.readMark
  rw [value_ite, value_readSlash]
  cases Symbol.withEqual? c with
  | none => rw [value_readSingle]
  | some symbol =>
    rw [value_bind, value_takeIf]
    rcases s.takeIf '=' with ⟨_ | _, t⟩
    · rw [value_readSingle]
    · rfl

@[simp] theorem value_readLexeme (s : Scanner) : (readLexeme s).value = s.readLexeme := by
  unfold readLexeme Scanner.readLexeme
  rw [value_bind, value_advance]
  rcases s.advance with ⟨_ | c, t⟩
  · rfl
  · simp

/-! ## All rounds -/

def round (s : Scanner) : Watched Scanner := do
  readLexeme (← reach s.begin)

@[simp] theorem value_round (s : Scanner) : (round s).value = s.round :=
  value_readLexeme s.begin

def rounds (s : Scanner) (h : s.Sound) : Watched Scanner :=
  if hend : s.isAtEnd then return s
  else do
    let ⟨t, ht⟩ ← (round s).attach
    note (.round s t)
    rounds t (by rw [ht, value_round]; exact h.round hend)
termination_by s.source.utf8ByteSize - s.current
decreasing_by
  rw [ht, value_round]
  exact h.round_lt hend

/-- What is noted of a round comes first, then that it has come to its end, and then all that is
noted of the later ones. -/
theorem probes_rounds {s : Scanner} (h : s.Sound) (hend : ¬s.isAtEnd = true) :
    (rounds s h).probes =
      (round s).probes ++ .round s s.round :: (rounds s.round (h.round hend)).probes := by
  rw [rounds, dif_neg hend]
  simp only [probes_bind, probes_attach, value_attach, value_round, note, List.singleton_append]

theorem value_rounds (s : Scanner) (h : s.Sound) : (rounds s h).value = s.rounds h := by
  induction s, h using rounds.induct with
  | case1 s h hend => rw [rounds, dif_pos hend, Scanner.rounds, dif_pos hend, value_pure]
  | case2 s h hend ih =>
    rw [rounds, dif_neg hend, Scanner.rounds, dif_neg hend]
    have hlater := ih s.round (value_round s).symm
    simpa using hlater

/-- A scan that is watched, and the scanner behind it. -/
def scan (s : Scanner) : Watched (Scan × Scanner) := do
  let ⟨t, ht⟩ ← (reach s.restart).attach
  let t ← rounds t (ht ▸ s.sound_restart)
  let t := t.finish
  return (⟨t.found.toList, t.faults.toList, t.log.toList⟩, { t with found := #[], log := #[] })

/-- A scan that is watched is the scan. -/
theorem value_scan (s : Scanner) : (scan s).value = s.scan := by
  rw [scan, value_bind, value_bind, value_rounds]
  rfl

end Watched

end Loxeme
