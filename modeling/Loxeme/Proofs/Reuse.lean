import Loxeme.Proofs.Report

/-!
# Scanners that are used again

A scanner can be asked for its tokens, for its errors and whether there are any, in any order and
any number of times. Of the scans before, only the errors of the last one are left, and these are
the same each time.

* `Scanner.session`: calls of a scanner, one after the other.
* `Scanner.Served`: what the calls of a new scanner have to be answered with.
* `Token.agrees_self`: a token of a scan equals itself, as its value is no NaN.
* `Scanner.Kept`: what holds of a scanner whatever it was asked for.
* `Scanner.Kept.call`, `Scanner.Kept.session`: one more call keeps it, and so do all calls.
* `scanner_serves_any_session`: the answers of a scanner to any calls.
-/

namespace Loxeme

namespace Scanner

/-! ## Calls -/

/-- What a scanner can be asked for as long as it is there. -/
inductive Call
  | scan
  | errors
  | hadError
  deriving DecidableEq, Repr

/-- What a call is answered with. -/
inductive Answer
  | tokens (tokens : List Token)
  | errors (errors : List LexError)
  | flag (value : Bool)
  deriving DecidableEq, Repr

/-- The answer to a call, and the scanner behind it. -/
def call (s : Scanner) : Call → Answer × Scanner
  | .scan => (.tokens s.scan.1.tokens, s.scan.2)
  | .errors => (.errors s.errors, s)
  | .hadError => (.flag s.hadError, s)

/-- The answers to calls one after the other, and the scanner behind the last of them. -/
def session (s : Scanner) : List Call → List Answer × Scanner
  | [] => ([], s)
  | c :: calls =>
    let rest := (s.call c).2.session calls
    ((s.call c).1 :: rest.1, rest.2)

/-- The errors that a scanner has to report, if its first scan and the scanner behind that are
given: none before there was a scan, and those of the first scan from then on. -/
def dueErrors (first : Scan × Scanner) (scanned : Bool) : List LexError :=
  if scanned then first.2.errors else []

/-- The right answer to a call. Each scan gives the tokens of the first one, where numbers are
compared as IEEE 754 has it. -/
inductive Right (first : Scan × Scanner) (scanned : Bool) : Call → Answer → Prop
  | scan {tokens : List Token}
    (h : List.Forall₂ (fun t u => t.agrees u = true) tokens first.1.tokens) :
    Right first scanned .scan (.tokens tokens)
  | errors : Right first scanned .errors (.errors (dueErrors first scanned))
  | hadError {value : Bool} (h : value = true ↔ dueErrors first scanned ≠ []) :
    Right first scanned .hadError (.flag value)

/-- Calls with the right answers to them, where `scanned` tells whether there was a scan before. -/
inductive Served (first : Scan × Scanner) : Bool → List Call → List Answer → Prop
  | nil (scanned : Bool) : Served first scanned [] []
  | cons {scanned : Bool} {c : Call} {a : Answer} {calls : List Call} {answers : List Answer}
    (h : Right first scanned c a) (hrest : Served first (scanned || c == .scan) calls answers) :
    Served first scanned (c :: calls) (a :: answers)

end Scanner

/-! ## Tokens equal themselves -/

theorem Literal.agrees?_none : Literal.agrees? none none = true := rfl

theorem Literal.agrees?_text (value : String) :
    Literal.agrees? (some (.text value)) (some (.text value)) = true := by
  simp [Literal.agrees?, Literal.agrees]

theorem Literal.agrees?_ofDecimal (d : Decimal) :
    Literal.agrees? (some (.number (.ofDecimal d))) (some (.number (.ofDecimal d))) = true :=
  Binary64.agrees_ofDecimal_self d

/-- A token equals itself if its value does. -/
theorem Token.agrees_self_iff (t : Token) :
    t.agrees t = true ↔ Literal.agrees? t.literal t.literal = true := by
  simp [Token.agrees]

/-- The token of a segment equals itself: its value is rounded from a decimal, if it is a number. -/
theorem Segment.Yields.agrees_self {g : Segment} {t : Token} (h : g.Yields t) :
    t.agrees t = true := by
  rw [Token.agrees_self_iff]
  cases h with
  | quoted body line => exact Literal.agrees?_text _
  | whole digits line => exact Literal.agrees?_ofDecimal _
  | fraction digits fraction line => exact Literal.agrees?_ofDecimal _
  | _ => exact Literal.agrees?_none

theorem Token.agrees_self {source : String} {t : Token} (ht : t ∈ (scan source).tokens) :
    t.agrees t = true := by
  rw [tokens_scan] at ht
  rcases List.mem_append.mp ht with ht | ht
  · obtain ⟨g, -, hyields⟩ := exists_mem_of_forall₂ (forall₂_yields source).flip ht
    exact hyields.agrees_self
  · obtain rfl := List.mem_singleton.mp ht
    exact (Token.agrees_self_iff _).mpr Literal.agrees?_none

namespace Scanner

/-! ## One call -/

/-- A scan does not change the source. -/
theorem source_scan (s : Scanner) : s.scan.2.source = s.source :=
  (finds_rounds s.at_restart s.sound_restart).source_eq

theorem errors_scan (s : Scanner) : s.scan.2.errors = s.scan.1.errors := rfl

/-- What holds of a scanner of a source, whatever it was asked for: it holds no tokens back, and its
errors are those of a first scan, or none if there was no scan. -/
structure Kept (source : String) (scanned : Bool) (s : Scanner) : Prop where
  source_eq : s.source = source
  idle : s.Idle
  errors_eq : s.errors = dueErrors (ofSource source).scan scanned

namespace Kept

variable {source : String} {scanned : Bool} {s : Scanner}

theorem ofSource (source : String) : Kept source false (.ofSource source) :=
  ⟨rfl, idle_ofSource source, rfl⟩

/-- Each scan gives what a first one gives. -/
theorem scan_eq (h : Kept source scanned s) : s.scan.1 = Loxeme.scan source := by
  rw [Scanner.scan_eq h.idle, h.source_eq, scan_eq_ofPieces]

theorem scan (h : Kept source scanned s) : Kept source true s.scan.2 := by
  refine ⟨(source_scan s).trans h.source_eq, idle_scan s, ?_⟩
  rw [errors_scan, h.scan_eq]
  rfl

/-- A call is answered rightly, and keeps what holds of the scanner. -/
theorem call (h : Kept source scanned s) (c : Call) :
    Right (Scanner.ofSource source).scan scanned c (s.call c).1 ∧
      Kept source (scanned || c == .scan) (s.call c).2 := by
  cases c with
  | scan =>
    constructor
    · apply Right.scan
      -- The tokens are the same, but a token with a value that is no number would not equal itself.
      rw [h.scan_eq]
      show List.Forall₂ _ (Loxeme.scan source).tokens (Loxeme.scan source).tokens
      rw [List.forall₂_same]
      intro t ht
      exact Token.agrees_self ht
    · show Kept source (scanned || true) s.scan.2
      rw [Bool.or_true]
      exact h.scan
  | errors =>
    rw [show (Call.errors == Call.scan) = false from rfl, Bool.or_false]
    refine ⟨?_, h⟩
    show Right _ _ _ (.errors s.errors)
    rw [h.errors_eq]
    exact .errors
  | hadError =>
    rw [show (Call.hadError == Call.scan) = false from rfl, Bool.or_false]
    refine ⟨.hadError ?_, h⟩
    simp [hadError, h.errors_eq]

/-- Calls are answered rightly, and keep what holds of the scanner. -/
theorem session (h : Kept source scanned s) (calls : List Call) :
    Served (Scanner.ofSource source).scan scanned calls (s.session calls).1 ∧
      Kept source (scanned || calls.contains .scan) (s.session calls).2 := by
  induction calls generalizing scanned s with
  | nil => simpa [Scanner.session] using ⟨.nil scanned, h⟩
  | cons c calls ih =>
    obtain ⟨hright, hnext⟩ := h.call c
    obtain ⟨hserved, hlast⟩ := ih hnext
    refine ⟨.cons hright hserved, ?_⟩
    have hflag : (scanned || (c :: calls).contains .scan) =
        (scanned || c == .scan || calls.contains .scan) := by
      rw [List.contains_cons, Bool.or_assoc, Bool.beq_comm]
    rw [hflag]
    exact hlast

end Kept

end Scanner

/-- A scanner may be used any number of times. Whichever calls a new scanner gets, each is answered
rightly: each scan gives the tokens of the first one, there are no errors before the first scan and
those of a first scan from then on, and the flag tells whether there are any. A scanner that is
given up at the end leaves the same errors. -/
theorem scanner_serves_any_session (source : String) (calls : List Scanner.Call) :
    Scanner.Served (Scanner.ofSource source).scan false calls
        ((Scanner.ofSource source).session calls).1 ∧
      ((Scanner.ofSource source).session calls).2.intoErrors =
        if .scan ∈ calls then (Scanner.ofSource source).scan.2.errors else [] := by
  obtain ⟨hserved, hlast⟩ := (Scanner.Kept.ofSource source).session calls
  refine ⟨hserved, ?_⟩
  show ((Scanner.ofSource source).session calls).2.errors = _
  rw [hlast.errors_eq, Bool.false_or, Scanner.dueErrors]
  simp only [List.contains_iff_mem]

/-- A scanner that is asked before, between and behind two scans. -/
example : ((Scanner.ofSource "a@").session [.errors, .scan, .scan, .hadError, .errors]).1 =
    [.errors [], .tokens [⟨.identifier, "a", 1, none⟩, Token.eof 1],
      .tokens [⟨.identifier, "a", 1, none⟩, Token.eof 1], .flag true,
      .errors [.unexpectedCharacter '@' 1]] := by
  decide +kernel

end Loxeme
