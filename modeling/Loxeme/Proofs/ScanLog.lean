import Loxeme.Proofs.Lines
import Loxeme.Proofs.Messages
import Loxeme.Proofs.Reuse

/-!
# The log of a scan

Tokens and errors go into lists of their own, and only the log keeps the order between them. It
tells of each token and of each error once, in the order of their places in the source, and at last
how many there were.

* `Log.Tells`: records that tell of the tokens and the errors at the spots of a source.
* `Log.tells_findings`: the records of what some spots mean tell of all of it.
* `Log.Filter.passes_of_admits_trace`: a filter for all of the scanner holds none of them back.
* `Log.Record.lineFeed_not_mem_line`, `lineFeed_not_mem_records`: each of them is one line.
* `log_tells_scan`: what each scan of a scanner logs.
-/

namespace Loxeme

namespace Log

/-- Records that tell of tokens and errors, which are all that the spots of a text give rise to, in
the order of the spots. -/
inductive Tells (text : List Char) :
    List Spot → List Token → List LexError → List Record → Prop
  | nil : Tells text [] [] [] []
  | token {s : Spot} {t : Token} {spots : List Spot} {tokens : List Token}
    {errors : List LexError} {records : List Record} (ht : s.Yields t)
    (hrest : Tells text spots tokens errors records) :
    Tells text (s :: spots) (t :: tokens) errors (.token t.kind t.lexeme t.line :: records)
  | error {s : Spot} {e : LexError} {spots : List Spot} {tokens : List Token}
    {errors : List LexError} {records : List Record} (he : s.Fails text e)
    (hrest : Tells text spots tokens errors records) :
    Tells text (s :: spots) tokens (e :: errors) (.lexError e :: records)
  /-- Blanks and comments are not told of. -/
  | silent {s : Spot} {spots : List Spot} {tokens : List Token} {errors : List LexError}
    {records : List Record} (hlexeme : s.segment.isLexeme = false)
    (hfault : s.segment.isFault = false) (hrest : Tells text spots tokens errors records) :
    Tells text (s :: spots) tokens errors records

/-- The records of what some spots mean tell of all of it. -/
theorem tells_findings {text : List Char} {spots : List Spot} (h : ∀ s ∈ spots, s.In text) :
    Tells text spots
      (((spots.map Spot.piece).filterMap Piece.finding?).filterMap Finding.token?)
      (((spots.map Spot.piece).filterMap Piece.finding?).filterMap Finding.error?)
      (((spots.map Spot.piece).filterMap Piece.finding?).map Finding.record) := by
  induction spots with
  | nil => exact .nil
  | cons s spots ih =>
    have hrest := ih fun u hu => h u (.tail _ hu)
    rw [List.map_cons, List.filterMap_cons]
    by_cases hlexeme : s.segment.isLexeme = true
    · obtain ⟨t, hmeans, ht⟩ := Spot.finding?_of_isLexeme (h s (.head _)) hlexeme
      rw [hmeans]
      exact .token ht hrest
    rw [Bool.not_eq_true] at hlexeme
    by_cases hfault : s.segment.isFault = true
    · obtain ⟨e, hmeans, he⟩ := Spot.finding?_of_isFault (h s (.head _)) hfault
      rw [hmeans]
      exact .error he hrest
    rw [Bool.not_eq_true] at hfault
    rw [Spot.finding?_of_silent hlexeme hfault]
    exact .silent hlexeme hfault hrest

/-! ## Filters that hold nothing back -/

/-- A ceiling that admits traces admits all levels. -/
theorem Ceiling.admits_of_trace {c : Ceiling} (h : c.admits .trace = true) (level : Level) :
    c.admits level = true := by
  cases c with
  | off => cases h
  | upTo greatest =>
    have hgreatest : Level.trace.rank ≤ greatest.rank := of_decide_eq_true h
    have hlevel : level.rank ≤ Level.trace.rank := by cases level <;> decide
    exact decide_eq_true (Nat.le_trans hlevel hgreatest)

theorem Filter.passes_of_admits_trace {f : Filter} {r : Record} (hr : r.target = .scanner)
    (hf : f.admits Target.scanner.path.toList .trace = true) : r.passes f = true := by
  rw [Record.passes, hr]
  exact Ceiling.admits_of_trace hf r.level

end Log

/-- The records of a scan that a filter lets through. -/
def Scan.logged (s : Scan) (f : Log.Filter) : List Log.Record :=
  s.records.filter (·.passes f)

theorem Finding.target_record (f : Finding) : f.record.target = .scanner := by
  cases f <;> rfl

/-- Nothing that a scan logs is held back by a filter for all of the scanner. -/
theorem logged_scan {f : Log.Filter} (hf : f.admits Log.Target.scanner.path.toList .trace = true)
    (source : String) : (scan source).logged f = (scan source).records := by
  refine List.filter_eq_self.mpr fun r hr => Log.Filter.passes_of_admits_trace ?_ hf
  rw [scan_eq_ofFindings, Scan.ofFindings] at hr
  rcases List.mem_append.mp hr with hr | hr
  · obtain ⟨finding, -, rfl⟩ := List.mem_map.mp hr
    exact finding.target_record
  · obtain rfl := List.mem_singleton.mp hr
    rfl

/-- The records of a scan tell of its tokens and its errors, and the last one sums them up. -/
theorem records_scan (source : String) :
    ∃ records, (scan source).records = records ++
        [.finished (scan source).tokens.length (scan source).errors.length
          (1 + lineFeeds source.toList)] ∧
      Log.Tells source.toList (Source.spots (Source.cut source.toList)) (scan source).lexemes
        (scan source).errors records := by
  have htells := Log.tells_findings (Source.in_spots_cut source.toList)
  rw [← Source.pieces_eq] at htells
  rw [Scan.lexemes, scan_eq_ofFindings, Scan.ofFindings, List.dropLast_concat]
  exact ⟨_, rfl, htells⟩

/-! ## Records on lines of their own -/

theorem Kind.lineFeed_not_mem_name (k : Kind) : '\n' ∉ k.name.toList := by
  have hall : ∀ k ∈ all, '\n' ∉ k.name.toList := by decide +kernel
  exact hall k (mem_all k)

namespace Log.Record

/-- A field of a record: what is before it, its name and its value. -/
theorem lineFeed_not_mem_field {a b c : String} (ha : '\n' ∉ a.toList) (hb : '\n' ∉ b.toList)
    (hc : '\n' ∉ c.toList) : '\n' ∉ (a ++ b ++ c).toList :=
  lineFeed_not_mem_append (lineFeed_not_mem_append ha hb) hc

/-- What a record says has no line feed, if the message of an error that it tells of has none: what
is from outside is quoted. -/
theorem lineFeed_not_mem_text {r : Record}
    (h : ∀ e, r = .lexError e → '\n' ∉ e.message.toList) : '\n' ∉ r.text.toList := by
  cases r with
  | token kind lexeme line =>
    have hkind := lineFeed_not_mem_append (a := "token kind=") (by decide +kernel)
      kind.lineFeed_not_mem_name
    have hlexeme := lineFeed_not_mem_field (b := " lexeme=") hkind (by decide +kernel)
      (lineFeed_not_mem_quoted lexeme)
    exact lineFeed_not_mem_field hlexeme (by decide +kernel) (lineFeed_not_mem_toString line)
  | lexError e =>
    exact lineFeed_not_mem_append (a := "lexing error error=") (by decide +kernel) (h e rfl)
  | noValue numeral =>
    have hliteral := lineFeed_not_mem_append (a := "number literal rejected literal=")
      (by decide +kernel) (lineFeed_not_mem_quoted numeral)
    exact lineFeed_not_mem_append hliteral (by decide +kernel)
  | finished tokens errors line =>
    have htokens := lineFeed_not_mem_append (a := "finished scanning tokens=")
      (by decide +kernel) (lineFeed_not_mem_toString tokens)
    have herrors := lineFeed_not_mem_field (b := " errors=") htokens (by decide +kernel)
      (lineFeed_not_mem_toString errors)
    exact lineFeed_not_mem_field herrors (by decide +kernel) (lineFeed_not_mem_toString line)
  | scanning path bytes =>
    have hpath := lineFeed_not_mem_append (a := "scanning source file file=")
      (by decide +kernel) (lineFeed_not_mem_quoted path)
    exact lineFeed_not_mem_field hpath (by decide +kernel) (lineFeed_not_mem_toString bytes)
  | waiting bytes =>
    exact lineFeed_not_mem_append (a := "waiting for continuation line bytes=")
      (by decide +kernel) (lineFeed_not_mem_toString bytes)

theorem lineFeed_not_mem_line {r : Record}
    (h : ∀ e, r = .lexError e → '\n' ∉ e.message.toList) : '\n' ∉ r.line.toList := by
  have hfront : ∀ (level : Level) (target : Target), '\n' ∉ (" " ++
      "".pushn ' ' (5 - level.name.length) ++ level.name ++ " " ++ target.path ++ ": ").toList := by
    intro level target
    cases level <;> cases target <;> decide +kernel
  exact lineFeed_not_mem_append (hfront r.level r.target) (lineFeed_not_mem_text h)

end Log.Record

/-- Each record of a scan is one line in the log. -/
theorem lineFeed_not_mem_records (source : String) :
    ∀ r ∈ (scan source).records, '\n' ∉ r.line.toList := by
  have hmessages := LexError.lineFeed_not_mem_messages source
  rw [scan_eq_ofFindings, Scan.ofFindings] at hmessages ⊢
  intro r hr
  refine Log.Record.lineFeed_not_mem_line ?_
  rintro e rfl
  -- Only the message of an error stands unquoted in a record, and the errors are those of the scan.
  refine hmessages _ (List.mem_map_of_mem (List.mem_filterMap.mpr ?_))
  rcases List.mem_append.mp hr with hr | hr
  · obtain ⟨finding, hfinding, hrecord⟩ := List.mem_map.mp hr
    refine ⟨finding, hfinding, ?_⟩
    cases finding with
    | token t => cases hrecord
    | error e => cases hrecord; rfl
  · cases List.mem_singleton.mp hr

/-- Each scan of a scanner, whatever it was asked for before, logs one record for each token but the
one for the end of the source and one for each error, in the order of their places, and then one
with the number of tokens, the number of errors and the last line. It logs nothing else. -/
theorem log_tells_scan {source : String} {calls : List Scanner.Call} {s : Scanner}
    {f : Log.Filter} (hs : ((Scanner.ofSource source).session calls).2 = s)
    (hf : f.admits Log.Target.scanner.path.toList .trace = true) :
    ∃ segments lexemes records line, Source.IsCut source.toList segments ∧
      (Source.spots segments).Pairwise (fun a b => a.before ++ a.segment.chars <+: b.before) ∧
      s.scan.1.tokens = lexemes ++ [Token.eof line] ∧
      s.scan.1.logged f = records ++
        [.finished s.scan.1.tokens.length s.scan.2.errors.length line] ∧
      Log.Tells source.toList (Source.spots segments) lexemes s.scan.2.errors records := by
  have hkept := ((Scanner.Kept.ofSource source).session calls).2
  rw [hs] at hkept
  obtain ⟨records, hrecords, htells⟩ := records_scan source
  rw [Scanner.errors_scan, hkept.scan_eq, logged_scan hf]
  exact ⟨Source.cut source.toList, (scan source).lexemes, records, 1 + lineFeeds source.toList,
    Source.isCut_iff.mpr rfl, Source.pairwise_spots _, tokens_scan source, hrecords, htells⟩

/-- The third scan of a source with an error between two tokens and one at its end. -/
theorem log_tells_scan_of_third :
    ∃ s f, ((Scanner.ofSource "a@1\n\"").session [.scan, .errors, .scan]).2 = s ∧
      f.admits Log.Target.scanner.path.toList .trace = true ∧
      s.scan.1.logged f =
        [.token .identifier "a" 1, .lexError (.unexpectedCharacter '@' 1), .token .number "1" 1,
          .lexError (.unterminatedString 2), .finished 3 2 2] ∧
      ∃ segments lexemes records line, Source.IsCut "a@1\n\"".toList segments ∧
        (Source.spots segments).Pairwise (fun a b => a.before ++ a.segment.chars <+: b.before) ∧
        s.scan.1.tokens = lexemes ++ [Token.eof line] ∧
        s.scan.1.logged f = records ++
          [.finished s.scan.1.tokens.length s.scan.2.errors.length line] ∧
        Log.Tells "a@1\n\"".toList (Source.spots segments) lexemes s.scan.2.errors records := by
  have hf : (Log.Filter.ofText "trace").admits Log.Target.scanner.path.toList .trace = true := by
    decide +kernel
  exact ⟨_, _, rfl, hf, by decide +kernel, log_tells_scan rfl hf⟩

end Loxeme
