import Loxeme.Proofs.LineEnds

/-!
# Sources joined at a line end

A line feed outside of a string ends whatever is read before it, and nothing that follows can reach
back over it. So the scan of two texts that are joined there is the scan of the first one and then
that of the second, on lines that are further down by the line feeds of the first.

* `Scanner.findingsFrom_raiseLine`: a text means the same on lines further down.
* `Source.cut_append_of_lineFeed`: a text behind a line feed outside of a string is cut by itself.
* `scan_append_of_lineFeed`: the tokens and the errors of two texts that are joined at a line end.
-/

namespace Loxeme

/-! ## Lines further down -/

/-- A token, some lines further down. -/
def Token.raiseLine (n : Nat) (t : Token) : Token :=
  { t with line := t.line + n }

/-- An error, some lines further down. -/
def LexError.raiseLine (n : Nat) : LexError → LexError
  | .unexpectedCharacter character line => .unexpectedCharacter character (line + n)
  | .unterminatedString line => .unterminatedString (line + n)
  | .invalidNumber literal line => .invalidNumber literal (line + n)

/-- A finding, some lines further down. -/
def Finding.raiseLine (n : Nat) : Finding → Finding
  | .token t => .token (t.raiseLine n)
  | .error e => .error (e.raiseLine n)

namespace Finding

variable (n : Nat) (findings : List Finding)

theorem filterMap_token?_map_raiseLine :
    (findings.map (raiseLine n)).filterMap token? =
      (findings.filterMap token?).map (Token.raiseLine n) := by
  rw [List.filterMap_map, List.map_filterMap]
  congr 1
  funext f
  cases f <;> rfl

theorem filterMap_error?_map_raiseLine :
    (findings.map (raiseLine n)).filterMap error? =
      (findings.filterMap error?).map (LexError.raiseLine n) := by
  rw [List.filterMap_map, List.map_filterMap]
  congr 1
  funext f
  cases f <;> rfl

end Finding

/-- A segment means the same on lines further down. -/
theorem Piece.finding?_raiseLine (g : Segment) {p p' q q' : Position} {n : Nat}
    (hstart : q.line = p.line + n) (hstop : q'.line = p'.line + n) :
    finding? ⟨g, q, q'⟩ = (finding? ⟨g, p, p'⟩).map (Finding.raiseLine n) := by
  cases g with
  | number whole fraction =>
    simp only [finding?]
    cases Decimal.read? (Segment.number whole fraction).chars with
    | some d => simp only [hstart]; rfl
    | none => simp only [hstop]; rfl
  | symbol s => simp only [finding?, hstart]; rfl
  | quoted body => simp only [finding?, hstart]; rfl
  | word spelling => simp only [finding?, hstart]; rfl
  | stray c => simp only [finding?, hstop]; rfl
  | unclosed body => simp only [finding?, hstop]; rfl
  | _ => rfl

namespace Scanner

/-- A text means the same on lines further down. -/
theorem findingsFrom_raiseLine {p q : Position} {n : Nat} (h : q.line = p.line + n)
    (text : List Char) :
    findingsFrom q text = (findingsFrom p text).map (Finding.raiseLine n) := by
  induction text using Source.cut_induction generalizing p q with
  | nil => simp
  | cons c text ih =>
    have hafter : (q.after (Segment.next c text).1.chars).line =
        (p.after (Segment.next c text).1.chars).line + n := by
      simp only [Position.after]
      omega
    have hg := Segment.fits_next c text
    rw [← Segment.chars_append_next c text, findingsFrom_append hg, findingsFrom_append hg,
      Piece.finding?_raiseLine _ h hafter, ih hafter, List.map_append]
    cases Piece.finding? ⟨(Segment.next c text).1, p, p.after (Segment.next c text).1.chars⟩ <;> rfl

/-- Where a text is cut in two as its parts are, it means what its parts do. -/
theorem findingsFrom_of_cut_append {a b : List Char}
    (h : Source.cut (a ++ b) = Source.cut a ++ Source.cut b) (p : Position) :
    findingsFrom p (a ++ b) = findingsFrom p a ++ findingsFrom (p.after a) b := by
  rw [findingsFrom, h, Source.place_append, List.filterMap_append, Source.flatMap_chars_cut]
  rfl

end Scanner

/-! ## Cuts behind a line feed -/

namespace Source

variable {text : List Char}

/-- A line feed at the end of a text without an open string is a segment of its own. -/
theorem exists_cut_lineFeed (h : ∀ body, .unclosed body ∉ cut (text ++ ['\n'])) :
    ∃ a, cut (text ++ ['\n']) = a ++ [.blank '\n'] := by
  obtain ⟨htext, hlawful⟩ := cut_eq_iff.mp (Eq.refl (cut (text ++ ['\n'])))
  generalize cut (text ++ ['\n']) = segments at h htext hlawful
  obtain ⟨a, g, u, rfl, hlast, -⟩ := exists_last_of_flatMap_chars hlawful htext
  have hmem : '\n' ∈ g.chars := hlast ▸ List.mem_append_right _ (.head _)
  rcases Segment.eq_of_lineFeed_mem hlawful.right.1 hmem with rfl | hquote
  · exact ⟨a, rfl⟩
  · -- The text ends with a line feed, and a quoted text that is closed ends with its quote.
    cases g with
    | quoted body => cases Segment.eq_quote_of_chars_quoted hlast
    | unclosed body => exact absurd (List.mem_append_right _ (.head _)) (h body)
    | _ => cases hquote

/-- A text behind a line feed outside of a string is cut by itself. -/
theorem cut_append_of_lineFeed (h : ∀ body, .unclosed body ∉ cut (text ++ ['\n']))
    (more : List Char) : cut (text ++ ['\n'] ++ more) = cut (text ++ ['\n']) ++ cut more := by
  obtain ⟨a, ha⟩ := exists_cut_lineFeed h
  obtain ⟨htext, hlawful⟩ := cut_eq_iff.mp ha
  -- The segments before the blank see it alone, whether there is more text behind it or not.
  have hmore : (.blank '\n' :: cut more).flatMap Segment.chars =
      [Segment.blank '\n'].flatMap Segment.chars ++ more := by
    rw [List.flatMap_cons, flatMap_chars_cut]
    rfl
  have hbehind : Lawful (.blank '\n' :: cut more) := ⟨rfl, lawful_cut more⟩
  rw [ha, cut_eq_iff]
  constructor
  · rw [List.flatMap_append, flatMap_chars_cut, htext]
  · rw [List.append_assoc]
    exact hlawful.extend hbehind hmore (by simp [Segment.chars]) (by simp [Segment.chars])

end Source

/-! ## Scans of joined texts -/

/-- An open string is an error. -/
theorem unclosed_not_mem_cut {source : String}
    (h : ∀ line, .unterminatedString line ∉ (scan source).errors) (body : List Char) :
    .unclosed body ∉ Source.cut source.toList := by
  intro hmem
  have hfault : Segment.unclosed body ∈ (Source.cut source.toList).filter Segment.isFault :=
    List.mem_filter.mpr ⟨hmem, rfl⟩
  obtain ⟨e, he, hfails⟩ := exists_mem_of_forall₂ (forall₂_fails source) hfault
  cases hfails with
  | unclosed body line => exact h line he

/-- Two texts are joined at a line end that is not inside of a string. The tokens are those of the
first text without the one for its end, and then those of the second; the errors are those of the
first text, and then those of the second. What is of the second text is further down by as many
lines as the first one ends. -/
theorem scan_append_of_lineFeed {a b : String}
    (h : ∀ line, .unterminatedString line ∉ (scan (a ++ "\n")).errors) :
    (scan (a ++ "\n")).tokens = (scan (a ++ "\n")).lexemes ++
        [Token.eof (1 + lineFeeds (a ++ "\n").toList)] ∧
      (scan (a ++ "\n" ++ b)).tokens = (scan (a ++ "\n")).lexemes ++
        (scan b).tokens.map (Token.raiseLine (lineFeeds (a ++ "\n").toList)) ∧
      (scan (a ++ "\n" ++ b)).errors = (scan (a ++ "\n")).errors ++
        (scan b).errors.map (LexError.raiseLine (lineFeeds (a ++ "\n").toList)) := by
  have htext : (a ++ "\n").toList = a.toList ++ ['\n'] := String.toList_append
  have hcut := Source.cut_append_of_lineFeed (htext ▸ unclosed_not_mem_cut h) b.toList
  rw [← htext] at hcut
  have hline : (Position.start.after (a ++ "\n").toList).line =
      Position.start.line + lineFeeds (a ++ "\n").toList := rfl
  have hfindings : Scanner.findingsFrom Position.start (a ++ "\n" ++ b).toList =
      Scanner.findingsFrom Position.start (a ++ "\n").toList ++
        (Scanner.findingsFrom Position.start b.toList).map
          (Finding.raiseLine (lineFeeds (a ++ "\n").toList)) := by
    rw [String.toList_append, Scanner.findingsFrom_of_cut_append hcut,
      Scanner.findingsFrom_raiseLine hline]
  have hlast : 1 + lineFeeds (a ++ "\n" ++ b).toList =
      1 + lineFeeds b.toList + lineFeeds (a ++ "\n").toList := by
    rw [String.toList_append, lineFeeds_append]
    omega
  refine ⟨tokens_scan _, ?_, ?_⟩
  · rw [Scan.lexemes]
    simp only [scan_eq_ofFindings, hfindings, hlast, Scan.ofFindings, List.filterMap_append,
      Finding.filterMap_token?_map_raiseLine, List.dropLast_concat, List.map_append,
      List.append_assoc]
    rfl
  · simp only [scan_eq_ofFindings, hfindings, Scan.ofFindings, List.filterMap_append,
      Finding.filterMap_error?_map_raiseLine]

/-- A point before the line end and a digit behind it are two tokens. -/
theorem scan_append_of_lineFeed_of_point :
    (scan ("@1." ++ "\n")).errors = [.unexpectedCharacter '@' 1] ∧
      (scan ("@1." ++ "\n" ++ "5#\n\"")).tokens = [
        ⟨.number, "1", 1, some (.number (.ofBits 0x3FF0000000000000))⟩,
        ⟨.symbol .dot, ".", 1, none⟩,
        ⟨.number, "5", 2, some (.number (.ofBits 0x4014000000000000))⟩, Token.eof 3] ∧
      (scan ("@1." ++ "\n" ++ "5#\n\"")).errors = [.unexpectedCharacter '@' 1,
        .unexpectedCharacter '#' 2, .unterminatedString 3] := by
  have ha : (scan ("@1." ++ "\n")).errors = [.unexpectedCharacter '@' 1] := by decide +kernel
  have hclosed : ∀ line, .unterminatedString line ∉ (scan ("@1." ++ "\n")).errors := by
    rw [ha]
    simp
  obtain ⟨-, htokens, herrors⟩ := scan_append_of_lineFeed (b := "5#\n\"") hclosed
  rw [htokens, herrors]
  exact ⟨ha, by decide +kernel, by decide +kernel⟩

end Loxeme
