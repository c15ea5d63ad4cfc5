import Loxeme.Proofs.LineJoin

/-!
# What an error costs

An error costs the text that is wrong and nothing around it. A stray character divides what is
around it as a blank does, and a quote that is not closed takes the text behind it and leaves what
is before it.

* `Source.strays`, `Source.blankAt`: the stray characters of a cut, and blanks in their places.
* `Source.blankAt_strays`: these are the segments with a blank for each stray character.
* `Source.Lawful.blanked`: such segments still obey the grammar.
* `Source.findings_blanked`: they mean the same, but for the errors that are gone.
* `scan_blankSpots`: the scan of a source with blanks for its stray characters.
* `scan_before_unclosed`: the scan of what is before a quote that is not closed.
* `scan_recovers`: an error costs the text that is wrong.
-/

namespace Loxeme

/-! ## Blanks for stray characters -/

/-- Whether an error is a character that starts no token. -/
def LexError.isUnexpected : LexError → Bool
  | .unexpectedCharacter _ _ => true
  | _ => false

namespace Segment

/-- Whether a segment is a stray character. -/
def isStray : Segment → Bool
  | .stray _ => true
  | _ => false

/-- A blank for a stray character, and any other segment as it is. -/
def blanked : Segment → Segment
  | .stray _ => .blank ' '
  | g => g

theorem blanked_of_not_isStray {g : Segment} (h : g.isStray = false) : g.blanked = g := by
  cases g with
  | stray c => cases h
  | _ => rfl

theorem isFault_of_isStray {g : Segment} (h : g.isStray = true) : g.isFault = true := by
  cases g with
  | stray c => rfl
  | _ => cases h

theorem Fails.isUnexpected_eq {g : Segment} {e : LexError} (h : g.Fails e) :
    e.isUnexpected = g.isStray := by
  cases h <;> rfl

end Segment

namespace Source

/-- The stray characters of a cut, each with the text before it. -/
def strays (segments : List Segment) : List Spot :=
  (spots segments).filter (·.segment.isStray)

/-- A text with a blank in each of some places. A place is counted by the characters before it. -/
def blankAt (places : List Nat) (text : List Char) : List Char :=
  places.foldl (fun text i => text.set i ' ') text

/-- A source with a blank at each of some spots. -/
def blankSpots (spots : List Spot) (source : String) : String :=
  String.ofList (blankAt (spots.map (·.before.length)) source.toList)

theorem blankAt_cons (place : Nat) (places : List Nat) (text : List Char) :
    blankAt (place :: places) text = blankAt places (text.set place ' ') := rfl

/-- The stray characters of segments are blanked where they are, behind any front of the length that
is counted for it. -/
theorem blankAt_spotsFrom (before front : List Char) (h : before.length = front.length)
    (segments : List Segment) :
    blankAt (((spotsFrom before segments).filter (·.segment.isStray)).map (·.before.length))
        (front ++ segments.flatMap Segment.chars) =
      front ++ (segments.map Segment.blanked).flatMap Segment.chars := by
  induction segments generalizing before front with
  | nil => rfl
  | cons g segments ih =>
    rw [spotsFrom, List.filter_cons, List.flatMap_cons, List.map_cons, List.flatMap_cons]
    -- Either way the front is a segment longer for the segments that are left.
    by_cases hg : g.isStray = true
    · cases g with
      | stray c =>
        have hset : (front ++ c :: segments.flatMap Segment.chars).set before.length ' ' =
            front ++ ' ' :: segments.flatMap Segment.chars := by
          rw [h, List.set_append_right _ _ (Nat.le_refl _), Nat.sub_self, List.set_cons_zero]
        have hrest := ih (before ++ [c]) (front ++ [' ']) (by simp [h])
        rw [List.append_assoc, List.append_assoc] at hrest
        rw [if_pos hg, List.map_cons, blankAt_cons]
        show blankAt _ ((front ++ c :: segments.flatMap Segment.chars).set before.length ' ') = _
        rw [hset]
        exact hrest
      | _ => cases hg
    · have hrest := ih (before ++ g.chars) (front ++ g.chars) (by simp [h])
      rw [List.append_assoc, List.append_assoc] at hrest
      rw [if_neg hg, Segment.blanked_of_not_isStray (Bool.eq_false_iff.mpr hg)]
      exact hrest

/-- Blanks in the places of the stray characters of segments are the segments with a blank for each
of them. -/
theorem blankAt_strays (segments : List Segment) :
    blankAt ((strays segments).map (·.before.length)) (segments.flatMap Segment.chars) =
      (segments.map Segment.blanked).flatMap Segment.chars :=
  blankAt_spotsFrom [] [] rfl segments

/-! ## The grammar with blanks for stray characters -/

/-- A text, and the text with blanks for some characters that start no segment. -/
def Blanked : List Char → List Char → Prop :=
  List.Forall₂ fun c d => d = c ∨ ¬StartsSegment c ∧ d = ' '

namespace Blanked

variable {text text' : List Char}

theorem refl (text : List Char) : Blanked text text :=
  List.forall₂_same.mpr fun _ _ => .inl rfl

/-- What comes next is as it was, or it is a blank for a character that starts no segment. -/
theorem head? (h : Blanked text text') {d : Char} (hd : d ∈ text'.head?) :
    d ∈ text.head? ∨ d = ' ' ∧ ∃ c ∈ text.head?, ¬StartsSegment c := by
  cases h with
  | nil => cases hd
  | cons hcd _ =>
    cases hd
    rcases hcd with rfl | ⟨hc, rfl⟩
    · exact .inl rfl
    · exact .inr ⟨rfl, _, rfl, hc⟩

/-- What comes next is of no class that it was not of, if blanks are not of that class. -/
theorem head?_not (h : Blanked text text') {p : Char → Bool} (hp : p ' ' = false)
    (hnot : ∀ c ∈ text.head?, p c = false) : ∀ d ∈ text'.head?, p d = false := by
  intro d hd
  rcases h.head? hd with hd | ⟨rfl, -⟩
  · exact hnot d hd
  · exact hp

/-- A character that comes next came next before, if it is no blank. -/
theorem head?_eq (h : Blanked text text') {d : Char} (hd : text'.head? = some d) (hne : d ≠ ' ') :
    text.head? = some d := by
  rcases h.head? hd with hd | ⟨he, -⟩
  · exact hd
  · exact absurd he hne

/-- No fraction follows where none did. -/
theorem fractionFollows (h : Blanked text text') (hpoint : FractionFollows text') :
    FractionFollows text := by
  obtain ⟨d, tail', rfl, hd⟩ := hpoint
  obtain ⟨c, behind, hc, hbehind, rfl⟩ := List.forall₂_cons_right_iff.mp h
  obtain ⟨e, tail, he, -, rfl⟩ := List.forall₂_cons_right_iff.mp hbehind
  rcases hc with rfl | ⟨-, hc⟩
  · rcases he with rfl | ⟨-, rfl⟩
    · exact ⟨_, tail, rfl, hd⟩
    · cases hd
  · cases hc

theorem lineFeeds_eq (h : Blanked text text') : lineFeeds text' = lineFeeds text := by
  induction h with
  | nil => rfl
  | @cons c d text text' hcd _ ih =>
    have hd : lineFeeds [d] = lineFeeds [c] := by
      rcases hcd with rfl | ⟨hc, rfl⟩
      · rfl
      · have hne : c ≠ '\n' := by
          rintro rfl
          exact hc (.inl rfl)
        simp [lineFeeds, hne]
    have hleft : lineFeeds (d :: text') = lineFeeds [d] + lineFeeds text' :=
      lineFeeds_append [d] text'
    have hright : lineFeeds (c :: text) = lineFeeds [c] + lineFeeds text :=
      lineFeeds_append [c] text
    rw [hleft, hright, hd, ih]

end Blanked

end Source

/-- A symbol is not made longer by blanks behind it. -/
theorem Symbol.Ends.blanked {s : Symbol} {rest rest' : List Char} (h : s.Ends rest)
    (hrest : Source.Blanked rest rest') : s.Ends rest' := by
  cases s with
  | bang | equal | less | greater | slash => exact fun hd => h (hrest.head?_eq hd (by decide))
  | _ => trivial

namespace Segment

variable {g : Segment} {rest rest' : List Char}

/-- A segment is blanked as a text. -/
theorem Fits.blanked_chars (h : g.Fits rest) : Source.Blanked g.chars g.blanked.chars := by
  cases g with
  | stray c => exact .cons (.inr ⟨h, rfl⟩) .nil
  | _ => exact .refl _

/-- A segment obeys the grammar with a blank for a stray character, itself and behind it. -/
theorem Fits.blanked (h : g.Fits rest) (hrest : Source.Blanked rest rest') :
    g.blanked.Fits rest' := by
  cases g with
  | comment body =>
    refine ⟨h.1, fun d hd => ?_⟩
    rcases hrest.head? hd with hd | ⟨-, c, hc, hstray⟩
    · exact h.2 d hd
    · -- A line feed is no stray character.
      obtain rfl := h.2 c hc
      exact absurd (.inl rfl) hstray
  | symbol s => exact Symbol.Ends.blanked h hrest
  | number whole fraction =>
    cases fraction with
    | none => exact ⟨h.1, hrest.head?_not rfl h.2.1, mt hrest.fractionFollows h.2.2⟩
    | some fraction => exact ⟨h.1, h.2.1, hrest.head?_not rfl h.2.2⟩
  | word spelling =>
    exact ⟨h.1, hrest.head?_not (isWordPart_eq_false_of_isBlank rfl) h.2⟩
  | unclosed body =>
    obtain ⟨hbody, rfl⟩ := h
    exact ⟨hbody, List.forall₂_nil_left_iff.mp hrest⟩
  | stray c => exact (rfl : isBlank ' ' = true)
  | blank c => exact h
  | quoted body => exact h

end Segment

namespace Source

/-- Segments obey the grammar with a blank for each stray character. -/
theorem Lawful.blanked {segments : List Segment} (h : Lawful segments) :
    Lawful (segments.map Segment.blanked) ∧ Blanked (segments.flatMap Segment.chars)
      ((segments.map Segment.blanked).flatMap Segment.chars) := by
  induction segments with
  | nil => exact ⟨trivial, .nil⟩
  | cons g segments ih =>
    obtain ⟨hlawful, hblanked⟩ := ih h.2
    exact ⟨⟨h.1.blanked hblanked, hlawful⟩, List.rel_append h.1.blanked_chars hblanked⟩

end Source

/-! ## What is found with blanks for stray characters -/

/-- Whether a finding is a character that starts no token. -/
def Finding.isUnexpected : Finding → Bool
  | .token _ => false
  | .error e => e.isUnexpected

namespace Finding

variable (findings : List Finding)

theorem filterMap_token?_filter :
    (findings.filter (!·.isUnexpected)).filterMap token? = findings.filterMap token? := by
  rw [List.filterMap_filter]
  congr 1
  funext f
  cases f with
  | token t => rfl
  | error e => simp [isUnexpected, token?]

theorem filterMap_error?_filter :
    (findings.filter (!·.isUnexpected)).filterMap error? =
      (findings.filterMap error?).filter (!·.isUnexpected) := by
  rw [List.filterMap_filter, List.filter_filterMap]
  congr 1
  funext f
  cases f with
  | token t => rfl
  | error e => cases he : e.isUnexpected <;> simp [isUnexpected, error?, Option.filter, he]

end Finding

/-- A segment means the same with a blank for a stray character on the same line, but for the error
that is gone. -/
theorem Piece.finding?_blanked (g : Segment) {p p' q q' : Position} (hstart : q.line = p.line)
    (hstop : q'.line = p'.line) :
    finding? ⟨g.blanked, q, q'⟩ = (finding? ⟨g, p, p'⟩).filter (!·.isUnexpected) := by
  cases g with
  | stray c => rfl
  | number whole fraction =>
    simp only [Segment.blanked, finding?]
    cases Decimal.read? (Segment.number whole fraction).chars with
    | some d => simp only [hstart]; rfl
    | none => simp only [hstop]; rfl
  | symbol s => simp only [Segment.blanked, finding?, hstart]; rfl
  | quoted body => simp only [Segment.blanked, finding?, hstart]; rfl
  | word spelling => simp only [Segment.blanked, finding?, hstart]; rfl
  | unclosed body => simp only [Segment.blanked, finding?, hstop]; rfl
  | _ => rfl

/-- Segments mean the same with blanks for stray characters, but for the errors that are gone. -/
theorem Source.findings_blanked {segments : List Segment} (h : Lawful segments) {p q : Position}
    (hline : q.line = p.line) :
    (place q (segments.map Segment.blanked)).filterMap Piece.finding? =
      ((place p segments).filterMap Piece.finding?).filter (!·.isUnexpected) := by
  induction segments generalizing p q with
  | nil => rfl
  | cons g segments ih =>
    have hafter : (q.after g.blanked.chars).line = (p.after g.chars).line := by
      simp only [Position.after, hline, h.1.blanked_chars.lineFeeds_eq]
    rw [List.map_cons, place_cons, place_cons, List.filterMap_cons, List.filterMap_cons,
      Piece.finding?_blanked g hline hafter, ih h.2 hafter]
    cases Piece.finding? ⟨g, p, p.after g.chars⟩ with
    | none => rfl
    | some f => cases hf : f.isUnexpected <;> simp [Option.filter, hf]

section Blanked

variable {source : String} {segments : List Segment}

/-- The scan of a source with blanks for its stray characters. -/
theorem scan_blankSpots (h : Source.IsCut source.toList segments) :
    (scan (Source.blankSpots (Source.strays segments) source)).tokens = (scan source).tokens ∧
      (scan (Source.blankSpots (Source.strays segments) source)).errors =
        (scan source).errors.filter (!·.isUnexpected) := by
  obtain ⟨hlawful, hblanked⟩ := h.lawful.blanked
  have htext : (Source.blankSpots (Source.strays segments) source).toList =
      (segments.map Segment.blanked).flatMap Segment.chars := by
    rw [Source.blankSpots, String.toList_ofList, ← h.flatMap_chars, Source.blankAt_strays]
  rw [h.flatMap_chars, ← htext] at hblanked
  have hcut : Source.cut source.toList = segments := (Source.isCut_iff.mp h).symm
  have hcut' := Source.cut_eq_iff.mpr ⟨htext.symm, hlawful⟩
  have hfindings : Scanner.findingsFrom Position.start
      (Source.blankSpots (Source.strays segments) source).toList =
        (Scanner.findingsFrom Position.start source.toList).filter (!·.isUnexpected) := by
    rw [Scanner.findingsFrom, hcut', Source.findings_blanked h.lawful rfl, Scanner.findingsFrom,
      hcut]
  simp only [scan_eq_ofFindings, Scan.ofFindings, hfindings, hblanked.lineFeeds_eq,
    Finding.filterMap_token?_filter, Finding.filterMap_error?_filter, and_self]

/-- Each stray character has its error, in the order of their places. -/
theorem forall₂_strays (h : Source.IsCut source.toList segments) :
    List.Forall₂ (Spot.Fails source.toList) (Source.strays segments)
      ((scan source).errors.filter LexError.isUnexpected) := by
  obtain rfl := Source.isCut_iff.mp h
  have hsame : ∀ s e, Spot.Fails source.toList s e →
      (s.segment.isStray = true ↔ e.isUnexpected = true) := by
    intro s e hfails
    rw [hfails.1.isUnexpected_eq]
  have hall := List.rel_filter (fun s e => hsame s e) (forall₂_errors source)
  have hstrays : ((Source.spots (Source.cut source.toList)).filter (·.segment.isFault)).filter
      (·.segment.isStray) = Source.strays (Source.cut source.toList) := by
    rw [List.filter_filter, Source.strays]
    refine List.filter_congr fun s _ => ?_
    cases hs : s.segment.isStray with
    | false => rfl
    | true => exact Segment.isFault_of_isStray hs
  rwa [hstrays] at hall

end Blanked

/-! ## A quote that is not closed -/

/-- The error for a quote that is not closed has one, at the end of the source. -/
theorem exists_cut_unclosed {source : String} {line : Nat}
    (h : .unterminatedString line ∈ (scan source).errors) :
    ∃ a body, Source.cut source.toList = a ++ [.unclosed body] ∧ '"' ∉ body := by
  obtain ⟨g, hg, hfails⟩ := exists_mem_of_forall₂ (forall₂_fails source).flip h
  cases hfails with
  | unclosed body =>
    obtain ⟨a, b, hcut⟩ := List.append_of_mem (List.mem_of_mem_filter hg)
    have hlast := (hcut ▸ Source.lawful_cut source.toList : Source.Lawful (a ++ _ :: b)).right
    obtain rfl := hlast.eq_nil_of_unclosed
    exact ⟨a, body, hcut, hlast.1.1⟩

section Unclosed

variable {source front : String} {a : List Segment} {body : List Char}

/-- The segments before a quote that is not closed are those of the text before it. -/
theorem cut_before_unclosed (h : Source.cut source.toList = a ++ [.unclosed body]) :
    Source.cut (a.flatMap Segment.chars) = a := by
  have hlawful : Source.Lawful (a ++ [.unclosed body]) := h ▸ Source.lawful_cut source.toList
  have hfront : Source.Lawful (a ++ []) := hlawful.shorten trivial rfl
  rw [List.append_nil] at hfront
  exact Source.cut_eq_iff.mpr ⟨rfl, hfront⟩

/-- A quote that is not closed is the only one. -/
theorem unterminated_not_mem_errors (h : Source.cut source.toList = a ++ [.unclosed body])
    (hfront : front.toList = a.flatMap Segment.chars) (line : Nat) :
    .unterminatedString line ∉ (scan front).errors := by
  intro hmem
  obtain ⟨b, body', hcut, -⟩ := exists_cut_unclosed hmem
  rw [hfront, cut_before_unclosed h] at hcut
  have hlawful := Source.lawful_cut source.toList
  rw [h, hcut, List.append_assoc] at hlawful
  cases hlawful.right.eq_nil_of_unclosed

/-- The scan of what is before a quote that is not closed. -/
theorem scan_before_unclosed (h : Source.cut source.toList = a ++ [.unclosed body])
    (hfront : front.toList = a.flatMap Segment.chars) :
    (scan source).lexemes = (scan front).lexemes ∧
      (scan source).errors = (scan front).errors ++
        [.unterminatedString (1 + lineFeeds source.toList)] := by
  have hcut : Source.cut front.toList = a := hfront ▸ cut_before_unclosed h
  have htext : source.toList = front.toList ++ '"' :: body := by
    rw [← Source.flatMap_chars_cut source.toList, h, List.flatMap_append, hfront,
      List.flatMap_singleton]
    rfl
  constructor
  · rw [lexemes_scan, lexemes_scan, h, hcut, Source.tokensFrom_append]
    exact List.append_nil _
  · have hlast : ((Position.start.after front.toList).after ('"' :: body)).line =
        1 + lineFeeds source.toList := by
      rw [← Position.after_append, ← htext]
      rfl
    rw [scan_eq_ofFindings, scan_eq_ofFindings, Scanner.findingsFrom, Scanner.findingsFrom, h, hcut,
      Source.place_append, ← hfront, List.filterMap_append, ← hlast]
    simp only [Scan.ofFindings, List.filterMap_append]
    rfl

end Unclosed

/-- An error costs the text that is wrong and nothing around it. With a blank in the place of each
stray character, a source has the same tokens, and the same errors but for those. A quote that is
not closed is the last quote of a source, and its error is the last error and the only one of its
kind: what is before the quote has the same tokens but for the end of the source, and the same
errors but for the last. -/
theorem scan_recovers (source : String) :
    (∃ segments, Source.IsCut source.toList segments ∧
      (∀ s ∈ Source.strays segments, s.In source.toList) ∧
      List.Forall₂ (Spot.Fails source.toList) (Source.strays segments)
        ((scan source).errors.filter LexError.isUnexpected) ∧
      (scan (Source.blankSpots (Source.strays segments) source)).tokens = (scan source).tokens ∧
      (scan (Source.blankSpots (Source.strays segments) source)).errors =
        (scan source).errors.filter (!·.isUnexpected)) ∧
    ∀ line, .unterminatedString line ∈ (scan source).errors →
      ∃ front tail tokens errors, source = front ++ "\"" ++ tail ∧ '"' ∉ tail.toList ∧
        (scan source).errors = errors ++ [.unterminatedString line] ∧
        (∀ line', .unterminatedString line' ∉ errors) ∧
        (scan source).tokens = tokens ++ [Token.eof (1 + lineFeeds source.toList)] ∧
        (scan front).tokens = tokens ++ [Token.eof (1 + lineFeeds front.toList)] ∧
        (scan front).errors = errors := by
  constructor
  · have hcut : Source.IsCut source.toList (Source.cut source.toList) := Source.isCut_iff.mpr rfl
    refine ⟨_, hcut, fun s hs => ?_, forall₂_strays hcut, scan_blankSpots hcut⟩
    exact Source.in_spots_cut source.toList s (List.mem_of_mem_filter hs)
  · intro line hline
    obtain ⟨a, body, hcut, hbody⟩ := exists_cut_unclosed hline
    have hfront : (String.ofList (a.flatMap Segment.chars)).toList = a.flatMap Segment.chars :=
      String.toList_ofList
    have hsource : source =
        String.ofList (a.flatMap Segment.chars) ++ "\"" ++ String.ofList body := by
      rw [← String.toList_inj, ← Source.flatMap_chars_cut source.toList, hcut]
      simp [Segment.chars]
    have hnone := unterminated_not_mem_errors hcut hfront
    obtain ⟨hlexemes, herrors⟩ := scan_before_unclosed hcut hfront
    -- No error before the last one is of a string, so the last one is the error that is given.
    obtain rfl : line = 1 + lineFeeds source.toList := by
      rw [herrors] at hline
      simpa [hnone] using hline
    refine ⟨_, _, _, _, hsource, ?_, herrors, hnone, tokens_scan source, ?_, rfl⟩
    · rwa [String.toList_ofList]
    · rw [hlexemes]
      exact tokens_scan _

/-- Stray characters inside of what could be a number, a comment and an operator, and a quote behind
them that is not closed. -/
theorem scan_recovers_of_lookahead :
    (scan "1.@2/€/!#=\n\"a").errors = [.unexpectedCharacter '@' 1, .unexpectedCharacter '€' 1,
        .unexpectedCharacter '#' 1] ++ [.unterminatedString 2] ∧
      (scan "1. 2/ /! =\n\"a").tokens = (scan "1.@2/€/!#=\n\"a").tokens ∧
      (scan "1. 2/ /! =\n\"a").errors = [.unterminatedString 2] ∧
      ∃ front tail, "1.@2/€/!#=\n\"a" = front ++ "\"" ++ tail ∧ '"' ∉ tail.toList ∧
        (scan front).errors = [.unexpectedCharacter '@' 1, .unexpectedCharacter '€' 1,
          .unexpectedCharacter '#' 1] := by
  have hall : (scan "1.@2/€/!#=\n\"a").errors = [.unexpectedCharacter '@' 1,
      .unexpectedCharacter '€' 1, .unexpectedCharacter '#' 1] ++ [.unterminatedString 2] := by
    decide +kernel
  obtain ⟨⟨segments, hcut, -, -, htokens, herrors⟩, hquote⟩ := scan_recovers "1.@2/€/!#=\n\"a"
  obtain rfl := Source.isCut_iff.mp hcut
  have hblanks : Source.blankSpots (Source.strays (Source.cut "1.@2/€/!#=\n\"a".toList))
      "1.@2/€/!#=\n\"a" = "1. 2/ /! =\n\"a" := by
    decide +kernel
  rw [hblanks] at htokens herrors
  have hlast : .unterminatedString 2 ∈ (scan "1.@2/€/!#=\n\"a").errors := by
    rw [hall]
    exact List.mem_append_right _ (.head _)
  obtain ⟨front, tail, tokens, errors, hsource, htail, hsplit, -, -, -, hfront⟩ := hquote 2 hlast
  obtain ⟨rfl, -⟩ := List.append_inj' (hsplit.symm.trans hall) rfl
  exact ⟨hall, htokens, herrors.trans (by rw [hall]; rfl), front, tail, hsource, htail, hfront⟩

end Loxeme
