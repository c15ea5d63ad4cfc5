import Loxeme.Proofs.ScanPieces
import Mathlib.Data.List.Forall2

/-!
# What a scan reports

A source has one cut that the lexical grammar allows. Its scan gives a token for each symbol,
quoted text, number and word of the cut, an error for each stray character and for a quote that is
not closed, and nothing for blanks and comments.

* `Segment.Yields`: which token stands for a segment.
* `Segment.Fails`: which error stands for a segment.
* `Source.spots`: the segments of a cut, each with the text before it.
* `forall₂_tokens`, `forall₂_errors`: the tokens and the errors of a scan, spot by spot.
* `forall₂_yields`, `forall₂_fails`: the same, segment by segment.
* `scan_reports_only_cut`: a scan reports the one cut that its source has.
-/

namespace Loxeme

/-! ## Tokens and errors of segments -/

namespace Segment

/-- Whether a segment is a token of the source. -/
def isLexeme : Segment → Bool
  | .symbol _ | .quoted _ | .number _ _ | .word _ => true
  | _ => false

/-- Whether a segment is an error of the source. -/
def isFault : Segment → Bool
  | .stray _ | .unclosed _ => true
  | _ => false

/-- The token that stands for a segment, on some line. Its lexeme is the text of the segment. -/
inductive Yields : Segment → Token → Prop
  | symbol (s : Symbol) (line : Nat) :
    Yields (.symbol s) ⟨.symbol s, String.ofList s.chars, line, none⟩
  /-- The value of a string is the text between its quotes. -/
  | quoted (body : List Char) (line : Nat) :
    Yields (.quoted body)
      ⟨.string, String.ofList ('"' :: (body ++ ['"'])), line, some (.text (String.ofList body))⟩
  | whole (digits : List Char) (line : Nat) :
    Yields (.number digits none)
      ⟨.number, String.ofList digits, line,
        some (.number (.ofDecimal (.ofDigits digits [])))⟩
  | fraction (digits fraction : List Char) (line : Nat) :
    Yields (.number digits (some fraction))
      ⟨.number, String.ofList (digits ++ '.' :: fraction), line,
        some (.number (.ofDecimal (.ofDigits digits fraction)))⟩
  | keyword (k : Keyword) (line : Nat) :
    Yields (.word k.spelling.toList) ⟨.keyword k, k.spelling, line, none⟩
  | name {spelling : List Char} (h : ∀ k : Keyword, k.spelling.toList ≠ spelling) (line : Nat) :
    Yields (.word spelling) ⟨.identifier, String.ofList spelling, line, none⟩

/-- The error that stands for a segment, on some line. -/
inductive Fails : Segment → LexError → Prop
  | stray (c : Char) (line : Nat) : Fails (.stray c) (.unexpectedCharacter c line)
  | unclosed (body : List Char) (line : Nat) : Fails (.unclosed body) (.unterminatedString line)

/-- A number has a value: that of its digits and of those behind its point. -/
theorem read?_number {whole rest : List Char} {fraction : Option (List Char)}
    (h : (number whole fraction).Fits rest) :
    Decimal.read? (number whole fraction).chars =
      some (.ofDigits whole (fraction.getD [])) := by
  cases fraction with
  | none =>
    obtain ⟨⟨hne, hdigits⟩, -⟩ := h
    exact Decimal.read?_whole hne hdigits
  | some fraction =>
    obtain ⟨⟨hne, hdigits⟩, ⟨hne', hdigits'⟩, -⟩ := h
    exact Decimal.read?_fraction hne hdigits hne' hdigits'

/-- A word that no keyword is spelled like is a name. -/
theorem yields_word (spelling : List Char) (line : Nat) :
    (word spelling).Yields
      (.plain (Kind.ofWord spelling) (String.ofList spelling) line) := by
  unfold Kind.ofWord
  split
  · rename_i k hk
    rw [Keyword.ofChars?_eq_some_iff.mp hk, String.ofList_toList]
    exact .keyword k line
  · rename_i hnone
    refine .name (fun k hk => ?_) line
    rw [Keyword.ofChars?_eq_some_iff.mpr hk.symm] at hnone
    cases hnone

end Segment

/-! ## Spots -/

/-- A segment of a source and the text before it. -/
structure Spot where
  before : List Char
  segment : Segment

namespace Spot

/-- The piece of a source at a spot. -/
def piece (s : Spot) : Piece :=
  ⟨s.segment, Position.start.after s.before, Position.start.after (s.before ++ s.segment.chars)⟩

/-- Whether a text has the segment at a spot, and the segment obeys the grammar there. -/
def In (s : Spot) (text : List Char) : Prop :=
  ∃ rest, text = s.before ++ (s.segment.chars ++ rest) ∧ s.segment.Fits rest

end Spot

namespace Source

/-- Segments with the text before each of them, where the first has some text before it. -/
def spotsFrom (before : List Char) : List Segment → List Spot
  | [] => []
  | g :: segments => ⟨before, g⟩ :: spotsFrom (before ++ g.chars) segments

/-- The segments of a cut, each with the text before it. -/
def spots (segments : List Segment) : List Spot :=
  spotsFrom [] segments

theorem map_segment_spotsFrom (before : List Char) (segments : List Segment) :
    (spotsFrom before segments).map Spot.segment = segments := by
  induction segments generalizing before with
  | nil => rfl
  | cons g segments ih => rw [spotsFrom, List.map_cons, ih]

theorem place_eq_map_piece (before : List Char) (segments : List Segment) :
    place (Position.start.after before) segments = (spotsFrom before segments).map Spot.piece := by
  induction segments generalizing before with
  | nil => rfl
  | cons g segments ih =>
    rw [place_cons, spotsFrom, List.map_cons, ← ih, ← Position.after_append]
    simp [Spot.piece]

theorem in_of_mem_spotsFrom {before : List Char} {segments : List Segment} (h : Lawful segments)
    {s : Spot} (hs : s ∈ spotsFrom before segments) :
    s.In (before ++ segments.flatMap Segment.chars) := by
  induction segments generalizing before with
  | nil => cases hs
  | cons g segments ih =>
    rw [List.flatMap_cons]
    rcases List.mem_cons.mp hs with rfl | hs
    · exact ⟨_, rfl, h.1⟩
    · rw [← List.append_assoc]
      exact ih h.2 hs

theorem pieces_eq (text : List Char) : pieces text = (spots (cut text)).map Spot.piece :=
  place_eq_map_piece [] (cut text)

/-- Each segment of a cut is in the text, and obeys the grammar there. -/
theorem in_spots_cut (text : List Char) : ∀ s ∈ spots (cut text), s.In text := by
  intro s hs
  have := in_of_mem_spotsFrom (lawful_cut text) hs
  rwa [List.nil_append, flatMap_chars_cut] at this

end Source

/-! ## What a piece means -/

namespace Spot

/-- The line that an error is reported on at a spot of a text: a quote that is not closed is
reported on the last line. -/
def errorLine (s : Spot) (text : List Char) : Nat :=
  match s.segment with
  | .unclosed _ => 1 + lineFeeds text
  | _ => 1 + lineFeeds s.before

/-- A token stands for the segment at a spot, on the line where the segment starts. -/
def Yields (s : Spot) (t : Token) : Prop :=
  s.segment.Yields t ∧ t.line = 1 + lineFeeds s.before

/-- An error stands for the segment at a spot of a text, on its line. -/
def Fails (text : List Char) (s : Spot) (e : LexError) : Prop :=
  s.segment.Fails e ∧ e.line = s.errorLine text

variable {s : Spot} {text : List Char}

/-- A lexeme means its token, on the line where it starts. -/
theorem finding?_of_isLexeme (h : s.In text) (hs : s.segment.isLexeme = true) :
    ∃ t, s.piece.finding? = some (.token t) ∧ s.Yields t := by
  obtain ⟨before, g⟩ := s
  obtain ⟨rest, -, hfits⟩ := h
  cases g with
  | symbol s => exact ⟨_, rfl, .symbol s _, rfl⟩
  | quoted body => exact ⟨_, rfl, .quoted body _, rfl⟩
  | word spelling => exact ⟨_, rfl, Segment.yields_word spelling _, rfl⟩
  | number whole fraction =>
    have hread := Segment.read?_number hfits
    cases fraction with
    | none =>
      refine ⟨_, ?_, .whole whole _, rfl⟩
      simp only [piece, Piece.finding?, hread]
      rfl
    | some fraction =>
      refine ⟨_, ?_, .fraction whole fraction _, rfl⟩
      simp only [piece, Piece.finding?, hread]
      rfl
  | _ => cases hs

/-- A fault means its error. The line that is reached there is the one where a stray character is,
as it is no line feed, and the last line for a quote that is not closed. -/
theorem finding?_of_isFault (h : s.In text) (hs : s.segment.isFault = true) :
    ∃ e, s.piece.finding? = some (.error e) ∧ s.Fails text e := by
  obtain ⟨before, g⟩ := s
  obtain ⟨rest, rfl, hfits⟩ := h
  cases g with
  | stray c =>
    refine ⟨_, rfl, .stray c _, ?_⟩
    have hc : lineFeeds [c] = 0 := by
      refine List.count_eq_zero_of_not_mem fun hmem => ?_
      obtain rfl := List.mem_singleton.mp hmem
      exact hfits (.inl rfl)
    show 1 + lineFeeds (before ++ [c]) = 1 + lineFeeds before
    rw [lineFeeds_append, hc, Nat.add_zero]
  | unclosed body =>
    obtain ⟨-, rfl⟩ := hfits
    refine ⟨_, rfl, .unclosed body _, ?_⟩
    simp only [errorLine, List.append_nil]
    rfl
  | _ => cases hs

/-- Blanks and comments mean nothing. -/
theorem finding?_of_silent (hs : s.segment.isLexeme = false) (hs' : s.segment.isFault = false) :
    s.piece.finding? = none := by
  obtain ⟨before, g⟩ := s
  cases g with
  | blank c => rfl
  | comment body => rfl
  | stray c => cases hs'
  | unclosed body => cases hs'
  | _ => cases hs

end Spot

/-! ## What a scan gives -/

section Related

variable {α β γ : Type} {r : α → β → Prop} {l : List α} {m : List β}

/-- An item of a list is related to an item of a list that is related in its order. -/
theorem exists_mem_of_forall₂ (h : List.Forall₂ r l m) {a : α} (ha : a ∈ l) :
    ∃ b ∈ m, r a b := by
  induction h with
  | nil => cases ha
  | cons hab _ ih =>
    rcases List.mem_cons.mp ha with rfl | ha
    · exact ⟨_, .head _, hab⟩
    · obtain ⟨b, hb, hr⟩ := ih ha
      exact ⟨b, .tail _ hb, hr⟩

/-- Lists whose items are related in their order are mapped alike, if related items are. -/
theorem map_eq_map_of_forall₂ {f : α → γ} {g : β → γ} (h : List.Forall₂ r l m)
    (hfg : ∀ a b, r a b → g b = f a) : m.map g = l.map f := by
  have heq : List.Forall₂ (fun x y => y = x) (l.map f) (m.map g) := by
    rw [List.forall₂_map_left_iff, List.forall₂_map_right_iff]
    exact h.imp hfg
  exact List.forall₂_eq_eq_eq ▸ heq.flip

end Related

/-- Items that pass a test and give something are related to what they give, in their order. -/
private theorem forall₂_filterMap {α β : Type} {r : α → β → Prop} {p : α → Bool}
    {f : α → Option β} {l : List α} (hyes : ∀ a ∈ l, p a = true → ∃ b, f a = some b ∧ r a b)
    (hno : ∀ a ∈ l, p a = false → f a = none) :
    List.Forall₂ r (l.filter p) (l.filterMap f) := by
  induction l with
  | nil => exact .nil
  | cons a l ih =>
    have hrest := ih (fun b hb => hyes b (.tail _ hb)) (fun b hb => hno b (.tail _ hb))
    rw [List.filter_cons, List.filterMap_cons]
    by_cases ha : p a = true
    · obtain ⟨b, hb, hr⟩ := hyes a (.head _) ha
      rw [if_pos ha, hb]
      exact .cons hr hrest
    · rw [if_neg ha, hno a (.head _) (Bool.eq_false_iff.mpr ha)]
      exact hrest

section Spots

variable {text : List Char} {spots : List Spot}

/-- Each lexeme of some spots has its token, in the order of the spots. -/
theorem forall₂_tokens_of_spots (h : ∀ s ∈ spots, s.In text) :
    List.Forall₂ Spot.Yields (spots.filter (·.segment.isLexeme))
      (((spots.map Spot.piece).filterMap Piece.finding?).filterMap Finding.token?) := by
  rw [List.filterMap_map, List.filterMap_filterMap]
  refine forall₂_filterMap (fun s hs hlexeme => ?_) (fun s hs hlexeme => ?_)
  · obtain ⟨t, hmeans, ht⟩ := Spot.finding?_of_isLexeme (h s hs) hlexeme
    exact ⟨t, by simp [hmeans, Finding.token?], ht⟩
  · by_cases hfault : s.segment.isFault = true
    · obtain ⟨e, hmeans, -⟩ := Spot.finding?_of_isFault (h s hs) hfault
      simp [hmeans, Finding.token?]
    · simp [Spot.finding?_of_silent hlexeme (Bool.eq_false_iff.mpr hfault)]

/-- Each fault of some spots has its error, in the order of the spots. -/
theorem forall₂_errors_of_spots (h : ∀ s ∈ spots, s.In text) :
    List.Forall₂ (Spot.Fails text) (spots.filter (·.segment.isFault))
      (((spots.map Spot.piece).filterMap Piece.finding?).filterMap Finding.error?) := by
  rw [List.filterMap_map, List.filterMap_filterMap]
  refine forall₂_filterMap (fun s hs hfault => ?_) (fun s hs hfault => ?_)
  · obtain ⟨e, hmeans, he⟩ := Spot.finding?_of_isFault (h s hs) hfault
    exact ⟨e, by simp [hmeans, Finding.error?], he⟩
  · by_cases hlexeme : s.segment.isLexeme = true
    · obtain ⟨t, hmeans, -⟩ := Spot.finding?_of_isLexeme (h s hs) hlexeme
      simp [hmeans, Finding.error?]
    · simp [Spot.finding?_of_silent (Bool.eq_false_iff.mpr hlexeme) hfault]

end Spots

/-- The tokens of a scan that stand for lexemes. -/
def Scan.lexemes (s : Scan) : List Token :=
  s.tokens.dropLast

/-- What is related to filtered spots is related to filtered segments, where the relation is one
of segments. -/
theorem forall₂_segments {α : Type} {r : Segment → α → Prop} {p : Segment → Bool}
    {segments : List Segment} {l : List α}
    (h : List.Forall₂ (fun s => r s.segment) ((Source.spots segments).filter (p ·.segment)) l) :
    List.Forall₂ r (segments.filter p) l := by
  have hmap : segments.filter p =
      ((Source.spots segments).filter (p ·.segment)).map Spot.segment := by
    rw [← Function.comp_def, ← List.filter_map, Source.spots, Source.map_segment_spotsFrom]
  rw [hmap, List.forall₂_map_left_iff]
  exact h

section Scan

variable (source : String)

theorem tokens_scan :
    (scan source).tokens =
      (scan source).lexemes ++ [Token.eof (1 + lineFeeds source.toList)] := by
  have hstop : (Source.stop Position.start (Source.pieces source.toList)).line =
      1 + lineFeeds source.toList := by
    rw [Source.stop_pieces]
    rfl
  rw [Scan.lexemes, scan_eq_ofPieces, Scan.ofPieces, hstop, Scan.ofFindings]
  simp

theorem forall₂_tokens :
    List.Forall₂ Spot.Yields
      ((Source.spots (Source.cut source.toList)).filter (·.segment.isLexeme))
      (scan source).lexemes := by
  have h := forall₂_tokens_of_spots (Source.in_spots_cut source.toList)
  rw [← Source.pieces_eq] at h
  rw [Scan.lexemes, scan_eq_ofPieces, Scan.ofPieces, Scan.ofFindings]
  simpa using h

theorem forall₂_errors :
    List.Forall₂ (Spot.Fails source.toList)
      ((Source.spots (Source.cut source.toList)).filter (·.segment.isFault))
      (scan source).errors := by
  have h := forall₂_errors_of_spots (Source.in_spots_cut source.toList)
  rw [← Source.pieces_eq] at h
  rw [scan_eq_ofPieces]
  exact h

theorem forall₂_yields :
    List.Forall₂ Segment.Yields ((Source.cut source.toList).filter Segment.isLexeme)
      (scan source).lexemes :=
  forall₂_segments ((forall₂_tokens source).imp fun _ _ h => h.1)

theorem forall₂_fails :
    List.Forall₂ Segment.Fails ((Source.cut source.toList).filter Segment.isFault)
      (scan source).errors :=
  forall₂_segments ((forall₂_errors source).imp fun _ _ h => h.1)

end Scan

/-- A source has one cut into segments that obeys the grammar, and the scan of a new scanner
reports it: the tokens stand for the lexemes of the cut in their order, and the token for the end
of the source comes last; the errors stand for its faults in their order. -/
theorem scan_reports_only_cut (source : String) :
    ∃ segments, Source.IsCut source.toList segments ∧
      (∀ other, Source.IsCut source.toList other → other = segments) ∧
      (∃ tokens line, (Scanner.ofSource source).scan.1.tokens = tokens ++ [Token.eof line] ∧
        List.Forall₂ Segment.Yields (segments.filter Segment.isLexeme) tokens) ∧
      List.Forall₂ Segment.Fails (segments.filter Segment.isFault)
        (Scanner.ofSource source).scan.2.errors := by
  have hcut : Source.IsCut source.toList (Source.cut source.toList) := Source.isCut_iff.mpr rfl
  refine ⟨Source.cut source.toList, hcut, fun other hother => ?_,
    ⟨_, _, tokens_scan source, forall₂_yields source⟩, forall₂_fails source⟩
  exact Source.isCut_iff.mp hother

/-- A word goes on through letters beyond ASCII, and a number of another script is stray. -/
example : (scan "naïve½").tokens.map Token.dump = ["IDENTIFIER naïve null", "EOF  null"] ∧
    (scan "naïve½").errors = [.unexpectedCharacter '½' 1] := by
  decide +kernel

end Loxeme
