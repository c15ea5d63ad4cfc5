import Loxeme.Proofs.LineJoin
import Loxeme.Proofs.Lookahead
import Mathlib.Logic.Relation

/-!
# Edits that change nothing

A comment may be deleted or reworded, and a carriage return put before a line feed or taken away
there, if the line feed is not in a string. Whatever of this is done to a source, and how often, its
scan stays the same.

* `Source.Edit`: one such edit.
* `Source.core`: the segments of a text but for those that mean nothing and end no line.
* `scan_eq_core`: a scan depends on the core of its source alone.
* `Source.Edit.core_eq`: an edit keeps the core.
* `scan_eq_of_edits`: any number of edits keeps the scan.
-/

namespace Loxeme

/-! ## Edits -/

namespace Source

/-- Between two texts there is a comment, with some text behind its slashes. Which slashes start one
is a matter of the whole text. -/
def CommentAt (before body rest : List Char) : Prop :=
  ∃ a b, IsCut (before ++ '/' :: '/' :: (body ++ rest)) (a ++ .comment body :: b) ∧
    a.flatMap Segment.chars = before

/-- The character of a text behind so many others is in a string, which may be closed or not. -/
def InString (text : List Char) (i : Nat) : Prop :=
  ∃ segments, IsCut text segments ∧ ∃ s ∈ spots segments, s.segment.isQuote = true ∧
    s.before.length ≤ i ∧ i < (s.before ++ s.segment.chars).length

instance (text : List Char) (i : Nat) : Decidable (InString text i) :=
  decidable_of_iff (∃ s ∈ spots (cut text), s.segment.isQuote = true ∧ s.before.length ≤ i ∧
      i < (s.before ++ s.segment.chars).length)
    ⟨fun h => ⟨_, isCut_iff.mpr rfl, h⟩, fun ⟨_, hcut, h⟩ => isCut_iff.mp hcut ▸ h⟩

/-- An edit of a text that keeps what the text means. -/
inductive Edit : List Char → List Char → Prop
  /-- A comment is deleted up to the end of its line. -/
  | deleteComment {before body rest : List Char} (h : CommentAt before body rest) :
    Edit (before ++ '/' :: '/' :: (body ++ rest)) (before ++ rest)
  /-- The text behind the slashes of a comment is replaced by another one of one line. -/
  | rewordComment {before body body' rest : List Char} (h : CommentAt before body rest)
    (hbody : '\n' ∉ body') :
    Edit (before ++ '/' :: '/' :: (body ++ rest)) (before ++ '/' :: '/' :: (body' ++ rest))
  /-- A carriage return is put before a line feed that is in no string. -/
  | insertReturn {before rest : List Char}
    (h : ¬InString (before ++ '\n' :: rest) before.length) :
    Edit (before ++ '\n' :: rest) (before ++ '\r' :: '\n' :: rest)
  /-- The carriage return before a line feed that is in no string is taken away. -/
  | removeReturn {before rest : List Char}
    (h : ¬InString (before ++ '\r' :: '\n' :: rest) (before.length + 1)) :
    Edit (before ++ '\r' :: '\n' :: rest) (before ++ '\n' :: rest)

end Source

/-! ## What a scan depends on -/

/-- Whether a segment means nothing and ends no line. -/
def Segment.isTrivia : Segment → Bool
  | .comment _ => true
  | .blank c => c == '\r'
  | _ => false

theorem Segment.lineFeeds_of_isTrivia {g : Segment} {rest : List Char} (hg : g.Fits rest)
    (h : g.isTrivia = true) : lineFeeds g.chars = 0 := by
  refine List.count_eq_zero_of_not_mem fun hmem => ?_
  rcases eq_of_lineFeed_mem hg hmem with rfl | hquote
  · cases h
  · cases g with
    | quoted body => cases h
    | unclosed body => cases h
    | _ => cases hquote

theorem Piece.finding?_of_isTrivia {g : Segment} (h : g.isTrivia = true) (p q : Position) :
    finding? ⟨g, p, q⟩ = none := by
  cases g with
  | comment body => rfl
  | blank c => rfl
  | _ => cases h

theorem Finding.raiseLine_zero (f : Finding) : f.raiseLine 0 = f := by
  rcases f with t | e
  · rfl
  · cases e <;> rfl

/-- A segment means the same wherever it is on the same lines. -/
theorem Piece.finding?_of_line (g : Segment) {p p' q q' : Position} (hstart : q.line = p.line)
    (hstop : q'.line = p'.line) : finding? ⟨g, q, q'⟩ = finding? ⟨g, p, p'⟩ := by
  rw [finding?_raiseLine (n := 0) g hstart hstop]
  cases finding? ⟨g, p, p'⟩ with
  | none => rfl
  | some f => exact congrArg some f.raiseLine_zero

namespace Source

variable {segments a b : List Segment} {text before rest body body' : List Char}

/-- The segments of a text but for those that mean nothing and end no line. -/
def core (text : List Char) : List Segment :=
  (cut text).filter (!·.isTrivia)

/-- What means nothing and ends no line may be left out. -/
theorem findings_filter (h : Lawful segments) {p q : Position} (hline : q.line = p.line) :
    (place q (segments.filter (!·.isTrivia))).filterMap Piece.finding? =
      (place p segments).filterMap Piece.finding? := by
  induction segments generalizing p q with
  | nil => rfl
  | cons g segments ih =>
    rw [place_cons, List.filterMap_cons]
    by_cases hg : g.isTrivia = true
    · have hsame : q.line = (p.after g.chars).line := by
        rw [Position.after, Segment.lineFeeds_of_isTrivia h.1 hg]
        exact hline
      rw [List.filter_cons_of_neg (by simp [hg]), Piece.finding?_of_isTrivia hg]
      exact ih h.2 hsame
    · have hafter : (q.after g.chars).line = (p.after g.chars).line := by
        simp only [Position.after, hline]
      rw [List.filter_cons_of_pos (by simp [hg]), place_cons, List.filterMap_cons,
        Piece.finding?_of_line g hline hafter, ih h.2 hafter]

theorem lineFeeds_filter (h : Lawful segments) :
    lineFeeds ((segments.filter (!·.isTrivia)).flatMap Segment.chars) =
      lineFeeds (segments.flatMap Segment.chars) := by
  induction segments with
  | nil => rfl
  | cons g segments ih =>
    rw [List.flatMap_cons, lineFeeds_append]
    by_cases hg : g.isTrivia = true
    · rw [List.filter_cons_of_neg (by simp [hg]), Segment.lineFeeds_of_isTrivia h.1 hg,
        Nat.zero_add, ih h.2]
    · rw [List.filter_cons_of_pos (by simp [hg]), List.flatMap_cons, lineFeeds_append, ih h.2]

end Source

/-- The scan of a source is what its core means. -/
theorem scan_eq_core (source : String) :
    scan source = .ofFindings
      ((Source.place Position.start (Source.core source.toList)).filterMap Piece.finding?)
      (1 + lineFeeds ((Source.core source.toList).flatMap Segment.chars)) := by
  have hlawful := Source.lawful_cut source.toList
  rw [Source.core, Source.findings_filter hlawful rfl, Source.lineFeeds_filter hlawful,
    Source.flatMap_chars_cut, scan_eq_ofFindings]
  rfl

/-! ## What an edit keeps -/

namespace Source

variable {segments a b b' : List Segment} {text before rest body body' : List Char}

theorem core_of_lawful (h : Lawful segments) :
    core (segments.flatMap Segment.chars) = segments.filter (!·.isTrivia) := by
  rw [core, ← eq_cut_of_lawful h]

namespace Lawful

/-- Before what does not start with a line feed there is no comment. -/
theorem getLast?_ne_comment (h : Lawful (a ++ b)) {c : Char}
    (hb : (b.flatMap Segment.chars).head? = some c) (hc : c ≠ '\n') (body : List Char) :
    a.getLast? ≠ some (.comment body) := by
  intro hlast
  obtain ⟨a, rfl⟩ := List.getLast?_eq_some_iff.mp hlast
  rw [List.append_assoc] at h
  exact hc (h.right.1.2 c hb)

/-- What is behind some segments may be replaced by what starts with a blank, unless they end with a
comment. -/
theorem replace_blank (h : Lawful (a ++ b)) (hb : b ≠ []) (hb' : Lawful b')
    (hlast : ∀ body, a.getLast? ≠ some (.comment body))
    (hhead : ∀ c ∈ (b'.flatMap Segment.chars).head?, isBlank c = true) : Lawful (a ++ b') :=
  h.left.append_blank hb' (h.ne_unclosed hb) hlast hhead

/-- Segments stay lawful without a comment among them. -/
theorem deleteComment (h : Lawful (a ++ .comment body :: b)) : Lawful (a ++ b) := by
  obtain ⟨⟨-, hend⟩, hb⟩ := h.right
  refine h.replace_blank (List.cons_ne_nil _ _) hb (h.getLast?_ne_comment rfl (by decide))
    fun c hc => ?_
  obtain rfl := hend c hc
  rfl

/-- Segments stay lawful with another comment among them. -/
theorem rewordComment (h : Lawful (a ++ .comment body :: b)) (hbody : '\n' ∉ body') :
    Lawful (a ++ .comment body' :: b) := by
  obtain ⟨⟨-, hend⟩, hb⟩ := h.right
  have hslashes : ∀ body, (.comment body :: b).flatMap Segment.chars =
      [Segment.comment []].flatMap Segment.chars ++ (body ++ b.flatMap Segment.chars) := by
    simp [Segment.chars]
  -- What is before a comment sees its two slashes at most.
  have hempty : Lawful (a ++ [.comment []]) :=
    h.shorten ⟨⟨by simp, by simp⟩, lawful_nil⟩ (hslashes body)
  exact hempty.extend ⟨⟨hbody, hend⟩, hb⟩ (hslashes body') (by simp [Segment.chars])
    (by simp [Segment.chars])

/-- Segments stay lawful with a carriage return before a line feed, unless it is in a comment. -/
theorem insertReturn (h : Lawful (a ++ .blank '\n' :: b))
    (hlast : ∀ body, a.getLast? ≠ some (.comment body)) :
    Lawful (a ++ .blank '\r' :: .blank '\n' :: b) := by
  refine h.replace_blank (List.cons_ne_nil _ _) ⟨rfl, h.right⟩ hlast ?_
  rintro c ⟨⟩
  rfl

/-- Segments stay lawful without a carriage return before a line feed. -/
theorem removeReturn (h : Lawful (a ++ .blank '\r' :: .blank '\n' :: b)) :
    Lawful (a ++ .blank '\n' :: b) := by
  refine h.replace_blank (List.cons_ne_nil _ _) h.right.2 (h.getLast?_ne_comment rfl (by decide)) ?_
  rintro c ⟨⟩
  rfl

end Lawful

/-- A line feed in no string is a segment of its own. -/
theorem exists_lawful_of_not_inString (h : ¬InString (before ++ '\n' :: rest) before.length) :
    ∃ a b, Lawful (a ++ .blank '\n' :: b) ∧ a.flatMap Segment.chars = before ∧
      b.flatMap Segment.chars = rest := by
  obtain ⟨a, g, b, u, v, hcut, hg, hbefore, hrest⟩ :=
    exists_of_flatMap_chars (flatMap_chars_cut (before ++ '\n' :: rest))
  have hlawful := lawful_cut (before ++ '\n' :: rest)
  rw [hcut] at hlawful
  have hmem : '\n' ∈ g.chars := hg ▸ List.mem_append_right _ (.head _)
  rcases Segment.eq_of_lineFeed_mem hlawful.right.1 hmem with rfl | hquote
  · obtain ⟨rfl, hone⟩ | ⟨-, hone⟩ := List.append_eq_singleton_iff.mp hg.symm
    · obtain ⟨-, rfl⟩ := List.cons.inj hone
      rw [List.append_nil] at hbefore
      exact ⟨a, b, hlawful, hbefore, hrest⟩
    · cases hone
  · refine absurd ⟨_, isCut_iff.mpr rfl, ⟨a.flatMap Segment.chars, g⟩, ?_, hquote, ?_, ?_⟩ h
    · rw [hcut, spots, spotsFrom_append]
      exact List.mem_append_right _ (.head _)
    · rw [← hbefore, List.length_append]
      exact Nat.le_add_right _ _
    · rw [← hbefore, hg]
      simp only [List.length_append, List.length_cons]
      omega

/-- A carriage return before a line feed in no string is a segment of its own or the end of a
comment, and may be left out. -/
theorem Lawful.exists_without_return (h : Lawful (a ++ .blank '\n' :: b))
    (ha : a.flatMap Segment.chars = before ++ ['\r']) :
    ∃ a', Lawful (a' ++ .blank '\n' :: b) ∧ a'.flatMap Segment.chars = before := by
  obtain ⟨a, g, u, rfl, hg, hbefore⟩ := exists_last_of_flatMap_chars h.left ha
  have hmem : '\r' ∈ g.chars := hg ▸ List.mem_append_right _ (.head _)
  rw [List.append_assoc] at h
  rcases Segment.eq_of_isBlank_mem h.right.1 rfl hmem with rfl | ⟨body, rfl⟩ | hquote
  · have hends : [] ++ ['\r'] = u ++ ['\r'] := hg
    obtain ⟨rfl, -⟩ := List.append_inj' hends rfl
    rw [List.append_nil] at hbefore
    exact ⟨a, h.removeReturn, hbefore⟩
  · -- The carriage return is the last character of a comment, which is reworded without it.
    rcases List.eq_nil_or_concat body with rfl | ⟨body, c, rfl⟩
    · have hends : ['/'] ++ ['/'] = u ++ ['\r'] := hg
      cases (List.append_inj' hends rfl).2
    · rw [List.concat_eq_append] at hg h
      have hends : '/' :: '/' :: body ++ [c] = u ++ ['\r'] := hg
      obtain ⟨rfl, -⟩ := List.append_inj' hends rfl
      have hbody : '\n' ∉ body := fun hmem => h.right.1.1 (List.mem_append_left _ hmem)
      refine ⟨a ++ [.comment body], ?_, by simpa [Segment.chars] using hbefore⟩
      rw [List.append_assoc]
      exact h.rewordComment hbody
  · cases g with
    | quoted body => cases Segment.eq_quote_of_chars_quoted hg
    | unclosed body => cases h.right.eq_nil_of_unclosed
    | _ => cases hquote

theorem filter_trivia_cons {g : Segment} (hg : g.isTrivia = true) (a b : List Segment) :
    (a ++ g :: b).filter (!·.isTrivia) = (a ++ b).filter (!·.isTrivia) := by
  rw [List.filter_append, List.filter_cons_of_neg (by simp [hg]), ← List.filter_append]

/-- A comment of a text is one of the segments of a lawful cut. -/
theorem CommentAt.exists_lawful (h : CommentAt before body rest) :
    ∃ a b, Lawful (a ++ .comment body :: b) ∧ a.flatMap Segment.chars = before ∧
      b.flatMap Segment.chars = rest := by
  obtain ⟨a, b, ⟨htext, -, hlawful⟩, rfl⟩ := h
  exact ⟨a, b, hlawful, rfl, by simpa [Segment.chars] using htext⟩

theorem flatMap_chars_comment (a b : List Segment) (body : List Char) :
    (a ++ .comment body :: b).flatMap Segment.chars =
      a.flatMap Segment.chars ++ '/' :: '/' :: (body ++ b.flatMap Segment.chars) := by
  simp [Segment.chars]

theorem flatMap_chars_return (a b : List Segment) :
    (a ++ .blank '\r' :: .blank '\n' :: b).flatMap Segment.chars =
      a.flatMap Segment.chars ++ '\r' :: '\n' :: b.flatMap Segment.chars := by
  simp [Segment.chars]

theorem flatMap_chars_lineFeed (a b : List Segment) :
    (a ++ .blank '\n' :: b).flatMap Segment.chars =
      a.flatMap Segment.chars ++ '\n' :: b.flatMap Segment.chars := by
  simp [Segment.chars]

/-- A carriage return before a line feed keeps the core, in a comment or outside. -/
theorem core_insertReturn (h : Lawful (a ++ .blank '\n' :: b)) :
    core (a.flatMap Segment.chars ++ '\r' :: '\n' :: b.flatMap Segment.chars) =
      (a ++ .blank '\n' :: b).filter (!·.isTrivia) := by
  by_cases hlast : ∃ body, a.getLast? = some (.comment body)
  · -- Behind a comment the carriage return is no segment of its own: the comment takes it in.
    obtain ⟨body, hlast⟩ := hlast
    obtain ⟨a, rfl⟩ := List.getLast?_eq_some_iff.mp hlast
    rw [List.append_assoc, List.singleton_append] at h
    have hbody : '\n' ∉ body ++ ['\r'] := by
      simpa using h.right.1.1
    have htext : (a ++ [Segment.comment body]).flatMap Segment.chars ++
        '\r' :: '\n' :: b.flatMap Segment.chars =
          (a ++ .comment (body ++ ['\r']) :: .blank '\n' :: b).flatMap Segment.chars := by
      simp [Segment.chars]
    rw [htext, core_of_lawful (h.rewordComment hbody), List.append_assoc, List.singleton_append,
      filter_trivia_cons (g := .comment (body ++ ['\r'])) rfl,
      filter_trivia_cons (g := .comment body) rfl]
  · rw [← flatMap_chars_return, core_of_lawful (h.insertReturn (not_exists.mp hlast)),
      filter_trivia_cons rfl]

/-- An edit keeps the core of a text. -/
theorem Edit.core_eq {edited : List Char} (h : Edit text edited) : core edited = core text := by
  cases h with
  | deleteComment h =>
    obtain ⟨a, b, hlawful, rfl, rfl⟩ := h.exists_lawful
    rw [← flatMap_chars_comment, ← List.flatMap_append, core_of_lawful hlawful,
      core_of_lawful hlawful.deleteComment, filter_trivia_cons rfl]
  | rewordComment h hbody =>
    obtain ⟨a, b, hlawful, rfl, rfl⟩ := h.exists_lawful
    rw [← flatMap_chars_comment, ← flatMap_chars_comment, core_of_lawful hlawful,
      core_of_lawful (hlawful.rewordComment hbody), filter_trivia_cons rfl, filter_trivia_cons rfl]
  | insertReturn h =>
    obtain ⟨a, b, hlawful, rfl, rfl⟩ := exists_lawful_of_not_inString h
    rw [core_insertReturn hlawful, ← flatMap_chars_lineFeed, core_of_lawful hlawful]
  -- The other edit read backwards: both texts have the core of the one without the carriage return.
  | @removeReturn before rest h =>
    have htext : before ++ '\r' :: '\n' :: rest = (before ++ ['\r']) ++ '\n' :: rest := by simp
    have hlength : before.length + 1 = (before ++ ['\r']).length := by simp
    rw [htext, hlength] at h
    obtain ⟨a, b, hlawful, ha, rfl⟩ := exists_lawful_of_not_inString h
    obtain ⟨a, hlawful, rfl⟩ := hlawful.exists_without_return ha
    rw [core_insertReturn hlawful, ← flatMap_chars_lineFeed, core_of_lawful hlawful]

end Source

/-- Whatever edits of these are made to a source, and however many, its scan is the same. -/
theorem scan_eq_of_edits {source edited : String}
    (h : Relation.ReflTransGen (fun s t : String => Source.Edit s.toList t.toList) source edited) :
    scan edited = scan source := by
  induction h with
  | refl => rfl
  | tail _ hedit ih => rw [scan_eq_core, hedit.core_eq, ← scan_eq_core, ih]

/-- Behind a string that looks like one, a comment with a quote in it is deleted, and a carriage
return is put in its place. -/
theorem scan_eq_of_edits_of_comment :
    Source.CommentAt ['"', '/', '/', '"'] ['"', '@'] ['\n', '1'] ∧
      ¬Source.InString ['"', '/', '/', '"', '\n', '1'] 4 ∧
      scan "\"//\"\r\n1" = scan "\"//\"//\"@\n1" ∧
      (scan "\"//\"//\"@\n1").tokens.map Token.line = [1, 2, 2] := by
  have hcomment : Source.CommentAt ['"', '/', '/', '"'] ['"', '@'] ['\n', '1'] := by
    refine ⟨[.quoted ['/', '/']], [.blank '\n', .number ['1'] none], ?_, rfl⟩
    rw [Source.isCut_iff]
    decide +kernel
  have hreturn : ¬Source.InString ['"', '/', '/', '"', '\n', '1'] 4 := by decide +kernel
  have hdelete : Source.Edit "\"//\"//\"@\n1".toList "\"//\"\n1".toList :=
    .deleteComment hcomment
  have hinsert : Source.Edit "\"//\"\n1".toList "\"//\"\r\n1".toList :=
    @Source.Edit.insertReturn ['"', '/', '/', '"'] ['1'] hreturn
  exact ⟨hcomment, hreturn, scan_eq_of_edits (.tail (.single hdelete) hinsert), by decide +kernel⟩

end Loxeme
