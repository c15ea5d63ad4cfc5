import Loxeme.Proofs.Lexemes

/-!
# Lexemes with blanks between them

Where each lexeme has a blank behind it, no lexeme goes on into the next one, whatever the two are.
So a text of lexemes that is laid out in this way is read back as the same lexemes, each with the
kind and the value that it has by itself.

* `IsLexeme`: the spellings of the tokens.
* `Layout`: lexemes with blanks around them.
* `Segment.Fits.of_isBlank`: what ends in front of some text ends in front of a blank.
* `Source.exists_lawful_items`: the segments of lexemes with gaps behind them.
* `Source.cut_layout`: the lexemes of a layout are its segments again.
* `Segment.Yields.content_eq`: a segment has one kind, lexeme and value.
* `scan_layout`: a layout is read back, and so is each layout of what a scan has found.
-/

namespace Loxeme

/-! ## Spellings and layouts -/

/-- The spellings of the tokens of a source. -/
inductive IsLexeme : List Char → Prop
  | symbol (s : Symbol) : IsLexeme s.chars
  | keyword (k : Keyword) : IsLexeme k.spelling.toList
  | word {text : List Char} (h : IsWord text) : IsLexeme text
  | whole {digits : List Char} (h : IsDigits digits) : IsLexeme digits
  | fraction {digits fraction : List Char} (h : IsDigits digits) (h' : IsDigits fraction) :
    IsLexeme (digits ++ '.' :: fraction)
  | quoted {body : List Char} (h : '"' ∉ body) : IsLexeme ('"' :: (body ++ ['"']))

/-- A text of blanks, perhaps of none. -/
def IsGap (text : String) : Prop :=
  ∀ c ∈ text.toList, isBlank c = true

instance (text : String) : Decidable (IsGap text) :=
  decidable_of_iff (text.toList.all isBlank = true) List.all_eq_true

/-- Lexemes in their order, with blanks before the first one and behind each one. There is at least
one blank between two neighbours. -/
structure Layout where
  before : String
  /-- The lexemes, each with the blanks behind it. -/
  items : List (String × String)
  isGap_before : IsGap before
  isGap_behind : ∀ i ∈ items, IsGap i.2
  separated : ∀ i ∈ items.dropLast, i.2 ≠ ""

namespace Layout

/-- The lexemes of a layout. -/
def lexemes (l : Layout) : List String :=
  l.items.map Prod.fst

/-- The text of a layout. -/
def text (l : Layout) : String :=
  l.before ++ String.join (l.items.map fun i => i.1 ++ i.2)

end Layout

/-- What a token is, wherever it stands. -/
def Token.content (t : Token) : Kind × String × Option Literal :=
  (t.kind, t.lexeme, t.literal)

/-! ## Spellings of segments -/

theorem Keyword.isWord_spelling (k : Keyword) : IsWord k.spelling.toList := by
  have hletters : ∀ c ∈ k.spelling.toList, c.isAlpha = true :=
    List.all_eq_true.mp (by cases k <;> decide)
  cases h : k.spelling.toList with
  | nil => cases k <;> cases h
  | cons c tail =>
    rw [h] at hletters
    refine ⟨c, tail, rfl, isLetter_of_isAlpha (hletters c (.head _)), fun d hd => ?_⟩
    rw [isWordPart, isLetter_of_isAlpha (hletters d (.tail _ hd))]
    rfl

namespace Segment

theorem isFault_eq_false_of_isLexeme {g : Segment} (h : g.isLexeme = true) :
    g.isFault = false := by
  cases g with
  | stray c => cases h
  | unclosed body => cases h
  | _ => rfl

/-- The segment of a spelling, which may stand at the end of a text. -/
theorem exists_of_isLexeme {text : List Char} (h : IsLexeme text) :
    ∃ g : Segment, g.chars = text ∧ g.isLexeme = true ∧ g.Fits [] := by
  cases h with
  | symbol s => exact ⟨.symbol s, rfl, rfl, by cases s <;> simp [Fits, Symbol.Ends]⟩
  | keyword k => exact ⟨.word _, rfl, rfl, k.isWord_spelling, by simp⟩
  | word h => exact ⟨.word text, rfl, rfl, h, by simp⟩
  | whole h => exact ⟨.number text none, rfl, rfl, h, by simp, fun ⟨_, _, he, _⟩ => nomatch he⟩
  | fraction h h' => exact ⟨.number _ (some _), rfl, rfl, h, h', by simp⟩
  | quoted h => exact ⟨.quoted _, rfl, rfl, h⟩

/-- The text of a segment that is a token is a spelling. -/
theorem isLexeme_chars {g : Segment} {rest : List Char} (hg : g.Fits rest)
    (h : g.isLexeme = true) : IsLexeme g.chars := by
  cases g with
  | symbol s => exact .symbol s
  | quoted body => exact .quoted hg
  | number whole fraction =>
    cases fraction with
    | none => exact .whole hg.1
    | some fraction => exact .fraction hg.1 hg.2.1
  | word spelling => exact .word hg.1
  | _ => cases h

/-- No token goes on with a blank: what fits at the end of a text fits in front of blanks. -/
theorem Fits.of_isBlank {g : Segment} {rest : List Char} (hg : g.Fits [])
    (h : g.isLexeme = true) (hrest : ∀ c ∈ rest.head?, isBlank c = true) : g.Fits rest := by
  refine hg.append_blank hrest (fun body he => ?_) (.inr fun body he => ?_) <;>
    (rw [he] at h; cases h)

/-- A segment that is a token has one kind, lexeme and value. -/
theorem Yields.content_eq {g : Segment} {t u : Token} (ht : g.Yields t) (hu : g.Yields u) :
    t.content = u.content := by
  have hkeyword : ∀ {k l : Keyword}, k.spelling.toList = l.spelling.toList → k = l :=
    Keyword.spelling_toList_injective
  cases ht with
  | keyword k line =>
    -- The same spelling is that of one keyword, and no name is spelled like a keyword.
    generalize hspelling : k.spelling.toList = spelling at hu
    cases hu with
    | keyword l line' => rw [hkeyword hspelling]; rfl
    | name h line' => exact absurd hspelling (h k)
  | name h line =>
    cases hu with
    | keyword l line' => exact absurd rfl (h l)
    | name h' line' => rfl
  | _ => cases hu; rfl

end Segment

/-! ## The cut of a layout -/

namespace Source

/-- Blanks in front of segments are segments of their own. -/
theorem exists_lawful_gap {gap : String} (hgap : IsGap gap) {segments : List Segment}
    (h : Lawful segments) :
    ∃ blanks : List Segment, blanks.flatMap Segment.chars = gap.toList ∧
      blanks.filter Segment.isLexeme = [] ∧ Clean blanks ∧ Lawful (blanks ++ segments) := by
  unfold IsGap at hgap
  generalize gap.toList = chars at hgap
  induction chars with
  | nil => exact ⟨[], rfl, rfl, clean_nil, h⟩
  | cons c chars ih =>
    obtain ⟨blanks, htext, hnone, hclean, hlawful⟩ := ih fun d hd => hgap d (.tail _ hd)
    refine ⟨.blank c :: blanks, ?_, hnone, clean_cons.mpr ⟨rfl, hclean⟩, hgap c (.head _), hlawful⟩
    rw [List.flatMap_cons, htext]
    rfl

/-- Segments of spellings with blanks behind each are lawful: the tokens among them are those of
the spellings, and there is no fault. -/
theorem exists_lawful_items {segments : List Segment} {items : List (String × String)}
    (hitems : items.map Prod.fst = segments.map fun g => String.ofList g.chars)
    (hfits : ∀ g ∈ segments, g.isLexeme = true ∧ g.Fits [])
    (hgap : ∀ i ∈ items, IsGap i.2) (hseparated : ∀ i ∈ items.dropLast, i.2 ≠ "") :
    ∃ all : List Segment,
      all.flatMap Segment.chars = (String.join (items.map fun i => i.1 ++ i.2)).toList ∧
      all.filter Segment.isLexeme = segments ∧ Clean all ∧ Lawful all := by
  induction items generalizing segments with
  | nil =>
    obtain rfl := List.map_eq_nil_iff.mp hitems.symm
    exact ⟨[], rfl, rfl, clean_nil, lawful_nil⟩
  | cons i items ih =>
    obtain ⟨g, segments, rfl, hg, hsegments⟩ := List.map_eq_cons_iff.mp hitems.symm
    obtain ⟨hlexeme, hend⟩ := hfits g (.head _)
    have hlater : ∀ j ∈ items.dropLast, j.2 ≠ "" := by
      intro j hj
      cases items with
      | nil => cases hj
      | cons k items => exact hseparated j (.tail _ hj)
    obtain ⟨all, htext, htokens, hclean, hlawful⟩ := ih hsegments.symm
      (fun f hf => hfits f (.tail _ hf)) (fun j hj => hgap j (.tail _ hj)) hlater
    obtain ⟨blanks, hblanks, hnone, hcleanBlanks, hlawful⟩ :=
      exists_lawful_gap (hgap i (.head _)) hlawful
    -- A blank comes behind the lexeme unless it is the last one.
    have hhead : ∀ c ∈ ((blanks ++ all).flatMap Segment.chars).head?, isBlank c = true := by
      intro c hc
      rw [List.flatMap_append, hblanks, htext] at hc
      cases hi : i.2.toList with
      | cons d gap =>
        rw [hi] at hc
        obtain rfl := Option.some.inj hc
        exact hgap i (.head _) _ (hi ▸ .head _)
      | nil =>
        cases items with
        | nil =>
          rw [hi] at hc
          cases hc
        | cons k items => exact absurd (String.toList_eq_nil_iff.mp hi) (hseparated i (.head _))
    refine ⟨g :: (blanks ++ all), ?_, ?_, ?_, hend.of_isBlank hlexeme hhead, hlawful⟩
    · rw [List.flatMap_cons, List.flatMap_append, hblanks, htext, List.map_cons, String.join_cons,
        String.toList_append, String.toList_append, ← hg, String.toList_ofList, List.append_assoc]
    · rw [List.filter_cons_of_pos hlexeme, List.filter_append, hnone, htokens, List.nil_append]
    · exact clean_cons.mpr ⟨Segment.isFault_eq_false_of_isLexeme hlexeme,
        clean_append.mpr ⟨hcleanBlanks, hclean⟩⟩

/-- The tokens in a layout of spellings are those of the spellings, and there is no fault. -/
theorem cut_layout {segments : List Segment} (l : Layout)
    (h : l.lexemes = segments.map fun g => String.ofList g.chars)
    (hfits : ∀ g ∈ segments, g.isLexeme = true ∧ g.Fits []) :
    (cut l.text.toList).filter Segment.isLexeme = segments ∧ Clean (cut l.text.toList) := by
  obtain ⟨all, htext, htokens, hclean, hlawful⟩ :=
    exists_lawful_items h hfits l.isGap_behind l.separated
  obtain ⟨blanks, hblanks, hnone, hcleanBlanks, hlawful⟩ := exists_lawful_gap l.isGap_before hlawful
  have hcut : cut l.text.toList = blanks ++ all := by
    rw [cut_eq_iff, List.flatMap_append, hblanks, htext, Layout.text, String.toList_append]
    exact ⟨rfl, hlawful⟩
  rw [hcut, List.filter_append, hnone, htokens, List.nil_append]
  exact ⟨rfl, clean_append.mpr ⟨hcleanBlanks, hclean⟩⟩

end Source

/-! ## The scan of a layout -/

/-- A token is what its lexeme is by itself: the lexeme alone is read without an error as one token
of the same kind, lexeme and value. -/
def Token.ReadsAs (lexeme : String) (t : Token) : Prop :=
  t.lexeme = lexeme ∧ (scan lexeme).errors = [] ∧
    ∃ own line, (scan lexeme).tokens = [own, Token.eof line] ∧ own.content = t.content

namespace Segment

theorem Yields.lexeme_eq {g : Segment} {t : Token} (h : g.Yields t) :
    t.lexeme = String.ofList g.chars := by
  cases h with
  | keyword k line => exact String.ofList_toList.symm
  | _ => rfl

/-- The token of a segment is what the text of the segment is by itself. -/
theorem Yields.readsAs {g : Segment} {t : Token} (ht : g.Yields t) (hlexeme : g.isLexeme = true)
    (hend : g.Fits []) : t.ReadsAs (String.ofList g.chars) := by
  have hcut : Source.cut (String.ofList g.chars).toList = [g] := by
    rw [String.toList_ofList]
    exact Source.cut_eq_iff.mpr ⟨List.flatMap_singleton .., hend, Source.lawful_nil⟩
  have hclean : Source.Clean [g] :=
    Source.clean_cons.mpr ⟨isFault_eq_false_of_isLexeme hlexeme, Source.clean_nil⟩
  have hyields := forall₂_yields (String.ofList g.chars)
  rw [hcut, List.filter_cons_of_pos hlexeme] at hyields
  obtain ⟨own, u, hown, hnil, hall⟩ := List.forall₂_cons_left_iff.mp hyields
  obtain rfl := List.forall₂_nil_left_iff.mp hnil
  have htokens := tokens_scan (String.ofList g.chars)
  rw [hall] at htokens
  exact ⟨ht.lexeme_eq, (errors_eq_nil_iff _).mpr (hcut ▸ hclean), own, _, htokens,
    hown.content_eq ht⟩

end Segment

section Scan

variable {segments : List Segment} {l : Layout}

/-- The tokens of a layout stand for the segments of its spellings. -/
theorem forall₂_yields_layout (h : l.lexemes = segments.map fun g => String.ofList g.chars)
    (hfits : ∀ g ∈ segments, g.isLexeme = true ∧ g.Fits []) :
    (scan l.text).errors = [] ∧ List.Forall₂ Segment.Yields segments (scan l.text).lexemes := by
  obtain ⟨htokens, hclean⟩ := Source.cut_layout l h hfits
  exact ⟨(errors_eq_nil_iff _).mpr hclean, htokens ▸ forall₂_yields l.text⟩

/-- The segments of spellings. -/
theorem exists_segments_of_isLexeme {lexemes : List String}
    (h : ∀ lexeme ∈ lexemes, IsLexeme lexeme.toList) :
    ∃ segments : List Segment, lexemes = segments.map (fun g => String.ofList g.chars) ∧
      ∀ g ∈ segments, g.isLexeme = true ∧ g.Fits [] := by
  induction lexemes with
  | nil => exact ⟨[], rfl, fun _ hg => nomatch hg⟩
  | cons lexeme lexemes ih =>
    obtain ⟨segments, rfl, hsegments⟩ := ih fun m hm => h m (.tail _ hm)
    obtain ⟨g, hchars, hg⟩ := Segment.exists_of_isLexeme (h lexeme (.head _))
    refine ⟨g :: segments, ?_, List.forall_mem_cons.mpr ⟨hg, hsegments⟩⟩
    rw [List.map_cons, hchars, String.ofList_toList]

/-- The segments of a source that are tokens may each stand at the end of a text. -/
theorem fits_nil_of_mem_cut {text : List Char} :
    ∀ g ∈ (Source.cut text).filter Segment.isLexeme, g.isLexeme = true ∧ g.Fits [] := by
  intro g hg
  obtain ⟨hmem, hlexeme⟩ := List.mem_filter.mp hg
  obtain ⟨a, b, hcut⟩ := List.append_of_mem hmem
  have hfits := (hcut ▸ Source.lawful_cut text : Source.Lawful (a ++ g :: b)).right.1
  exact ⟨hlexeme, @Segment.Fits.of_append g [] _ hfits⟩

/-- Tokens that stand for the same segments are the same, wherever they stand. -/
theorem map_content_eq_of_yields {tokens others : List Token}
    (h : List.Forall₂ Segment.Yields segments tokens)
    (h' : List.Forall₂ Segment.Yields segments others) :
    tokens.map Token.content = others.map Token.content := by
  induction h generalizing others with
  | nil =>
    obtain rfl := List.forall₂_nil_left_iff.mp h'
    rfl
  | cons ht _ ih =>
    obtain ⟨u, others, hu, hothers, rfl⟩ := List.forall₂_cons_left_iff.mp h'
    rw [List.map_cons, List.map_cons, ht.content_eq hu, ih hothers]

theorem map_lexeme_of_yields {tokens : List Token}
    (h : List.Forall₂ Segment.Yields segments tokens) :
    tokens.map Token.lexeme = segments.map fun g => String.ofList g.chars :=
  map_eq_map_of_forall₂ h fun _ _ ht => ht.lexeme_eq

end Scan

/-- Spellings that are laid out with blanks between them are read back: there is no error, and the
tokens are the spellings in their order, each with the kind and the value that it has alone, and
then the one for the end of the source. The lexemes that a scan has found are spellings, whether or
not it has met errors. So in each layout they are read back as the tokens that they were, except
for the lines. -/
theorem scan_layout (l : Layout) :
    ((∀ lexeme ∈ l.lexemes, IsLexeme lexeme.toList) →
      (scan l.text).errors = [] ∧ ∃ tokens line, (scan l.text).tokens = tokens ++ [Token.eof line] ∧
        List.Forall₂ Token.ReadsAs l.lexemes tokens) ∧
    ∀ source, l.lexemes = (scan source).lexemes.map Token.lexeme →
      (∀ lexeme ∈ l.lexemes, IsLexeme lexeme.toList) ∧ (scan l.text).errors = [] ∧
        (scan l.text).tokens.map Token.content = (scan source).tokens.map Token.content := by
  constructor
  · intro h
    obtain ⟨segments, hl, hfits⟩ := exists_segments_of_isLexeme h
    obtain ⟨herrors, hyields⟩ := forall₂_yields_layout hl hfits
    refine ⟨herrors, _, _, tokens_scan l.text, ?_⟩
    rw [hl, List.forall₂_map_left_iff]
    exact ((List.forall₂_and_left _ _).mpr ⟨hfits, hyields⟩).imp
      fun g t ⟨⟨hlexeme, hend⟩, ht⟩ => ht.readsAs hlexeme hend
  · intro source h
    have hsource := forall₂_yields source
    have hl := h.trans (map_lexeme_of_yields hsource)
    obtain ⟨herrors, hyields⟩ := forall₂_yields_layout hl fits_nil_of_mem_cut
    refine ⟨fun lexeme hlexeme => ?_, herrors, ?_⟩
    · rw [hl] at hlexeme
      obtain ⟨g, hg, rfl⟩ := List.mem_map.mp hlexeme
      obtain ⟨htoken, hend⟩ := fits_nil_of_mem_cut g hg
      rw [String.toList_ofList]
      exact Segment.isLexeme_chars hend htoken
    · rw [tokens_scan, tokens_scan source, List.map_append, List.map_append,
        map_content_eq_of_yields hyields hsource]
      rfl

/-- A number and a point that a digit follows, two slashes, and a text that looks like a comment. -/
theorem scan_layout_of_slashes :
    ∃ l : Layout, l.text = " 1.2\t. 3\n/\r\n/ \"// \n\"" ∧
      (∀ lexeme ∈ l.lexemes, IsLexeme lexeme.toList) ∧
      (∃ tokens line, (scan l.text).tokens = tokens ++ [Token.eof line] ∧
        List.Forall₂ Token.ReadsAs ["1.2", ".", "3", "/", "/", "\"// \n\""] tokens) ∧
      l.lexemes = (scan "1.2.3/@/\"// \n\"\"").lexemes.map Token.lexeme ∧
      (scan l.text).tokens.map Token.content =
        (scan "1.2.3/@/\"// \n\"\"").tokens.map Token.content := by
  let l : Layout :=
    { before := " "
      items := [("1.2", "\t"), (".", " "), ("3", "\n"), ("/", "\r\n"), ("/", " "),
        ("\"// \n\"", "")]
      isGap_before := by decide
      isGap_behind := by decide
      separated := by decide }
  have hlexemes : l.lexemes = (scan "1.2.3/@/\"// \n\"\"").lexemes.map Token.lexeme := by
    decide +kernel
  obtain ⟨hspelled, -, hcontent⟩ := (scan_layout l).2 _ hlexemes
  exact ⟨l, by decide +kernel, hspelled, ((scan_layout l).1 hspelled).2, hlexemes, hcontent⟩

end Loxeme
