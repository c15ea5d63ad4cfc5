import Loxeme.Proofs.Lexemes

/-!
# Line ends in a source without errors

A line feed in a source without errors is a blank, or it is inside of a quoted text. So a text that
is the beginning of such a source and ends with a line feed has no error of its own but a quote that
is not closed.

* `Segment.eq_of_isBlank_mem`, `Segment.eq_of_lineFeed_mem`: the segments that a blank, or a line
  feed, is in.
* `Source.exists_of_flatMap_chars`, `Source.exists_last_of_flatMap_chars`: where a character of a
  text is among its segments.
* `Source.SplitsAt`, `Source.splitsAt_of_flatMap_chars`: where a line feed is among segments.
* `Source.cut_upto_blank`, `Source.cut_upto_quoted`: the cut of the text up to a line feed.
-/

namespace Loxeme

namespace Segment

/-- Whether a segment is a quoted text, closed or not. -/
def isQuote : Segment → Bool
  | .quoted _ | .unclosed _ => true
  | _ => false

/-- A blank is a segment by itself, or it is inside of a comment or of a quoted text. -/
theorem eq_of_isBlank_mem {g : Segment} {rest : List Char} {c : Char} (hg : g.Fits rest)
    (hc : isBlank c = true) (h : c ∈ g.chars) :
    g = .blank c ∨ (∃ body, g = .comment body) ∨ g.isQuote = true := by
  have hdigit : isDigit c ≠ true := fun hd => by
    rw [isBlank_eq_false_of_isDigit hd] at hc
    cases hc
  have hpart : isWordPart c ≠ true := fun hp => by
    rw [isBlank_eq_false_of_isWordPart hp] at hc
    cases hc
  cases g with
  | blank d =>
    obtain rfl := List.mem_singleton.mp h
    exact .inl rfl
  | comment body => exact .inr (.inl ⟨body, rfl⟩)
  -- No character of these three kinds is a blank, so there is none among them.
  | symbol s =>
    have hnone : s.chars.all (!isBlank ·) = true := by cases s <;> rfl
    have := List.all_eq_true.mp hnone c h
    rw [hc] at this
    cases this
  | number whole fraction =>
    cases fraction with
    | none => exact absurd (hg.1.2 _ h) hdigit
    | some fraction =>
      rcases List.mem_append.mp h with hmem | hmem
      · exact absurd (hg.1.2 _ hmem) hdigit
      rcases List.mem_cons.mp hmem with rfl | hmem
      · cases hc
      · exact absurd (hg.2.1.2 _ hmem) hdigit
  | word spelling =>
    obtain ⟨d, tail, rfl, hletter, hparts⟩ := hg.1
    rcases List.mem_cons.mp h with rfl | hmem
    · rw [isLetter_eq_false_of_isBlank hc] at hletter
      cases hletter
    · exact absurd (hparts _ hmem) hpart
  | stray d =>
    obtain rfl := List.mem_singleton.mp h
    exact absurd (.inl hc) hg
  | _ => exact .inr (.inr rfl)

/-- A line feed is a segment by itself, or it is inside of a quoted text. -/
theorem eq_of_lineFeed_mem {g : Segment} {rest : List Char} (hg : g.Fits rest)
    (h : '\n' ∈ g.chars) : g = .blank '\n' ∨ g.isQuote = true := by
  rcases eq_of_isBlank_mem hg rfl h with hblank | ⟨body, rfl⟩ | hquote
  · exact .inl hblank
  · have hbody : '\n' ∈ body := by simpa [chars] using h
    exact absurd hbody hg.1
  · exact .inr hquote

/-- A quoted text ends with its quote. -/
theorem eq_quote_of_chars_quoted {body u : List Char} {c : Char}
    (h : (quoted body).chars = u ++ [c]) : c = '"' := by
  have hends : '"' :: body ++ ['"'] = u ++ [c] := h
  exact (List.cons.inj (List.append_inj' hends rfl).2).1.symm

end Segment

namespace Source

variable {segments : List Segment} {before rest : List Char}

/-- A character of a text is a character of one of its segments. -/
theorem exists_of_flatMap_chars {c : Char}
    (h : segments.flatMap Segment.chars = before ++ c :: rest) :
    ∃ a g b u v, segments = a ++ g :: b ∧ g.chars = u ++ c :: v ∧
      a.flatMap Segment.chars ++ u = before ∧ v ++ b.flatMap Segment.chars = rest := by
  induction segments generalizing before with
  | nil => cases before <;> cases h
  | cons g segments ih =>
    -- Behind the first segment the character is found by the induction.
    have hbehind : ∀ {u}, before = g.chars ++ u →
        segments.flatMap Segment.chars = u ++ c :: rest → ∃ a g' b u v,
          g :: segments = a ++ g' :: b ∧ g'.chars = u ++ c :: v ∧
            a.flatMap Segment.chars ++ u = before ∧ v ++ b.flatMap Segment.chars = rest := by
      rintro u rfl hu
      obtain ⟨a, g', b, w, v, rfl, hg', rfl, rfl⟩ := ih hu
      exact ⟨g :: a, g', b, w, v, rfl, hg', by simp, rfl⟩
    rw [List.flatMap_cons] at h
    rcases List.append_eq_append_iff.mp h with ⟨u, hbefore, hu⟩ | ⟨u, hu, hrest⟩
    · exact hbehind hbefore hu
    · -- With no text left of the first segment the character is the first one behind it.
      cases u with
      | nil => exact hbehind (u := []) (by simpa using hu.symm) (by simpa using hrest.symm)
      | cons d u =>
        obtain ⟨rfl, rfl⟩ := List.cons.inj hrest
        exact ⟨[], g, segments, before, u, rfl, hu, rfl, rfl⟩

/-- The last character of a text is the last one of its last segment. -/
theorem exists_last_of_flatMap_chars {text : List Char} {c : Char} (hlawful : Lawful segments)
    (h : segments.flatMap Segment.chars = text ++ [c]) :
    ∃ a g u, segments = a ++ [g] ∧ g.chars = u ++ [c] ∧ a.flatMap Segment.chars ++ u = text := by
  obtain ⟨a, g, b, u, v, rfl, hg, hbefore, hrest⟩ := exists_of_flatMap_chars h
  obtain ⟨rfl, hb⟩ := List.append_eq_nil_iff.mp hrest
  have hnone : b = [] := Classical.byContradiction fun hne =>
    chars_ne_nil_of_lawful (hlawful.right (a := a)).2 hne hb
  subst hnone
  exact ⟨a, g, u, rfl, hg, hbefore⟩

/-- A line feed of a text without errors is between two segments as a blank, or inside of a quoted
text. -/
inductive SplitsAt (before rest : List Char) : List Segment → Prop
  | blank {a b : List Segment} (hbefore : a.flatMap Segment.chars = before)
    (hrest : b.flatMap Segment.chars = rest) : SplitsAt before rest (a ++ .blank '\n' :: b)
  | quoted {a b : List Segment} {body body' : List Char}
    (hbefore : a.flatMap Segment.chars ++ '"' :: body = before)
    (hrest : body' ++ '"' :: b.flatMap Segment.chars = rest) :
    SplitsAt before rest (a ++ .quoted (body ++ '\n' :: body') :: b)

/-- What is before the last item of a list has each other item of it. -/
private theorem exists_of_concat_eq_append_cons {α : Type} {l m t : List α} {x y : α} (hne : y ≠ x)
    (h : l ++ [x] = m ++ y :: t) : ∃ u, t = u ++ [x] ∧ l = m ++ y :: u := by
  rcases List.eq_nil_or_concat t with rfl | ⟨u, z, rfl⟩
  · obtain ⟨-, hlast⟩ := List.append_inj' h rfl
    exact absurd (List.cons.inj hlast).1.symm hne
  · rw [List.concat_eq_append, ← List.cons_append, ← List.append_assoc] at h
    obtain ⟨hl, hlast⟩ := List.append_inj' h rfl
    obtain ⟨rfl, -⟩ := List.cons.inj hlast
    exact ⟨u, List.concat_eq_append, hl⟩

/-- Where a line feed is among segments without errors. -/
theorem splitsAt_of_flatMap_chars (hlawful : Lawful segments) (hclean : Clean segments)
    (h : segments.flatMap Segment.chars = before ++ '\n' :: rest) :
    SplitsAt before rest segments := by
  obtain ⟨a, g, b, u, v, rfl, hg, hbefore, hrest⟩ := exists_of_flatMap_chars h
  have hfault : g.isFault = false := hclean g (List.mem_append_right _ (.head _))
  have hmem : '\n' ∈ g.chars := hg ▸ List.mem_append_right _ (.head _)
  rcases Segment.eq_of_lineFeed_mem hlawful.right.1 hmem with rfl | hquote
  · obtain ⟨rfl, hone⟩ | ⟨-, hone⟩ := List.append_eq_singleton_iff.mp hg.symm
    · obtain ⟨-, rfl⟩ := List.cons.inj hone
      rw [List.append_nil] at hbefore
      exact .blank hbefore hrest
    · cases hone
  · cases g with
    | quoted body =>
      cases u with
      | nil => cases hg
      | cons q u =>
        obtain ⟨rfl, hbody⟩ := List.cons.inj hg
        -- The line feed is not the quote that ends the text, so that quote comes behind it.
        obtain ⟨w, rfl, rfl⟩ := exists_of_concat_eq_append_cons (by decide) hbody
        refine .quoted hbefore ?_
        rw [← hrest, List.append_assoc]
        rfl
    | unclosed body => cases hfault
    | _ => cases hquote

/-! ## Texts up to a line feed -/

variable {a b : List Segment} {body body' : List Char}

/-- The text up to a blank is cut as the whole text is. -/
theorem cut_upto_blank (h : Lawful (a ++ .blank '\n' :: b)) :
    cut (a.flatMap Segment.chars ++ ['\n']) = a ++ [.blank '\n'] := by
  have htext : (.blank '\n' :: b).flatMap Segment.chars =
      [Segment.blank '\n'].flatMap Segment.chars ++ b.flatMap Segment.chars := rfl
  exact cut_eq_iff.mpr ⟨List.flatMap_append, h.shorten ⟨rfl, lawful_nil⟩ htext⟩

/-- The text up to inside of a quoted text has a quote that is not closed. -/
theorem cut_upto_quoted (h : Lawful (a ++ .quoted (body ++ body') :: b)) :
    cut (a.flatMap Segment.chars ++ '"' :: body) = a ++ [.unclosed body] := by
  have hbody : '"' ∉ body ++ body' := h.right.1
  have hnot : '"' ∉ body := fun hmem => hbody (List.mem_append_left _ hmem)
  have htext : (.quoted (body ++ body') :: b).flatMap Segment.chars =
      [Segment.unclosed body].flatMap Segment.chars ++
        (body' ++ '"' :: b.flatMap Segment.chars) := by
    simp [Segment.chars]
  refine cut_eq_iff.mpr ⟨?_, h.shorten ⟨⟨hnot, rfl⟩, lawful_nil⟩ htext⟩
  rw [List.flatMap_append, List.flatMap_singleton]
  rfl

end Source

end Loxeme
