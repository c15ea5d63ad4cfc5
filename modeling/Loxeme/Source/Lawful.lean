import Loxeme.Source.Grammar

/-!
# Lawful cuts

A cut of a text is lawful if each segment obeys the grammar in front of the ones behind it. Each
text has one lawful cut. What a segment forbids behind it is at most two characters long, so that
a lawful cut stays one in front of most other texts.

* `Segment.Fits.of_append`, `Segment.Fits.append`, `Segment.Fits.append_blank`: in front of what
  else a segment fits.
* `Source.IsCut`: segments that are a text without a gap and obey the grammar.
* `Source.isCut_iff`: the segments that are read from left to right are such a cut, and there is no
  other.
* `Source.Lawful.shorten`, `Source.Lawful.extend`, `Source.Lawful.append_blank`: what is behind some
  segments may be cut short, made longer if it is more than a point, and started with a blank.
* `Source.cut_append`: the segments that stay when more text follows.
-/

namespace Loxeme

namespace Segment

/-! ## Longer and shorter texts behind a segment -/

/-- What a segment forbids behind it is seen in each text that has it: it fits in front of each
beginning of a text that it fits in front of. -/
theorem Fits.of_append {g : Segment} {rest more : List Char} (h : g.Fits (rest ++ more)) :
    g.Fits rest := by
  have hhead : ∀ {c}, c ∈ rest.head? → c ∈ (rest ++ more).head? := by
    intro c hc
    cases rest with
    | nil => cases hc
    | cons d rest => exact hc
  cases g with
  | comment body => exact ⟨h.1, fun c hc => h.2 c (hhead hc)⟩
  | symbol s => cases s <;> first | trivial | exact fun hc => h (hhead hc)
  | number whole fraction =>
    cases fraction with
    | none =>
      refine ⟨h.1, fun c hc => h.2.1 c (hhead hc), ?_⟩
      rintro ⟨d, tail, rfl, hd⟩
      exact h.2.2 ⟨d, tail ++ more, rfl, hd⟩
    | some fraction => exact ⟨h.1, h.2.1, fun c hc => h.2.2 c (hhead hc)⟩
  | word spelling => exact ⟨h.1, fun c hc => h.2 c (hhead hc)⟩
  | unclosed body => exact ⟨h.1, (List.append_eq_nil_iff.mp h.2).1⟩
  | blank c => exact h
  | quoted body => exact h
  | stray c => exact h

/-- A segment fits in front of each longer text too, if two characters follow it, or one that is no
point. -/
theorem Fits.append {g : Segment} {rest : List Char} (h : g.Fits rest) (hne : rest ≠ [])
    (hpoint : rest ≠ ['.']) (more : List Char) : g.Fits (rest ++ more) := by
  obtain ⟨c, tail, rfl⟩ := List.exists_cons_of_ne_nil hne
  cases g with
  | comment body => exact h
  | symbol s => cases s <;> exact h
  | number whole fraction =>
    cases fraction with
    | none =>
      refine ⟨h.1, h.2.1, ?_⟩
      rintro ⟨d, tail', he, hd⟩
      simp only [List.cons_append, List.cons.injEq] at he
      obtain ⟨rfl, he⟩ := he
      cases tail with
      | nil => exact hpoint rfl
      | cons e tail =>
        obtain ⟨rfl, -⟩ := List.cons.inj he
        exact h.2.2 ⟨e, tail, rfl, hd⟩
    | some fraction => exact h
  | word spelling => exact h
  | unclosed body => exact absurd h.2 (List.cons_ne_nil _ _)
  | blank c => exact h
  | quoted body => exact h
  | stray c => exact h

section Blank

variable {rest more : List Char} (hmore : ∀ c ∈ more.head?, isBlank c = true)

include hmore

/-- What comes next and is no blank came next before a blank was put behind. -/
private theorem head?_of_append_blank {c : Char} (hc : isBlank c = false)
    (h : (rest ++ more).head? = some c) : rest.head? = some c := by
  cases rest with
  | nil =>
    rw [hmore c h] at hc
    cases hc
  | cons d rest => exact h

/-- No character of a class comes next where none did, if no blank is of the class. -/
private theorem head?_not_append_blank {p : Char → Bool}
    (hp : ∀ c, p c = true → isBlank c = false) (h : ∀ c ∈ rest.head?, p c = false) :
    ∀ c ∈ (rest ++ more).head?, p c = false := by
  intro c hc
  rw [Bool.eq_false_iff]
  intro hpc
  rw [h c (head?_of_append_blank hmore (hp c hpc) hc)] at hpc
  cases hpc

private theorem fractionFollows_of_append_blank (h : FractionFollows (rest ++ more)) :
    FractionFollows rest := by
  obtain ⟨d, tail, he, hd⟩ := h
  have hpoint : rest.head? = some '.' :=
    head?_of_append_blank hmore (by decide) (congrArg List.head? he)
  obtain ⟨behind, rfl⟩ := List.head?_eq_some_iff.mp hpoint
  obtain ⟨-, he⟩ := List.cons.inj he
  have hdigit : behind.head? = some d :=
    head?_of_append_blank hmore (isBlank_eq_false_of_isDigit hd) (congrArg List.head? he)
  obtain ⟨tail', rfl⟩ := List.head?_eq_some_iff.mp hdigit
  exact ⟨d, tail', rfl, hd⟩

/-- What fits in front of a text fits in front of it with a blank behind it, but for a comment that
would take the blank in and a quote that is not closed. -/
theorem Fits.append_blank {g : Segment} (h : g.Fits rest) (hopen : ∀ body, g ≠ .unclosed body)
    (hcomment : rest ≠ [] ∨ ∀ body, g ≠ .comment body) : g.Fits (rest ++ more) := by
  have hdigit : (∀ c ∈ rest.head?, isDigit c = false) →
      ∀ c ∈ (rest ++ more).head?, isDigit c = false :=
    head?_not_append_blank hmore fun _ => isBlank_eq_false_of_isDigit
  cases g with
  | comment body =>
    -- What ends a comment is still behind it, unless that was the end of the text.
    obtain ⟨c, tail, rfl⟩ :=
      List.exists_cons_of_ne_nil (hcomment.resolve_right fun hne => hne body rfl)
    exact h
  | symbol s =>
    cases s <;> first | trivial | exact fun hc => h (head?_of_append_blank hmore (by decide) hc)
  | number whole fraction =>
    cases fraction with
    | none => exact ⟨h.1, hdigit h.2.1, mt (fractionFollows_of_append_blank hmore) h.2.2⟩
    | some fraction => exact ⟨h.1, h.2.1, hdigit h.2.2⟩
  | word spelling =>
    exact ⟨h.1, head?_not_append_blank hmore (fun _ => isBlank_eq_false_of_isWordPart) h.2⟩
  | unclosed body => exact absurd rfl (hopen body)
  | blank c => exact h
  | quoted body => exact h
  | stray c => exact h

end Blank

end Segment

/-! ## Lawful cuts -/

namespace Source

/-- Segments that obey the grammar, each in front of the ones behind it. -/
def Lawful : List Segment → Prop
  | [] => True
  | g :: segments => g.Fits (segments.flatMap Segment.chars) ∧ Lawful segments

@[simp] theorem lawful_nil : Lawful [] := trivial

theorem lawful_cons {g : Segment} {segments : List Segment} :
    Lawful (g :: segments) ↔ g.Fits (segments.flatMap Segment.chars) ∧ Lawful segments := Iff.rfl

theorem lawful_cut (text : List Char) : Lawful (cut text) := by
  induction text using cut_induction with
  | nil => simp
  | cons c text ih =>
    rw [cut_cons]
    refine ⟨?_, ih⟩
    rw [flatMap_chars_cut]
    exact Segment.fits_next c text

/-- There is no lawful cut of a text but the one that takes the longest segment each time. -/
theorem eq_cut_of_lawful {segments : List Segment} (h : Lawful segments) :
    segments = cut (segments.flatMap Segment.chars) := by
  induction segments with
  | nil => simp
  | cons g segments ih =>
    obtain ⟨hg, hrest⟩ := h
    obtain ⟨c, tail, hc⟩ := List.exists_cons_of_ne_nil (Segment.chars_ne_nil_of_fits hg)
    have hnext : Segment.next c (tail ++ segments.flatMap Segment.chars) =
        (g, segments.flatMap Segment.chars) := Segment.next_of_fits hg (by rw [hc]; rfl)
    rw [List.flatMap_cons, hc, List.cons_append, cut_cons, hnext, ← ih hrest]

/-- Segments are the cut of a text if they are the text and obey the grammar. -/
theorem cut_eq_iff {text : List Char} {segments : List Segment} :
    cut text = segments ↔ segments.flatMap Segment.chars = text ∧ Lawful segments := by
  constructor
  · rintro rfl
    exact ⟨flatMap_chars_cut text, lawful_cut text⟩
  · rintro ⟨rfl, h⟩
    exact (eq_cut_of_lawful h).symm

theorem chars_ne_nil_of_mem {segments : List Segment} (h : Lawful segments) {g : Segment}
    (hg : g ∈ segments) : g.chars ≠ [] := by
  induction segments with
  | nil => cases hg
  | cons f segments ih =>
    rcases List.mem_cons.mp hg with rfl | hg
    · exact Segment.chars_ne_nil_of_fits h.1
    · exact ih h.2 hg

/-- Segments that are a text, from left to right and without a gap, none of them empty and each of
them as the grammar has it. -/
structure IsCut (text : List Char) (segments : List Segment) : Prop where
  flatMap_chars : segments.flatMap Segment.chars = text
  chars_ne_nil : ∀ g ∈ segments, g.chars ≠ []
  lawful : Lawful segments

theorem isCut_iff {text : List Char} {segments : List Segment} :
    IsCut text segments ↔ segments = cut text := by
  constructor
  · rintro ⟨htext, -, hlawful⟩
    exact (cut_eq_iff.mpr ⟨htext, hlawful⟩).symm
  · rintro rfl
    have hlawful := lawful_cut text
    exact ⟨flatMap_chars_cut text, fun _ hg => chars_ne_nil_of_mem hlawful hg, hlawful⟩

theorem chars_ne_nil_of_lawful {segments : List Segment} (h : Lawful segments)
    (hne : segments ≠ []) : segments.flatMap Segment.chars ≠ [] := by
  cases segments with
  | nil => exact absurd rfl hne
  | cons g segments => simp [Segment.chars_ne_nil_of_fits h.1]

namespace Lawful

variable {a b b' : List Segment} {more : List Char}

theorem right (h : Lawful (a ++ b)) : Lawful b := by
  induction a with
  | nil => exact h
  | cons g a ih => exact ih h.2

/-- Nothing is behind a quote that is not closed. -/
theorem eq_nil_of_unclosed {body : List Char} (h : Lawful (.unclosed body :: b)) : b = [] :=
  Classical.byContradiction fun hne => chars_ne_nil_of_lawful h.2 hne h.1.2

/-- Nothing is behind a quote that is not closed, so that none is before something. -/
theorem ne_unclosed (h : Lawful (a ++ b)) (hb : b ≠ []) : ∀ body, .unclosed body ∉ a := by
  intro body hmem
  obtain ⟨l, m, rfl⟩ := List.append_of_mem hmem
  rw [List.append_assoc] at h
  have hnone : m ++ b = [] := h.right.eq_nil_of_unclosed
  exact hb (List.append_eq_nil_iff.mp hnone).2

/-- What is behind some segments may be replaced by what is a shorter text. -/
theorem shorten (h : Lawful (a ++ b)) (hb' : Lawful b')
    (ht : b.flatMap Segment.chars = b'.flatMap Segment.chars ++ more) : Lawful (a ++ b') := by
  induction a with
  | nil => exact hb'
  | cons g a ih =>
    rw [List.cons_append, lawful_cons, List.flatMap_append] at h ⊢
    obtain ⟨hg, ha⟩ := h
    rw [ht, ← List.append_assoc] at hg
    exact ⟨hg.of_append, ih ha⟩

theorem left (h : Lawful (a ++ b)) : Lawful a := by
  have hfront : Lawful (a ++ []) := h.shorten lawful_nil rfl
  rwa [List.append_nil] at hfront

/-- What is behind some segments may be replaced by what is a longer text, if it is more than a
point. -/
theorem extend (h : Lawful (a ++ b)) (hb' : Lawful b')
    (ht : b'.flatMap Segment.chars = b.flatMap Segment.chars ++ more)
    (hne : b.flatMap Segment.chars ≠ []) (hpoint : b.flatMap Segment.chars ≠ ['.']) :
    Lawful (a ++ b') := by
  induction a with
  | nil => exact hb'
  | cons g a ih =>
    rw [List.cons_append, lawful_cons, List.flatMap_append] at h ⊢
    obtain ⟨hg, ha⟩ := h
    rw [ht, ← List.append_assoc]
    refine ⟨hg.append (by simp [hne]) ?_ more, ih ha⟩
    -- One point is what follows only if nothing but `b` does.
    intro hp
    rcases List.append_eq_singleton_iff.mp hp with ⟨-, hb⟩ | ⟨-, hb⟩
    · exact hpoint hb
    · exact hne hb

/-- Segments that fit at the end of a text fit in front of a blank, if none of them is open and the
last one is no comment. -/
theorem append_blank (ha : Lawful a) (hb : Lawful b) (hopen : ∀ body, .unclosed body ∉ a)
    (hlast : ∀ body, a.getLast? ≠ some (.comment body))
    (hhead : ∀ c ∈ (b.flatMap Segment.chars).head?, isBlank c = true) : Lawful (a ++ b) := by
  induction a with
  | nil => exact hb
  | cons g a ih =>
    have hlater : Lawful (a ++ b) := by
      refine ih ha.2 (fun body hmem => hopen body (.tail _ hmem)) fun body hbody => ?_
      refine hlast body ?_
      rw [List.getLast?_cons, hbody]
      rfl
    rw [List.cons_append, lawful_cons, List.flatMap_append]
    refine ⟨?_, hlater⟩
    refine ha.1.append_blank hhead (fun body he => hopen body (he ▸ .head _)) ?_
    cases a with
    | nil => exact .inr fun body he => hlast body (congrArg some he)
    | cons f a => exact .inl (chars_ne_nil_of_lawful ha.2 (List.cons_ne_nil _ _))

end Lawful

/-- More text changes nothing before the last two characters of a text, nor before the last one if
that is no point. -/
theorem cut_append {text : List Char} {a b : List Segment} (h : cut text = a ++ b)
    (hne : b.flatMap Segment.chars ≠ []) (hpoint : b.flatMap Segment.chars ≠ ['.'])
    (more : List Char) : cut (text ++ more) = a ++ cut (b.flatMap Segment.chars ++ more) := by
  obtain ⟨rfl, hlawful⟩ := cut_eq_iff.mp h
  have htext := flatMap_chars_cut (b.flatMap Segment.chars ++ more)
  refine cut_eq_iff.mpr ⟨?_, hlawful.extend (lawful_cut _) htext hne hpoint⟩
  rw [List.flatMap_append, htext, List.flatMap_append, List.append_assoc]

end Source

end Loxeme
