import Loxeme.Source.Cut

/-!
# The lexical grammar

When a text is a segment of its kind, and what may not follow it so that it is the longest one.

* `Segment.Fits`: whether a segment obeys the grammar in front of a text.
* `Segment.next_of_fits`: a segment that obeys the grammar in front of a text is the one that is
  cut there.
* `Segment.fits_next`: the segment that is cut from the front of a text obeys the grammar.
-/

namespace Loxeme

/-! ## The rules -/

/-- A character that starts a segment of a kind of its own: it is a blank, a quote, a digit, a
letter or the first character of a symbol. -/
def StartsSegment (c : Char) : Prop :=
  isBlank c = true ∨ c = '"' ∨ isDigit c = true ∨ isLetter c = true ∨
    ∃ s : Symbol, s.chars.head? = some c

/-- What may not follow a symbol: a `=` that would make it longer, or the second slash of a
comment. -/
def Symbol.Ends : Symbol → List Char → Prop
  | .bang, rest | .equal, rest | .less, rest | .greater, rest => rest.head? ≠ some '='
  | .slash, rest => rest.head? ≠ some '/'
  | _, _ => True

/-- A point comes next, and a digit behind it. -/
def FractionFollows (rest : List Char) : Prop :=
  ∃ d tail, rest = '.' :: d :: tail ∧ isDigit d = true

/-- A run of digits that is not empty. -/
def IsDigits (text : List Char) : Prop :=
  text ≠ [] ∧ ∀ c ∈ text, isDigit c = true

/-- A letter, and letters and digits behind it. -/
def IsWord (text : List Char) : Prop :=
  ∃ c tail, text = c :: tail ∧ isLetter c = true ∧ ∀ d ∈ tail, isWordPart d = true

namespace Segment

/-- Whether a segment obeys the grammar in front of a text: it is of its kind, and what follows
does not make it longer. -/
def Fits : Segment → List Char → Prop
  | .blank c, _ => isBlank c = true
  | .comment body, rest => '\n' ∉ body ∧ ∀ c ∈ rest.head?, c = '\n'
  | .symbol s, rest => s.Ends rest
  | .quoted body, _ => '"' ∉ body
  | .number whole none, rest =>
    IsDigits whole ∧ (∀ c ∈ rest.head?, isDigit c = false) ∧ ¬FractionFollows rest
  | .number whole (some fraction), rest =>
    IsDigits whole ∧ IsDigits fraction ∧ ∀ c ∈ rest.head?, isDigit c = false
  | .word spelling, rest => IsWord spelling ∧ ∀ c ∈ rest.head?, isWordPart c = false
  | .stray c, _ => ¬StartsSegment c
  | .unclosed body, rest => '"' ∉ body ∧ rest = []

theorem chars_ne_nil_of_fits {g : Segment} {rest : List Char} (h : g.Fits rest) : g.chars ≠ [] := by
  cases g with
  | symbol s => exact s.chars_ne_nil
  | number whole fraction =>
    cases fraction with
    | none => exact h.1.1
    | some fraction => simp [chars]
  | word spelling =>
    obtain ⟨c, tail, rfl, -, -⟩ := h.1
    simp [chars]
  | _ => simp [chars]

end Segment

/-! ## Disjoint kinds -/

theorem single?_of_not_startsSegment {c : Char} (h : ¬StartsSegment c) :
    Symbol.single? c = none := by
  cases hs : Symbol.single? c with
  | none => rfl
  | some s =>
    have hhead : s.chars.head? = some c := by rw [Symbol.chars_of_single? hs]; rfl
    exact absurd (.inr (.inr (.inr (.inr ⟨s, hhead⟩)))) h

theorem withEqual?_of_not_startsSegment {c : Char} (h : ¬StartsSegment c) :
    Symbol.withEqual? c = none := by
  cases hs : Symbol.withEqual? c with
  | none => rfl
  | some s =>
    have hhead : s.chars.head? = some c := by rw [Symbol.chars_of_withEqual? hs]; rfl
    exact absurd (.inr (.inr (.inr (.inr ⟨s, hhead⟩)))) h

theorem isBlank_eq_false_of_isLetter {c : Char} (h : isLetter c = true) : isBlank c = false := by
  rw [Bool.eq_false_iff]
  intro hb
  rw [isLetter_eq_false_of_isBlank hb] at h
  cases h

theorem isDigit_eq_false_of_isLetter {c : Char} (h : isLetter c = true) : isDigit c = false := by
  rw [Bool.eq_false_iff]
  intro hd
  rw [isLetter_eq_false_of_isDigit hd] at h
  cases h

theorem ne_quote_of_isLetter {c : Char} (h : isLetter c = true) : c ≠ '"' := by
  rintro rfl
  rw [isLetter_of_lt (by decide)] at h
  revert h
  decide

theorem ne_quote_of_isDigit {c : Char} (h : isDigit c = true) : c ≠ '"' := by
  rintro rfl
  revert h
  decide

/-- The first character of a symbol is of no other kind. -/
theorem Symbol.of_head? {s : Symbol} {c : Char} (h : s.chars.head? = some c) :
    isBlank c = false ∧ c ≠ '"' ∧ isDigit c = false ∧ isLetter c = false := by
  cases s <;> cases h <;>
    exact ⟨by decide, by decide, by decide, (isLetter_of_lt (by decide)).trans (by decide)⟩

namespace Segment

theorem next_of_isBlank {c : Char} (h : isBlank c = true) (text : List Char) :
    next c text = (.blank c, text) := by
  rw [next, if_pos h]

theorem next_quote (text : List Char) : next '"' text = nextQuoted text := rfl

theorem next_of_isDigit {c : Char} (h : isDigit c = true) (text : List Char) :
    next c text = nextNumber c text := by
  simp [next, isBlank_eq_false_of_isDigit h, ne_quote_of_isDigit h, h]

theorem next_of_isLetter {c : Char} (h : isLetter c = true) (text : List Char) :
    next c text = (.word (c :: text.takeWhile isWordPart), text.dropWhile isWordPart) := by
  simp [next, isBlank_eq_false_of_isLetter h, ne_quote_of_isLetter h,
    isDigit_eq_false_of_isLetter h, h]

theorem next_of_symbol {s : Symbol} {c : Char} (h : s.chars.head? = some c) (text : List Char) :
    next c text = nextMark c text := by
  obtain ⟨hb, hq, hd, hl⟩ := Symbol.of_head? h
  simp [next, hb, hq, hd, hl]

/-! ## The segment at the front of a text is the only one that fits -/

theorem nextNumber_whole {c : Char} {run rest : List Char} (hrun : ∀ d ∈ run, isDigit d = true)
    (hstop : ∀ d ∈ rest.head?, isDigit d = false) (hpoint : ¬FractionFollows rest) :
    nextNumber c (run ++ rest) = (.number (c :: run) none, rest) := by
  rw [nextNumber, takeWhile_run hrun hstop, dropWhile_run hrun hstop]
  split
  · rename_i d tail
    rw [if_neg fun hd => hpoint ⟨d, tail, rfl, hd⟩]
  · rfl

theorem nextNumber_fraction {c d : Char} {run run' rest : List Char}
    (hrun : ∀ d ∈ run, isDigit d = true) (hd : isDigit d = true)
    (hrun' : ∀ d ∈ run', isDigit d = true) (hstop : ∀ d ∈ rest.head?, isDigit d = false) :
    nextNumber c (run ++ '.' :: d :: (run' ++ rest)) =
      (.number (c :: run) (some (d :: run')), rest) := by
  have hpoint : ∀ c ∈ ('.' :: d :: (run' ++ rest)).head?, isDigit c = false := by
    rintro c ⟨⟩
    decide
  rw [nextNumber, takeWhile_run hrun hpoint, dropWhile_run hrun hpoint]
  simp only
  rw [if_pos hd, takeWhile_run hrun' hstop, dropWhile_run hrun' hstop]

theorem nextMark_comment {body rest : List Char} (hbody : '\n' ∉ body)
    (hstop : ∀ c ∈ rest.head?, c = '\n') :
    nextMark '/' ('/' :: (body ++ rest)) = (.comment body, rest) := by
  have hrun := bne_of_not_mem hbody
  have hend : ∀ c ∈ rest.head?, (c != '\n') = false :=
    fun c hc => bne_eq_false_iff_eq.mpr (hstop c hc)
  simp only [nextMark, takeWhile_run hrun hend, dropWhile_run hrun hend]

/-- Where no comment starts, a mark is a symbol or nothing. -/
theorem nextMark_of_ne {c : Char} {text : List Char} (h : c = '/' → text.head? ≠ some '/') :
    nextMark c text =
      match Symbol.take? c text with
      | some (s, rest) => (.symbol s, rest)
      | none => (.stray c, text) := by
  unfold nextMark
  split
  · exact absurd rfl (h rfl)
  · rfl

theorem take?_of_ends {s : Symbol} {c : Char} {text rest : List Char} (h : s.Ends rest)
    (ht : s.chars ++ rest = c :: text) : Symbol.take? c text = some (s, rest) := by
  cases s with
  | bangEqual | equalEqual | lessEqual | greaterEqual =>
    cases ht
    rfl
  | bang | equal | less | greater =>
    cases ht
    exact (Symbol.take?_of_head?_ne h).trans rfl
  | _ =>
    cases ht
    exact (Symbol.take?_of_withEqual?_eq_none rfl rest).trans rfl

theorem nextMark_symbol {s : Symbol} {c : Char} {text rest : List Char} (h : s.Ends rest)
    (ht : s.chars ++ rest = c :: text) : nextMark c text = (.symbol s, rest) := by
  have hne : c = '/' → text.head? ≠ some '/' := by
    rintro rfl
    cases s <;> cases ht
    exact h
  rw [nextMark_of_ne hne, take?_of_ends h ht]

/-- A character that starts no segment of its own kind is left over. -/
theorem next_of_not_startsSegment {c : Char} (h : ¬StartsSegment c) (text : List Char) :
    next c text = (.stray c, text) := by
  have hne : c = '/' → text.head? ≠ some '/' := by
    rintro rfl
    exact absurd (.inr (.inr (.inr (.inr ⟨.slash, rfl⟩)))) h
  have hmark : next c text = nextMark c text := by
    simp only [StartsSegment, not_or] at h
    simp [next, h]
  rw [hmark, nextMark_of_ne hne,
    Symbol.take?_of_withEqual?_eq_none (withEqual?_of_not_startsSegment h),
    single?_of_not_startsSegment h]
  rfl

/-- A segment that obeys the grammar in front of a text is the one that is cut there. -/
theorem next_of_fits {g : Segment} {c : Char} {text rest : List Char} (h : g.Fits rest)
    (ht : g.chars ++ rest = c :: text) : next c text = (g, rest) := by
  cases g with
  | blank b =>
    obtain ⟨rfl, rfl⟩ := List.cons.inj ht
    exact next_of_isBlank h rest
  | comment body =>
    obtain ⟨rfl, rfl⟩ := List.cons.inj ht
    rw [next_of_symbol (s := .slash) rfl]
    exact nextMark_comment h.1 h.2
  | symbol s =>
    have hhead : s.chars.head? = some c := by
      have hsome : (s.chars ++ rest).head? = some c := congrArg List.head? ht
      cases hs : s.chars with
      | nil => exact absurd hs s.chars_ne_nil
      | cons d tail =>
        rw [hs] at hsome
        exact hsome
    rw [next_of_symbol hhead, nextMark_symbol h ht]
  | quoted body =>
    simp only [chars, List.cons_append, List.append_assoc, List.nil_append, List.cons.injEq] at ht
    obtain ⟨rfl, rfl⟩ := ht
    rw [next_quote, nextQuoted_append h]
  | number whole fraction =>
    cases fraction with
    | none =>
      -- The first digit decides on the branch, and `nextNumber` takes the others from the text.
      obtain ⟨⟨hne, hdigits⟩, hstop, hpoint⟩ := h
      cases whole with
      | nil => exact absurd rfl hne
      | cons d run =>
        obtain ⟨rfl, rfl⟩ := List.cons.inj ht
        rw [next_of_isDigit (hdigits d (.head _))]
        exact nextNumber_whole (fun e he => hdigits e (.tail _ he)) hstop hpoint
    | some fraction =>
      obtain ⟨⟨hne, hdigits⟩, ⟨hne', hdigits'⟩, hstop⟩ := h
      cases whole with
      | nil => exact absurd rfl hne
      | cons d run =>
        cases fraction with
        | nil => exact absurd rfl hne'
        | cons e run' =>
          simp only [chars, List.cons_append, List.append_assoc, List.cons.injEq] at ht
          obtain ⟨rfl, rfl⟩ := ht
          rw [next_of_isDigit (hdigits d (.head _)),
            nextNumber_fraction (fun c hc => hdigits c (.tail _ hc)) (hdigits' e (.head _))
              (fun c hc => hdigits' c (.tail _ hc)) hstop]
  | word spelling =>
    obtain ⟨⟨d, tail, rfl, hletter, hparts⟩, hstop⟩ := h
    simp only [chars, List.cons_append, List.cons.injEq] at ht
    obtain ⟨rfl, rfl⟩ := ht
    rw [next_of_isLetter hletter, takeWhile_run hparts hstop, dropWhile_run hparts hstop]
  | stray d =>
    obtain ⟨rfl, rfl⟩ := List.cons.inj ht
    exact next_of_not_startsSegment h rest
  | unclosed body =>
    obtain ⟨hbody, rfl⟩ := h
    simp only [chars, List.append_nil, List.cons.injEq] at ht
    obtain ⟨rfl, rfl⟩ := ht
    rw [next_quote, nextQuoted_of_not_mem hbody]

/-! ## The segment at the front of a text fits -/

theorem fits_nextQuoted (text : List Char) : (nextQuoted text).1.Fits (nextQuoted text).2 := by
  by_cases h : '"' ∈ text
  · obtain ⟨body, rest, rfl, hbody⟩ := List.eq_append_cons_of_mem h
    rw [nextQuoted_append hbody]
    exact hbody
  · rw [nextQuoted_of_not_mem h]
    exact ⟨h, rfl⟩

theorem fits_nextNumber {c : Char} (h : isDigit c = true) (text : List Char) :
    (nextNumber c text).1.Fits (nextNumber c text).2 := by
  have hwhole : IsDigits (c :: text.takeWhile isDigit) := by
    refine ⟨List.cons_ne_nil _ _, fun d hd => ?_⟩
    rcases List.mem_cons.mp hd with rfl | hd
    · exact h
    · exact of_mem_takeWhile hd
  unfold nextNumber
  split
  · rename_i d rest hdrop
    -- A point belongs to the number only if a digit follows it.
    by_cases hd : isDigit d = true
    · rw [if_pos hd]
      refine ⟨hwhole, ⟨List.cons_ne_nil _ _, fun e he => ?_⟩, fun e he => not_of_head?_dropWhile he⟩
      rcases List.mem_cons.mp he with rfl | he
      · exact hd
      · exact of_mem_takeWhile he
    · rw [if_neg hd]
      refine ⟨hwhole, ?_, ?_⟩
      · rintro e ⟨⟩
        decide
      · rintro ⟨e, tail, he, hdigit⟩
        cases he
        exact hd hdigit
  · rename_i hdrop
    refine ⟨hwhole, fun d hd => not_of_head?_dropWhile hd, ?_⟩
    rintro ⟨d, tail, hpoint, -⟩
    exact hdrop d tail hpoint

theorem fits_word {c : Char} (h : isLetter c = true) (text : List Char) :
    (word (c :: text.takeWhile isWordPart)).Fits (text.dropWhile isWordPart) :=
  ⟨⟨c, _, rfl, h, fun _ hd => of_mem_takeWhile hd⟩, fun _ hd => not_of_head?_dropWhile hd⟩

theorem fits_comment (text : List Char) :
    (comment (text.takeWhile (· != '\n'))).Fits (text.dropWhile (· != '\n')) := by
  refine ⟨fun h => ?_, fun c hc => ?_⟩
  · have := of_mem_takeWhile h
    simp at this
  · have := not_of_head?_dropWhile (p := (· != '\n')) hc
    simpa using this

/-- A symbol of one character ends where no `=` follows it or none would make it longer. -/
theorem ends_of_chars_eq_singleton {s : Symbol} {c : Char} {rest : List Char} (h : s.chars = [c])
    (hequal : rest.head? ≠ some '=' ∨ Symbol.withEqual? c = none)
    (hslash : c = '/' → rest.head? ≠ some '/') : s.Ends rest := by
  cases s with
  | slash =>
    cases h
    exact hslash rfl
  | bang | equal | less | greater =>
    cases h
    exact hequal.resolve_right (by decide)
  | _ => trivial

/-- A symbol that is read as the longest one ends there. -/
theorem ends_of_take? {s : Symbol} {c : Char} {text rest : List Char}
    (h : Symbol.take? c text = some (s, rest)) (hslash : c = '/' → text.head? ≠ some '/') :
    s.Ends rest := by
  by_cases hequal : text.head? ≠ some '=' ∨ Symbol.withEqual? c = none
  · have hsingle : Symbol.take? c text = (Symbol.single? c).map (·, text) :=
      hequal.elim Symbol.take?_of_head?_ne (Symbol.take?_of_withEqual?_eq_none · text)
    rw [hsingle, Option.map_eq_some_iff] at h
    obtain ⟨t, ht, he⟩ := h
    cases he
    exact ends_of_chars_eq_singleton (Symbol.chars_of_single? ht) hequal hslash
  · -- An `=` follows and is taken, and no symbol that ends with `=` goes on.
    obtain ⟨hhead, hwith⟩ := not_or.mp hequal
    obtain ⟨t, ht⟩ := Option.ne_none_iff_exists'.mp hwith
    cases text with
    | nil => exact absurd (by simp) hhead
    | cons d tail =>
      obtain rfl : d = '=' := by simpa using hhead
      simp only [Symbol.take?, ht, Option.some.injEq, Prod.mk.injEq] at h
      obtain ⟨rfl, rfl⟩ := h
      have hchars := Symbol.chars_of_withEqual? ht
      cases t with
      | bang | equal | less | greater | slash => cases hchars
      | _ => trivial

/-- Where no symbol is read, none starts. -/
theorem head?_ne_of_take?_eq_none {c : Char} {text : List Char} (h : Symbol.take? c text = none)
    (s : Symbol) : s.chars.head? ≠ some c := by
  intro hs
  have hsingle : Symbol.single? c ≠ none := by
    cases s <;> cases hs <;> decide
  unfold Symbol.take? at h
  split at h
  · cases h
  · exact hsingle (Option.map_eq_none_iff.mp h)

theorem fits_nextMark {c : Char} (h : isBlank c = false ∧ c ≠ '"' ∧ isDigit c = false ∧
    isLetter c = false) (text : List Char) : (nextMark c text).1.Fits (nextMark c text).2 := by
  by_cases hslash : c = '/' ∧ text.head? = some '/'
  · obtain ⟨rfl, htext⟩ := hslash
    cases text with
    | nil => cases htext
    | cons d text =>
      cases htext
      exact fits_comment text
  · have hne : c = '/' → text.head? ≠ some '/' := fun hc ht => hslash ⟨hc, ht⟩
    rw [nextMark_of_ne hne]
    split
    · rename_i htake
      exact ends_of_take? htake hne
    · rename_i htake
      -- Nothing is read, so the character has to be shown to start no segment at all.
      obtain ⟨hb, hq, hd, hl⟩ := h
      rintro (hc | hc | hc | hc | ⟨s, hs⟩)
      · rw [hb] at hc
        cases hc
      · exact hq hc
      · rw [hd] at hc
        cases hc
      · rw [hl] at hc
        cases hc
      · exact head?_ne_of_take?_eq_none htake s hs

/-- The segment at the front of a text obeys the grammar there. -/
theorem fits_next (c : Char) (text : List Char) : (next c text).1.Fits (next c text).2 := by
  by_cases hb : isBlank c = true
  · rw [next_of_isBlank hb]
    exact hb
  by_cases hq : c = '"'
  · subst hq
    exact fits_nextQuoted text
  by_cases hd : isDigit c = true
  · rw [next_of_isDigit hd]
    exact fits_nextNumber hd text
  by_cases hl : isLetter c = true
  · rw [next_of_isLetter hl]
    exact fits_word hl text
  · rw [Bool.not_eq_true] at hb hd hl
    have hmark : next c text = nextMark c text := by
      simp [next, hb, hq, hd, hl]
    rw [hmark]
    exact fits_nextMark ⟨hb, hq, hd, hl⟩ text

end Segment

end Loxeme
