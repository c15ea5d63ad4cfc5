import Loxeme.Proofs.Continuation
import Loxeme.Proofs.Layout
import Loxeme.Proofs.Recovery

/-!
# How far a scan looks ahead

What a scan has found does not hang on more than two characters behind it. So a token with two
characters behind its lexeme is found again at its place whatever follows the source, and a stray
character is found again wherever it stands.

* `Spot.Settled`: two characters are behind a spot.
* `Source.getElem?_spots_append`: a spot that is settled, or of a stray character, keeps its place.
* `Spot.Yields.unique`, `Spot.Fails.eq_of_isStray`: what is found at a spot.
* `scan_append_of_settled`: what more text leaves as it is.
-/

namespace Loxeme

/-! ## Spots that stay -/

/-- At least two characters of a text are behind a spot. -/
def Spot.Settled (s : Spot) (text : List Char) : Prop :=
  (s.before ++ s.segment.chars).length + 2 ≤ text.length

namespace Source

variable {text : List Char} {segments : List Segment} {s : Spot}

theorem spotsFrom_append (before : List Char) (a b : List Segment) :
    spotsFrom before (a ++ b) =
      spotsFrom before a ++ spotsFrom (before ++ a.flatMap Segment.chars) b := by
  induction a generalizing before with
  | nil => simp [spotsFrom]
  | cons g a ih =>
    rw [List.cons_append, spotsFrom, ih, spotsFrom, List.flatMap_cons, List.append_assoc]
    rfl

/-- Where a spot is among others, its segment is among theirs, and they are before it. -/
theorem exists_of_spotsFrom_eq_append {before : List Char} {l m : List Spot}
    (h : spotsFrom before segments = l ++ s :: m) :
    ∃ a b, segments = a ++ s.segment :: b ∧ l = spotsFrom before a ∧
      s.before = before ++ a.flatMap Segment.chars := by
  induction segments generalizing before l with
  | nil => cases l <;> cases h
  | cons g segments ih =>
    cases l with
    | nil =>
      obtain ⟨rfl, -⟩ := List.cons.inj h
      exact ⟨[], segments, rfl, rfl, (List.append_nil _).symm⟩
    | cons t l =>
      obtain ⟨rfl, hrest⟩ := List.cons.inj h
      obtain ⟨a, b, rfl, rfl, hbefore⟩ := ih hrest
      refine ⟨g :: a, b, rfl, rfl, ?_⟩
      rw [hbefore, List.flatMap_cons, List.append_assoc]

/-- A spot that has its place among spots of a class keeps it as long as the segments up to it stay,
whatever becomes of those behind it. -/
theorem getElem?_spots_of_front {p : Spot → Bool} {i : Nat} {segments' : List Segment}
    (h : ((spots segments).filter p)[i]? = some s)
    (hfront : ∀ a b, segments = a ++ s.segment :: b → s.before = a.flatMap Segment.chars →
      ∃ b', segments' = a ++ s.segment :: b') :
    ((spots segments').filter p)[i]? = some s := by
  obtain ⟨hi, hget⟩ := List.getElem?_eq_some_iff.mp h
  have hsplit : (spots segments).filter p =
      ((spots segments).filter p).take i ++ s :: ((spots segments).filter p).drop (i + 1) := by
    rw [← hget, List.getElem_cons_drop, List.take_append_drop]
  -- All spots are split in front of the one in question, and the segments are split there too.
  obtain ⟨l, m, hspots, hl, hm⟩ := List.filter_eq_append_iff.mp hsplit
  obtain ⟨m₁, m₂, rfl, hnone, hp, -⟩ := List.filter_eq_cons_iff.mp hm
  rw [← List.append_assoc] at hspots
  obtain ⟨a, b, hab, hbefore, hs⟩ := exists_of_spotsFrom_eq_append hspots
  rw [List.nil_append] at hs
  obtain ⟨b', hb'⟩ := hfront a b hab hs
  have hcount : ((spotsFrom [] a).filter p).length = i := by
    rw [← hbefore, List.filter_append, hl, List.filter_eq_nil_iff.mpr hnone, List.append_nil,
      List.length_take, Nat.min_eq_left (Nat.le_of_lt hi)]
  have hhere : spotsFrom ([] ++ a.flatMap Segment.chars) (s.segment :: b') =
      s :: spotsFrom (s.before ++ s.segment.chars) b' := by
    rw [List.nil_append, ← hs]
    rfl
  rw [spots, hb', spotsFrom_append, hhere, List.filter_append, List.filter_cons_of_pos hp,
    ← hcount, List.getElem?_append_right (Nat.le_refl _), Nat.sub_self]
  rfl

/-- A spot with two characters behind it, or of a stray character, keeps its place when more text
follows. -/
theorem getElem?_spots_append {p : Spot → Bool} {i : Nat}
    (h : ((spots (cut text)).filter p)[i]? = some s)
    (hs : s.Settled text ∨ s.segment.isStray = true) (more : List Char) :
    ((spots (cut (text ++ more))).filter p)[i]? = some s := by
  refine getElem?_spots_of_front h fun a b hcut hbefore => ?_
  rcases hs with hs | hs
  · -- Two characters are more than a point, so no number in front of them becomes longer.
    have hlength : s.before.length + (s.segment.chars.length +
        (b.flatMap Segment.chars).length) = text.length := by
      rw [← flatMap_chars_cut text, hcut, hbefore, List.flatMap_append, List.flatMap_cons,
        List.length_append, List.length_append]
    rw [Spot.Settled, List.length_append] at hs
    have htwo : 2 ≤ (b.flatMap Segment.chars).length := by omega
    have hne : b.flatMap Segment.chars ≠ [] := by
      intro he
      rw [he] at htwo
      cases htwo
    have hpoint : b.flatMap Segment.chars ≠ ['.'] := by
      intro he
      rw [he] at htwo
      exact absurd htwo (by decide)
    rw [← List.singleton_append, ← List.append_assoc] at hcut
    refine ⟨cut (b.flatMap Segment.chars ++ more), ?_⟩
    rw [cut_append hcut hne hpoint more, List.append_assoc, List.singleton_append]
  · obtain ⟨before, g⟩ := s
    cases g with
    | stray c => exact cut_append_of_stray hcut more
    | _ => cases hs

end Source

/-! ## What is found at a spot -/

theorem Token.eq_of_content {t u : Token} (h : t.content = u.content) (hline : t.line = u.line) :
    t = u := by
  cases t
  cases u
  simp_all [Token.content]

namespace Spot

/-- A spot yields one token. -/
theorem Yields.unique {s : Spot} {t u : Token} (ht : s.Yields t) (hu : s.Yields u) : t = u :=
  Token.eq_of_content (ht.1.content_eq hu.1) (ht.2.trans hu.2.symm)

/-- A stray character has one error. -/
theorem Fails.eq_of_isStray {s : Spot} {text text' : List Char} {d e : LexError}
    (hs : s.segment.isStray = true) (hd : s.Fails text d) (he : s.Fails text' e) : d = e := by
  obtain ⟨before, g⟩ := s
  cases g with
  | stray c =>
    obtain ⟨hd, hdline⟩ := hd
    obtain ⟨he, heline⟩ := he
    cases hd
    cases he
    exact congrArg _ (hdline.trans heline.symm)
  | _ => cases hs

end Spot

/-- Each place of a list has its item in a list that is related in its order. -/
theorem exists_getElem?_of_forall₂ {α β : Type} {r : α → β → Prop} {l : List α} {m : List β}
    (h : List.Forall₂ r l m) {i : Nat} {a : α} (ha : l[i]? = some a) :
    ∃ b, m[i]? = some b ∧ r a b := by
  obtain ⟨hi, rfl⟩ := List.getElem?_eq_some_iff.mp ha
  have hi' : i < m.length := h.length_eq ▸ hi
  exact ⟨m[i], List.getElem?_eq_getElem hi', h.get hi hi'⟩

section Scan

variable {source : String} {i : Nat} {s : Spot}

/-- A token whose spot is settled is found again when more text follows. -/
theorem getElem?_tokens_append {t : Token}
    (h : ((Source.spots (Source.cut source.toList)).filter (·.segment.isLexeme))[i]? = some s)
    (ht : s.Yields t) (hs : s.Settled source.toList) (more : String) :
    (scan (source ++ more)).tokens[i]? = some t := by
  have hstays := Source.getElem?_spots_append h (.inl hs) more.toList
  rw [← String.toList_append] at hstays
  obtain ⟨u, hu, hyields⟩ := exists_getElem?_of_forall₂ (forall₂_tokens (source ++ more)) hstays
  obtain ⟨hi, -⟩ := List.getElem?_eq_some_iff.mp hu
  rw [tokens_scan, List.getElem?_append_left hi, hu, hyields.unique ht]

/-- The error of a stray character is found again when more text follows. -/
theorem getElem?_errors_append {c : Char} {line : Nat}
    (h : (scan source).errors[i]? = some (.unexpectedCharacter c line)) (more : String) :
    (scan (source ++ more)).errors[i]? = some (.unexpectedCharacter c line) := by
  obtain ⟨s, hspot, hfails⟩ := exists_getElem?_of_forall₂ (forall₂_errors source).flip h
  have hs : s.segment.isStray = true := hfails.1.isUnexpected_eq.symm
  have hstays := Source.getElem?_spots_append hspot (.inr hs) more.toList
  rw [← String.toList_append] at hstays
  obtain ⟨e, he, hfails'⟩ := exists_getElem?_of_forall₂ (forall₂_errors (source ++ more)) hstays
  rw [he, hfails'.eq_of_isStray hs hfails]

end Scan

/-- More text behind a source leaves each token as it is, at its place, that has at least two
characters of the source behind its lexeme, and each error for a stray character, wherever it
stands. -/
theorem scan_append_of_settled (source more : String) :
    ∃ segments, Source.IsCut source.toList segments ∧
      List.Forall₂ Spot.Yields ((Source.spots segments).filter (·.segment.isLexeme))
        (scan source).lexemes ∧
      (∀ (i : Nat) (s : Spot) (t : Token),
        ((Source.spots segments).filter (·.segment.isLexeme))[i]? = some s →
        (scan source).lexemes[i]? = some t → s.Settled source.toList →
          (scan (source ++ more)).tokens[i]? = some t) ∧
      ∀ (i : Nat) (c : Char) (line : Nat),
        (scan source).errors[i]? = some (.unexpectedCharacter c line) →
          (scan (source ++ more)).errors[i]? = some (.unexpectedCharacter c line) := by
  have hyields := forall₂_tokens source
  refine ⟨Source.cut source.toList, Source.isCut_iff.mpr rfl, hyields, fun i s t hspot ht hs => ?_,
    fun i c line h => getElem?_errors_append h more⟩
  obtain ⟨u, hu, hst⟩ := exists_getElem?_of_forall₂ hyields hspot
  obtain rfl : u = t := Option.some.inj (hu.symm.trans ht)
  exact getElem?_tokens_append hspot hst hs more

/-- The second token has two characters behind it and stays. The one before the point at the end has
only that point behind it, and becomes a longer number. -/
theorem scan_append_of_settled_of_point :
    (scan "@9;1.").lexemes[1]? = some ⟨.symbol .semicolon, ";", 1, none⟩ ∧
      (scan ("@9;1." ++ "5")).tokens[1]? = some ⟨.symbol .semicolon, ";", 1, none⟩ ∧
      (scan "@9;1.").errors[0]? = some (.unexpectedCharacter '@' 1) ∧
      (scan ("@9;1." ++ "5")).errors[0]? = some (.unexpectedCharacter '@' 1) ∧
      ((scan "@9;1.").lexemes[2]?).map Token.lexeme = some "1" ∧
      ((scan ("@9;1." ++ "5")).tokens[2]?).map Token.lexeme = some "1.5" := by
  have hsemicolon : (scan "@9;1.").lexemes[1]? = some ⟨.symbol .semicolon, ";", 1, none⟩ := by
    decide +kernel
  have hstray : (scan "@9;1.").errors[0]? = some (.unexpectedCharacter '@' 1) := by decide +kernel
  have hsegments : Source.cut "@9;1.".toList = [.stray '@', .number ['9'] none,
      .symbol .semicolon, .number ['1'] none, .symbol .dot] := by
    decide +kernel
  obtain ⟨segments, hcut, -, hstays, herrors⟩ := scan_append_of_settled "@9;1." "5"
  obtain rfl := (Source.isCut_iff.mp hcut).trans hsegments
  refine ⟨hsemicolon, hstays 1 ⟨['@', '9'], .symbol .semicolon⟩ _ rfl hsemicolon ?_, hstray,
    herrors 0 '@' 1 hstray, by decide +kernel, by decide +kernel⟩
  show 3 + 2 ≤ 5
  decide

end Loxeme
