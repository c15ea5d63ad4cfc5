import Loxeme.Proofs.Report

/-!
# Tokens and faults of segments

What the scan of a source gives follows from its segments. There is an error exactly where there is
a fault among them, and the tokens of some segments are told apart from those of the same segments
at another place by their lines only.

* `Source.tokensFrom`: the tokens of segments that are laid end to end from a position.
* `Source.map_dump_tokensFrom`: the canonical forms of tokens do not depend on the position.
* `Source.Clean`: no segment is a fault.
* `Source.Lawful.faults`: the three ways in which faults are among segments.
* `tokenize_eq_ok_iff`: when a source has tokens, and which.
* `onlyUnterminated_errors_iff`: when the only error is a quote that is not closed.
-/

namespace Loxeme

namespace Source

/-! ## Tokens -/

/-- The tokens of segments that are laid end to end from a position. -/
def tokensFrom (p : Position) (segments : List Segment) : List Token :=
  ((place p segments).filterMap Piece.finding?).filterMap Finding.token?

variable {p q : Position} {a b segments : List Segment}

theorem tokensFrom_append (p : Position) (a b : List Segment) :
    tokensFrom p (a ++ b) =
      tokensFrom p a ++ tokensFrom (p.after (a.flatMap Segment.chars)) b := by
  rw [tokensFrom, place_append, List.filterMap_append, List.filterMap_append]
  rfl

private theorem map_dump_tokensFrom_singleton (p q : Position) (g : Segment) :
    (tokensFrom p [g]).map Token.dump = (tokensFrom q [g]).map Token.dump := by
  cases g with
  | number whole fraction =>
    simp only [tokensFrom, place_cons, place_nil, List.filterMap_cons, List.filterMap_nil,
      Piece.finding?]
    cases Decimal.read? (Segment.number whole fraction).chars <;> rfl
  | _ => rfl

/-- The canonical forms of the tokens of segments are the same at each position. -/
theorem map_dump_tokensFrom (p q : Position) (segments : List Segment) :
    (tokensFrom p segments).map Token.dump = (tokensFrom q segments).map Token.dump := by
  induction segments generalizing p q with
  | nil => rfl
  | cons g segments ih =>
    rw [← List.singleton_append, tokensFrom_append, tokensFrom_append, List.map_append,
      List.map_append, map_dump_tokensFrom_singleton p q]
    exact congrArg _ (ih _ _)

/-! ## Faults -/

/-- No segment is a fault. -/
def Clean (segments : List Segment) : Prop :=
  ∀ g ∈ segments, g.isFault = false

theorem clean_nil : Clean [] := fun _ h => nomatch h

theorem clean_cons {g : Segment} : Clean (g :: segments) ↔ g.isFault = false ∧ Clean segments :=
  List.forall_mem_cons

theorem clean_append : Clean (a ++ b) ↔ Clean a ∧ Clean b := by
  simp only [Clean, List.mem_append, or_imp, forall_and]

theorem clean_iff_filter : Clean segments ↔ segments.filter Segment.isFault = [] := by
  simp [Clean, List.filter_eq_nil_iff]

/-- Segments that obey the grammar have no fault, or only a quote at their end that is not closed,
or a stray character. -/
theorem Lawful.faults (h : Lawful segments) :
    Clean segments ∨ (∃ a body, segments = a ++ [.unclosed body] ∧ Clean a) ∨
      ∃ a c b, segments = a ++ .stray c :: b := by
  induction segments with
  | nil => exact .inl clean_nil
  | cons g segments ih =>
    by_cases hg : g.isFault = true
    · cases g with
      | stray c => exact .inr (.inr ⟨[], c, segments, rfl⟩)
      | unclosed body =>
        obtain rfl := h.eq_nil_of_unclosed
        exact .inr (.inl ⟨[], body, rfl, clean_nil⟩)
      | _ => cases hg
    · -- A segment that is no fault leaves the case to the segments behind it.
      rw [Bool.not_eq_true] at hg
      rcases ih h.2 with hclean | ⟨a, body, rfl, hclean⟩ | ⟨a, c, b, rfl⟩
      · exact .inl (clean_cons.mpr ⟨hg, hclean⟩)
      · exact .inr (.inl ⟨g :: a, body, rfl, clean_cons.mpr ⟨hg, hclean⟩⟩)
      · exact .inr (.inr ⟨g :: a, c, b, rfl⟩)

end Source

/-! ## The result of a scan -/

theorem lexemes_scan (source : String) :
    (scan source).lexemes = Source.tokensFrom Position.start (Source.cut source.toList) := by
  rw [Scan.lexemes, scan_eq_ofPieces, Scan.ofPieces, Scan.ofFindings]
  exact List.dropLast_concat

theorem errors_eq_nil_iff (source : String) :
    (scan source).errors = [] ↔ Source.Clean (Source.cut source.toList) := by
  have h := forall₂_fails source
  rw [Source.clean_iff_filter, ← List.length_eq_zero_iff, ← List.length_eq_zero_iff, h.length_eq]

/-- A source has tokens if no segment of it is a fault. -/
theorem tokenize_eq_ok_iff {source : String} {tokens : List Token} :
    tokenize source = .ok tokens ↔ Source.Clean (Source.cut source.toList) ∧
      tokens = Source.tokensFrom Position.start (Source.cut source.toList) ++
        [Token.eof (1 + lineFeeds source.toList)] := by
  rw [tokenize, Scan.result_eq_ok_iff, errors_eq_nil_iff, tokens_scan, lexemes_scan]
  exact and_congr_right' eq_comm

theorem exists_tokenize_eq_ok_iff (source : String) :
    (∃ tokens, tokenize source = .ok tokens) ↔ Source.Clean (Source.cut source.toList) := by
  simp only [tokenize_eq_ok_iff, exists_and_left, exists_eq, and_true]

theorem exists_tokenize_eq_error_iff (source : String) :
    (∃ errors, tokenize source = .error errors) ↔ ¬Source.Clean (Source.cut source.toList) := by
  rw [← exists_tokenize_eq_ok_iff]
  cases tokenize source <;> simp

/-- The only error of a source is a quote that is not closed if it is the last segment and the only
fault. -/
theorem onlyUnterminated_errors_iff (source : String) :
    LexError.onlyUnterminated (scan source).errors = true ↔
      ∃ a body, Source.cut source.toList = a ++ [.unclosed body] ∧ Source.Clean a := by
  have hfails := forall₂_fails source
  rw [LexError.onlyUnterminated_iff]
  constructor
  · rintro ⟨line, herrors⟩
    rcases (Source.lawful_cut source.toList).faults with hclean | hlast | ⟨a, c, b, hcut⟩
    · rw [(errors_eq_nil_iff source).mpr hclean] at herrors
      cases herrors
    · exact hlast
    · -- The error for a stray character is another one.
      rw [herrors, hcut, List.filter_append, List.filter_cons_of_pos rfl] at hfails
      obtain ⟨g, u, hg, hnil, hone⟩ := List.forall₂_cons_right_iff.mp hfails
      obtain rfl := List.forall₂_nil_right_iff.mp hnil
      have hmem : Segment.stray c ∈ [g] := hone ▸ List.mem_append_right _ (.head _)
      obtain rfl := List.mem_singleton.mp hmem
      cases hg
  · rintro ⟨a, body, hcut, hclean⟩
    rw [hcut, List.filter_append, Source.clean_iff_filter.mp hclean, List.nil_append] at hfails
    obtain ⟨e, u, he, hnil, herrors⟩ := List.forall₂_cons_left_iff.mp hfails
    obtain rfl := List.forall₂_nil_left_iff.mp hnil
    cases he with
    | unclosed body line => exact ⟨line, herrors⟩

end Loxeme
