import Loxeme.Proofs.Report
import Loxeme.Proofs.Rounding

/-!
# The values of number tokens

Each number of a source is a numeral, so it has an exact value, and its token has the number that
IEEE 754 has for that value. No number of a source is an error.

* `Numeral`: the exact value of a numeral, digit by digit.
* `Numeral.exists_read?`: it is the value of the decimal that the numeral is read as.
* `Binary64.Exact`: a number stands for an exact value.
* `exists_read?_of_mem_tokens`: the value of a number token is its lexeme as a decimal, rounded.
* `scan_numbers_exact`: the numbers of a source, and the order of their values.
-/

namespace Loxeme

/-! ## Numerals -/

instance (text : List Char) : Decidable (IsDigits text) :=
  decidable_of_iff (text ≠ [] ∧ text.all isDigit = true) (and_congr_right' List.all_eq_true)

/-- The value of digits in front of a point: the last one counts ones. -/
def wholeValue : List Char → ℚ
  | [] => 0
  | c :: digits => 10 ^ digits.length * Decimal.digitValue c + wholeValue digits

/-- The value of digits behind a point: the first one counts tenths. -/
def fractionValue : List Char → ℚ
  | [] => 0
  | c :: digits => (Decimal.digitValue c + fractionValue digits) / 10

theorem fractionValue_nonneg (digits : List Char) : 0 ≤ fractionValue digits := by
  induction digits with
  | nil => exact le_rfl
  | cons c digits ih =>
    rw [fractionValue]
    positivity

/-- A numeral and its exact value. It has digits, of any number, and may have a point with digits
behind it. -/
inductive Numeral : List Char → ℚ → Prop
  | whole {digits : List Char} (h : IsDigits digits) : Numeral digits (wholeValue digits)
  | fraction {digits digits' : List Char} (h : IsDigits digits) (h' : IsDigits digits') :
    Numeral (digits ++ '.' :: digits') (wholeValue digits + fractionValue digits')

namespace Decimal

theorem digitsValue_eq_ofDigitChars (digits : List Char) :
    digitsValue digits = Nat.ofDigitChars 10 digits 0 :=
  Nat.ofDigitChars_eq_foldl.symm

theorem digitsValue_append (a b : List Char) :
    digitsValue (a ++ b) = 10 ^ b.length * digitsValue a + digitsValue b := by
  simp only [digitsValue_eq_ofDigitChars, Nat.ofDigitChars_append]
  exact Nat.ofDigitChars_eq_ofDigitChars_zero

theorem digitsValue_cons (c : Char) (digits : List Char) :
    digitsValue (c :: digits) = 10 ^ digits.length * digitValue c + digitsValue digits := by
  have hone : digitsValue [c] = digitValue c := by simp [digitsValue]
  rw [← List.singleton_append, digitsValue_append, hone]

theorem cast_digitsValue (digits : List Char) : (digitsValue digits : ℚ) = wholeValue digits := by
  induction digits with
  | nil => simp [digitsValue, wholeValue]
  | cons c digits ih =>
    rw [digitsValue_cons, wholeValue, ← ih]
    push_cast
    rfl

theorem cast_digitsValue_div (digits : List Char) :
    (digitsValue digits : ℚ) / 10 ^ digits.length = fractionValue digits := by
  induction digits with
  | nil => simp [digitsValue, fractionValue]
  | cons c digits ih =>
    rw [digitsValue_cons, fractionValue, ← ih, List.length_cons, pow_succ]
    push_cast
    field_simp

/-- Digits and those behind their point have the value that they have one by one. -/
theorem toRat_ofDigits (whole fraction : List Char) :
    (ofDigits whole fraction).toRat = wholeValue whole + fractionValue fraction := by
  have hpow : (10 : ℚ) ^ fraction.length ≠ 0 := by positivity
  rw [toRat, ofDigits, digitsValue_append, zpow_neg, zpow_natCast, ← div_eq_mul_inv,
    ← cast_digitsValue whole, ← cast_digitsValue_div fraction, Nat.cast_add, Nat.cast_mul,
    Nat.cast_pow, Nat.cast_ofNat, add_div, mul_div_cancel_left₀ _ hpow]

end Decimal

/-- A numeral is read as a decimal of its value. -/
theorem Numeral.exists_read? {text : List Char} {v : ℚ} (h : Numeral text v) :
    ∃ d, Decimal.read? text = some d ∧ d.toRat = v := by
  cases h with
  | whole h =>
    refine ⟨_, Decimal.read?_whole h.1 h.2, ?_⟩
    rw [Decimal.toRat_ofDigits, fractionValue, add_zero]
  | fraction h h' => exact ⟨_, Decimal.read?_fraction h.1 h.2 h'.1 h'.2, Decimal.toRat_ofDigits ..⟩

theorem Numeral.isDigit_or_point {text : List Char} {v : ℚ} (h : Numeral text v) :
    ∀ c ∈ text, isDigit c = true ∨ c = '.' := by
  intro c hc
  cases h with
  | whole h => exact .inl (h.2 c hc)
  | fraction h h' =>
    rcases List.mem_append.mp hc with hc | hc
    · exact .inl (h.2 c hc)
    · exact (List.mem_cons.mp hc).elim .inr fun hc => .inl (h'.2 c hc)

/-! ## Number tokens -/

/-- A number stands for an exact value: it is the one number that IEEE 754 has for it, infinity if
the value is too great and zero if it is too small, and neither what is no number nor negative. -/
structure Binary64.Exact (x : Binary64) (v : ℚ) : Prop where
  roundsTo_iff : ∀ y, RoundsTo v y ↔ y = x
  eq_infinity_iff : x = infinity ↔ overflowBound ≤ v
  eq_zero_iff : x = zero ↔ v ≤ leastPositive / 2
  isNaN_eq : x.isNaN = false
  negative_eq : x.negative = false

theorem Binary64.exact_ofDecimal (d : Decimal) : (ofDecimal d).Exact d.toRat :=
  ⟨fun _ => Binary64.roundsTo_iff, ofDecimal_eq_infinity_iff d, ofDecimal_eq_zero_iff d,
    isNaN_ofDecimal d, rfl⟩

namespace Segment

/-- Whether a segment is a number. -/
def isNumber : Segment → Bool
  | .number _ _ => true
  | _ => false

/-- A number is a numeral. -/
theorem exists_numeral {g : Segment} {rest : List Char} (h : g.Fits rest)
    (hg : g.isNumber = true) : ∃ v, Numeral g.chars v := by
  cases g with
  | number whole fraction =>
    cases fraction with
    | none => exact ⟨_, .whole h.1⟩
    | some fraction => exact ⟨_, .fraction h.1 h.2.1⟩
  | _ => cases hg

namespace Yields

variable {g : Segment} {t : Token} {rest : List Char}

theorem kind_beq_number (h : g.Yields t) : (t.kind == .number) = g.isNumber := by
  cases h <;> rfl

/-- The token of a number has its text, and the decimal of that text, rounded. -/
theorem exists_read? (h : g.Yields t) (hg : g.Fits rest) (hn : g.isNumber = true) :
    t.lexeme.toList = g.chars ∧
      ∃ d, Decimal.read? g.chars = some d ∧ t.literal = some (.number (.ofDecimal d)) := by
  cases h with
  | whole digits line => exact ⟨String.toList_ofList, _, read?_number hg, rfl⟩
  | fraction digits fraction line => exact ⟨String.toList_ofList, _, read?_number hg, rfl⟩
  | _ => cases hn

end Yields

end Segment

/-- The numbers of a source have their tokens, in their order. -/
theorem forall₂_numbers (source : String) :
    List.Forall₂ (fun g t => (g.isNumber = true ∧ ∃ rest, g.Fits rest) ∧ g.Yields t)
      ((Source.cut source.toList).filter Segment.isNumber)
      ((scan source).tokens.filter (·.kind == .number)) := by
  -- Each number is a lexeme, so its token is among those of the lexemes.
  have hlexeme : ∀ g : Segment, (g.isNumber && g.isLexeme) = g.isNumber := fun g => by
    cases g <;> rfl
  have hyields := List.rel_filter (p := Segment.isNumber) (q := fun t => t.kind == .number)
    (fun _ _ h => iff_of_eq (congrArg (· = true) h.kind_beq_number.symm))
    (forall₂_yields source)
  have heof : [Token.eof (1 + lineFeeds source.toList)].filter (·.kind == .number) = [] := rfl
  rw [List.filter_filter, List.filter_congr fun g _ => hlexeme g] at hyields
  rw [tokens_scan, List.filter_append, heof, List.append_nil, List.forall₂_and_left]
  refine ⟨fun g hg => ?_, hyields⟩
  obtain ⟨hmem, hn⟩ := List.mem_filter.mp hg
  obtain ⟨a, b, hcut⟩ := List.append_of_mem hmem
  have hlawful := Source.lawful_cut source.toList
  rw [hcut] at hlawful
  exact ⟨hn, _, hlawful.right.1⟩

/-- A number token is that of a number of the source. -/
theorem exists_yields_of_mem_tokens {source : String} {t : Token}
    (ht : t ∈ (scan source).tokens) (hk : t.kind = .number) :
    ∃ (g : Segment) (rest : List Char), g.isNumber = true ∧ g.Fits rest ∧ g.Yields t := by
  have hmem : t ∈ (scan source).tokens.filter (·.kind == .number) :=
    List.mem_filter.mpr ⟨ht, beq_iff_eq.mpr hk⟩
  obtain ⟨g, -, ⟨hn, rest, hg⟩, hyields⟩ := exists_mem_of_forall₂ (forall₂_numbers source).flip hmem
  exact ⟨g, rest, hn, hg, hyields⟩

/-- The value of a number token is its lexeme as a decimal, rounded. -/
theorem exists_read?_of_mem_tokens {source : String} {t : Token} (ht : t ∈ (scan source).tokens)
    (hk : t.kind = .number) : ∃ d, Decimal.read? t.lexeme.toList = some d ∧
      t.literal = some (.number (.ofDecimal d)) := by
  obtain ⟨g, rest, hn, hg, hyields⟩ := exists_yields_of_mem_tokens ht hk
  obtain ⟨hlexeme, hread⟩ := hyields.exists_read? hg hn
  rwa [hlexeme]

/-- The lexeme of a number token is a numeral. -/
theorem exists_numeral_of_mem_tokens {source : String} {t : Token} (ht : t ∈ (scan source).tokens)
    (hk : t.kind = .number) : ∃ v, Numeral t.lexeme.toList v := by
  obtain ⟨g, rest, hn, hg, hyields⟩ := exists_yields_of_mem_tokens ht hk
  rw [(hyields.exists_read? hg hn).1]
  exact Segment.exists_numeral hg hn

/-- What a number token stands for is the value of its lexeme, rounded. -/
theorem exists_eq_ofDecimal {source : String} {t : Token} {v : ℚ} {x : Binary64}
    (ht : t ∈ (scan source).tokens) (hk : t.kind = .number) (hv : Numeral t.lexeme.toList v)
    (hx : t.literal = some (.number x)) : ∃ d : Decimal, d.toRat = v ∧ .ofDecimal d = x := by
  obtain ⟨d, hread, hliteral⟩ := exists_read?_of_mem_tokens ht hk
  obtain ⟨d', hread', hvalue⟩ := hv.exists_read?
  obtain rfl : d = d' := Option.some.inj (hread.symm.trans hread')
  exact ⟨d, hvalue, Literal.number.inj (Option.some.inj (hliteral.symm.trans hx))⟩

/-- Each number of a source has its token, and no number is an error. The value of a token stands
for the exact value of its lexeme, whatever the length of it, and the values of the tokens of any
two sources are in the order of those exact values. -/
theorem scan_numbers_exact (source : String) :
    (∀ literal line, .invalidNumber literal line ∉ (scan source).errors) ∧
    (∃ segments, Source.IsCut source.toList segments ∧
      List.Forall₂ (fun g t => t.lexeme = String.ofList g.chars ∧
          ∃ v x, Numeral g.chars v ∧ t.literal = some (.number x) ∧ x.Exact v)
        (segments.filter Segment.isNumber)
        ((scan source).tokens.filter (·.kind == .number))) ∧
    ∀ (other : String) (t t' : Token) (v v' : ℚ) (x x' : Binary64),
      t ∈ (scan source).tokens → t.kind = .number → Numeral t.lexeme.toList v →
        t.literal = some (.number x) →
      t' ∈ (scan other).tokens → t'.kind = .number → Numeral t'.lexeme.toList v' →
        t'.literal = some (.number x') →
      v ≤ v' → x.atMost x' = true := by
  refine ⟨fun literal line hmem => ?_, ⟨_, Source.isCut_iff.mpr rfl, ?_⟩, ?_⟩
  · obtain ⟨g, -, hfails⟩ := exists_mem_of_forall₂ (forall₂_fails source).flip hmem
    cases hfails
  · refine (forall₂_numbers source).imp fun g t ⟨⟨hn, rest, hg⟩, hyields⟩ => ?_
    obtain ⟨hlexeme, d, hread, hliteral⟩ := hyields.exists_read? hg hn
    obtain ⟨v, hv⟩ := Segment.exists_numeral hg hn
    obtain ⟨d', hread', rfl⟩ := hv.exists_read?
    obtain rfl : d = d' := Option.some.inj (hread.symm.trans hread')
    refine ⟨?_, _, _, hv, hliteral, Binary64.exact_ofDecimal d⟩
    rw [← hlexeme, String.ofList_toList]
  · intro other t t' v v' x x' ht hk hv hx ht' hk' hv' hx' hle
    obtain ⟨d, rfl, rfl⟩ := exists_eq_ofDecimal ht hk hv hx
    obtain ⟨d', rfl, rfl⟩ := exists_eq_ofDecimal ht' hk' hv' hx'
    exact Binary64.atMost_ofDecimal hle

/-- The first number is halfway between two others and becomes the lower one, which is even. The
second one is more than halfway. -/
theorem scan_numbers_exact_of_tie :
    (scan "9007199254740993").tokens.head? = some ⟨.number, "9007199254740993", 1,
      some (.number (.ofBits 0x4340000000000000))⟩ ∧
    (scan "9007199254740993.5").tokens.head? = some ⟨.number, "9007199254740993.5", 1,
      some (.number (.ofBits 0x4340000000000001))⟩ ∧
    wholeValue "9007199254740993".toList ≤
      wholeValue "9007199254740993".toList + fractionValue ['5'] ∧
    (Binary64.ofBits 0x4340000000000000).atMost (.ofBits 0x4340000000000001) = true := by
  have htoken : (scan "9007199254740993").tokens.head? = some ⟨.number, "9007199254740993", 1,
      some (.number (.ofBits 0x4340000000000000))⟩ := by
    decide +kernel
  have htoken' : (scan "9007199254740993.5").tokens.head? = some ⟨.number, "9007199254740993.5", 1,
      some (.number (.ofBits 0x4340000000000001))⟩ := by
    decide +kernel
  have hdigits : IsDigits "9007199254740993".toList := by decide +kernel
  have hnumeral : Numeral "9007199254740993.5".toList
      (wholeValue "9007199254740993".toList + fractionValue ['5']) :=
    .fraction hdigits (by decide)
  have hle : wholeValue "9007199254740993".toList ≤
      wholeValue "9007199254740993".toList + fractionValue ['5'] :=
    le_add_of_nonneg_right (fractionValue_nonneg _)
  exact ⟨htoken, htoken', hle, (scan_numbers_exact "9007199254740993").2.2 "9007199254740993.5"
    _ _ _ _ _ _ (List.mem_of_mem_head? htoken) rfl (.whole hdigits) rfl
    (List.mem_of_mem_head? htoken') rfl hnumeral rfl hle⟩

end Loxeme
