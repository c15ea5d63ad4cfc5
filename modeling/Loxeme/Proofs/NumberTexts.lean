import Loxeme.Proofs.Lexemes
import Loxeme.Proofs.NumberValues

/-!
# The texts of number tokens

The value of a number token is written with digits on either side of a point if it is zero, or at
least `0.0001` and less than `10 ^ 16`. Then its text is a source of one number, which is the same
again. The texts of all other values have an exponent or are a word.

* `Decimal.lead`, `Decimal.le_lead_iff`: the place of the first digit of a decimal.
* `Binary64.le_lead_shortest_iff`: from which number on the first digit has a given place.
* `Binary64.layout_iff`: which magnitudes are written with a point.
* `Binary64.pointedAs_positional`: digits that are laid out around a point keep their value.
* `IsPointed`: digits, a point and digits behind it.
* `scan_of_pointed`: such a text is a source of one number.
* `number_text_isPointed_iff`: which numbers are written so, and that they are read back.
-/

namespace Loxeme

/-! ## Figures -/

namespace Binary64

theorem isDigits_figures (n : Nat) : IsDigits (figures n) := by
  refine ⟨Nat.toDigits_ne_nil, fun c hc => ?_⟩
  have hdigit := Nat.isDigit_of_mem_toDigits (by decide) (by decide) hc
  simpa [isDigit, Char.isDigit, Char.le_def] using hdigit

theorem digitsValue_figures (n : Nat) : Decimal.digitsValue (figures n) = n := by
  rw [Decimal.digitsValue_eq_ofDigitChars]
  exact Nat.ofDigitChars_ten_toDigits

theorem length_figures_pos (n : Nat) : 0 < (figures n).length :=
  List.length_pos_iff.mpr (isDigits_figures n).1

theorem lt_pow_length_figures (n : Nat) : n < 10 ^ (figures n).length :=
  (Nat.length_toDigits_le_iff (by decide) (length_figures_pos n)).mp le_rfl

theorem pow_length_figures_le {n : Nat} (hn : n ≠ 0) : 10 ^ ((figures n).length - 1) ≤ n := by
  rcases Nat.eq_zero_or_pos ((figures n).length - 1) with h | h
  · rw [h]
    exact Nat.one_le_iff_ne_zero.mpr hn
  · have hiff := Nat.length_toDigits_le_iff (n := n) (b := 10) (by decide) h
    exact Nat.not_lt.mp (hiff.not.mp (Nat.not_le.mpr (by unfold figures at *; omega)))

end Binary64

/-! ## The first digit -/

namespace Decimal

variable {d : Decimal}

/-- The exponent of ten of the first digit of a decimal. -/
def lead (d : Decimal) : Int :=
  Binary64.leadingExponent (Binary64.figures d.coefficient) d.exponent

theorem zpow_lead_le (h : d.coefficient ≠ 0) : (10 : ℚ) ^ d.lead ≤ d.toRat := by
  have hpos := Binary64.length_figures_pos d.coefficient
  have hsplit : d.lead = ((Binary64.figures d.coefficient).length - 1 : Nat) + d.exponent := by
    unfold lead Binary64.leadingExponent
    omega
  rw [hsplit, zpow_add₀ (by norm_num), zpow_natCast, toRat]
  have hle := Binary64.pow_length_figures_le h
  gcongr
  exact_mod_cast hle

theorem lt_zpow_lead (d : Decimal) : d.toRat < (10 : ℚ) ^ (d.lead + 1) := by
  have hsplit : d.lead + 1 = (Binary64.figures d.coefficient).length + d.exponent := by
    unfold lead Binary64.leadingExponent
    omega
  rw [hsplit, zpow_add₀ (by norm_num), zpow_natCast, toRat]
  have hlt := Binary64.lt_pow_length_figures d.coefficient
  gcongr
  exact_mod_cast hlt

/-- The first digit has a place or a higher one if the decimal is at least that power of ten. -/
theorem le_lead_iff (h : d.coefficient ≠ 0) {k : Int} : k ≤ d.lead ↔ (10 : ℚ) ^ k ≤ d.toRat := by
  constructor
  · intro hk
    exact (zpow_le_zpow_right₀ (by norm_num) hk).trans (zpow_lead_le h)
  · intro hk
    have hlt := hk.trans_lt d.lt_zpow_lead
    rw [zpow_lt_zpow_iff_right₀ (by norm_num)] at hlt
    exact Int.lt_add_one_iff.mp hlt

end Decimal

namespace Binary64

variable {c p : Nat} {k : Int}

theorem code_shortest (h : c ≤ infinityCode) : (ofDecimal (shortest c)).code = c :=
  beq_iff_eq.mp (readsBack_shortest h)

theorem coefficient_shortest_ne_zero (h : c ≤ infinityCode) (hc : c ≠ 0) :
    (shortest c).coefficient ≠ 0 := by
  intro hzero
  have hsmall : (shortest c).toRat ≤ leastPositive / 2 := by
    rw [Decimal.toRat, hzero, Nat.cast_zero, zero_mul]
    exact (half_pos leastPositive_pos).le
  have hcode := code_shortest h
  rw [(ofDecimal_eq_zero_iff _).mpr hsmall] at hcode
  exact hc hcode.symm

/-- The shortest digits of a number start at a power of ten or above it exactly if the number is at
least the one that the power is rounded to, as long as that one is written with this power. -/
theorem le_lead_shortest_iff (hp : (ofDecimal ⟨1, k⟩).code = p) (hlead : (shortest p).lead = k)
    (h : c ≤ infinityCode) (hc : c ≠ 0) : k ≤ (shortest c).lead ↔ p ≤ c := by
  have hten : (⟨1, k⟩ : Decimal).toRat = 10 ^ k := by
    rw [Decimal.toRat, Nat.cast_one, one_mul]
  have hcode := code_shortest h
  rw [Decimal.le_lead_iff (coefficient_shortest_ne_zero h hc), ← hten]
  constructor
  · intro hle
    rw [← hp, ← hcode]
    exact code_ofDecimal_le hle
  · intro hle
    by_contra hlt
    have hge := code_ofDecimal_le (not_le.mp hlt).le
    rw [hp, hcode] at hge
    -- A smaller decimal is rounded to the same number, whose own digits start at the power.
    obtain rfl := Nat.le_antisymm hle hge
    rw [hten, ← Decimal.le_lead_iff (coefficient_shortest_ne_zero h hc), hlead] at hlt
    exact hlt le_rfl

/-! ## Which layout is taken -/

/-- The code of the least positive number that is written with a point. -/
def leastPointed : Nat := 0x3F1A36E2EB1C432D

/-- The code of the least number above those that are written with a point. -/
def leastScientific : Nat := 0x4341C37937E08000

theorem layout_iff (h : c ≤ infinityCode) (hc : c ≠ 0) :
    (Literal.layout.least ≤ (shortest c).lead ∧ (shortest c).lead ≤ Literal.layout.greatest) ↔
      leastPointed ≤ c ∧ c < leastScientific := by
  have hleast : -4 ≤ (shortest c).lead ↔ leastPointed ≤ c :=
    le_lead_shortest_iff (by decide +kernel) (by decide +kernel) h hc
  have hgreatest : 16 ≤ (shortest c).lead ↔ leastScientific ≤ c :=
    le_lead_shortest_iff (by decide +kernel) (by decide +kernel) h hc
  have hbelow : (shortest c).lead ≤ 15 ↔ ¬16 ≤ (shortest c).lead := by omega
  show -4 ≤ (shortest c).lead ∧ (shortest c).lead ≤ 15 ↔ _
  rw [hleast, hbelow, hgreatest, Nat.not_le]

/-- The exponents are variables, as the numbers are too great to be computed with. -/
private theorem one_div_pow_le_iff (n k b : Nat) :
    (1 / 10 ^ k : ℚ) ≤ n * (1 / 2 ^ b) ↔ 2 ^ b ≤ n * 10 ^ k := by
  rw [mul_one_div, div_le_div_iff₀ (by positivity) (by positivity), one_mul]
  exact_mod_cast Iff.rfl

private theorem lt_pow_iff (n k b : Nat) : (n * (1 / 2 ^ b) : ℚ) < 10 ^ k ↔ n < 10 ^ k * 2 ^ b := by
  rw [mul_one_div, div_lt_iff₀ (by positivity)]
  exact_mod_cast Iff.rfl

theorem leastPointed_le_iff : leastPointed ≤ c ↔ 1 / 10 ^ 4 ≤ units c * leastPositive := by
  rw [leastPositive, one_div_pow_le_iff]
  have hbelow : units (leastPointed - 1) * 10 ^ 4 < 2 ^ 1074 := by decide +kernel
  have habove : 2 ^ 1074 ≤ units leastPointed * 10 ^ 4 := by decide +kernel
  constructor
  · intro h
    exact habove.trans (Nat.mul_le_mul_right _ (units_strictMono.monotone h))
  · intro h
    by_contra hlt
    have hle := units_strictMono.monotone (Nat.le_sub_one_of_lt (Nat.not_le.mp hlt))
    exact (hbelow.trans_le h).not_ge (Nat.mul_le_mul_right _ hle)

theorem lt_leastScientific_iff : c < leastScientific ↔ units c * leastPositive < 10 ^ 16 := by
  have hunits : units leastScientific = 10 ^ 16 * 2 ^ 1074 := by decide +kernel
  rw [leastPositive, lt_pow_iff, ← hunits, units_strictMono.lt_iff_lt]

end Binary64

/-! ## Digits around a point -/

/-- A text of digits, a point and digits behind it. -/
def IsPointed (text : List Char) : Prop :=
  ∃ whole fraction, IsDigits whole ∧ IsDigits fraction ∧ text = whole ++ '.' :: fraction

/-- Such a text and its value. -/
def PointedAs (text : List Char) (v : ℚ) : Prop :=
  ∃ whole fraction, IsDigits whole ∧ IsDigits fraction ∧ text = whole ++ '.' :: fraction ∧
    (Decimal.ofDigits whole fraction).toRat = v

theorem isDigits_append {a b : List Char} (ha : IsDigits a) (hb : ∀ c ∈ b, isDigit c = true) :
    IsDigits (a ++ b) :=
  ⟨fun h => ha.1 (List.append_eq_nil_iff.mp h).1, fun c hc =>
    (List.mem_append.mp hc).elim (ha.2 c) (hb c)⟩

theorem isDigit_of_mem_zeros {n : Nat} {c : Char} (h : c ∈ List.replicate n '0') :
    isDigit c = true := by
  rw [List.eq_of_mem_replicate h]
  rfl

namespace Decimal

theorem digitsValue_zeros (n : Nat) : digitsValue (List.replicate n '0') = 0 := by
  rw [digitsValue_eq_ofDigitChars, Nat.ofDigitChars_replicate_zero, Nat.mul_zero]

/-- Zeros in front do not count. -/
theorem digitsValue_zeros_append (n : Nat) (digits : List Char) :
    digitsValue (List.replicate n '0' ++ digits) = digitsValue digits := by
  rw [digitsValue_append, digitsValue_zeros, Nat.mul_zero, Nat.zero_add]

/-- Each zero behind digits counts ten times. -/
theorem digitsValue_append_zeros (digits : List Char) (n : Nat) :
    digitsValue (digits ++ List.replicate n '0') = 10 ^ n * digitsValue digits := by
  rw [digitsValue_append, digitsValue_zeros, List.length_replicate, Nat.add_zero]

end Decimal

namespace Binary64

variable {digits : List Char} {lead : Int}

/-- Before the first digit of a small number there are zeros, one of them before the point. -/
theorem pointedAs_positional_of_neg (h : IsDigits digits) (hlead : lead < 0) :
    PointedAs (positional digits lead)
      (Decimal.digitsValue digits * 10 ^ (lead + 1 - digits.length)) := by
  refine ⟨['0'], List.replicate (-lead - 1).toNat '0' ++ digits, by decide, ⟨?_, ?_⟩, ?_, ?_⟩
  · exact fun hnil => h.1 (List.append_eq_nil_iff.mp hnil).2
  · exact fun c hc => (List.mem_append.mp hc).elim isDigit_of_mem_zeros (h.2 c)
  · rw [positional, if_pos hlead]
    rfl
  · have hzeros : ['0'] ++ (List.replicate (-lead - 1).toNat '0' ++ digits) =
        List.replicate ((-lead - 1).toNat + 1) '0' ++ digits := rfl
    rw [Decimal.toRat, Decimal.ofDigits, hzeros, Decimal.digitsValue_zeros_append]
    congr 2
    simp only [List.length_append, List.length_replicate]
    omega

/-- The digits of a number that is not small start before the point. They end there too, followed by
zeros, or go on behind it. -/
theorem pointedAs_positional_of_nonneg (h : IsDigits digits) (hlead : 0 ≤ lead) :
    PointedAs (positional digits lead)
      (Decimal.digitsValue digits * 10 ^ (lead + 1 - digits.length)) := by
  obtain ⟨n, rfl⟩ := Int.eq_ofNat_of_zero_le hlead
  have hlayout : positional digits n = digits.take (n + 1) ++
      List.replicate (n + 1 - digits.length) '0' ++ '.' ::
        (if (digits.drop (n + 1)).isEmpty then ['0'] else digits.drop (n + 1)) := by
    rw [positional, if_neg (by omega)]
    rfl
  rcases Nat.lt_or_ge (n + 1) digits.length with hlong | hshort
  · -- Some digits are left behind the point.
    have hfraction : digits.drop (n + 1) ≠ [] := by
      rw [Ne, List.drop_eq_nil_iff]
      omega
    have hnone : n + 1 - digits.length = 0 := by omega
    rw [hlayout, hnone, List.replicate_zero, List.append_nil,
      if_neg (fun he => hfraction (List.isEmpty_iff.mp he))]
    refine ⟨digits.take (n + 1), digits.drop (n + 1), ⟨?_, ?_⟩, ⟨hfraction, ?_⟩, rfl, ?_⟩
    · simpa [List.take_eq_nil_iff] using h.1
    · exact fun c hc => h.2 c (List.mem_of_mem_take hc)
    · exact fun c hc => h.2 c (List.mem_of_mem_drop hc)
    · rw [Decimal.toRat, Decimal.ofDigits, List.take_append_drop, List.length_drop]
      congr 2
      dsimp only
      omega
  · -- All digits are before the point, and zeros fill the places up to it.
    rw [hlayout, List.drop_eq_nil_of_le hshort, List.take_of_length_le hshort]
    refine ⟨digits ++ List.replicate (n + 1 - digits.length) '0', ['0'],
      isDigits_append h fun c hc => isDigit_of_mem_zeros hc, by decide, rfl, ?_⟩
    obtain ⟨k, hk⟩ := Nat.exists_eq_add_of_le hshort
    have hzeros : digits ++ List.replicate k '0' ++ ['0'] =
        digits ++ List.replicate (k + 1) '0' := by
      rw [List.append_assoc, List.replicate_succ']
    have hexponent : (n : ℤ) + 1 - digits.length = k := by omega
    rw [hk, Nat.add_sub_cancel_left, Decimal.toRat, Decimal.ofDigits, hzeros,
      Decimal.digitsValue_append_zeros, hexponent]
    simp only [List.length_singleton, Nat.cast_one, zpow_neg_one, zpow_natCast]
    push_cast
    ring

/-- Digits that are laid out around a point keep their value. -/
theorem pointedAs_positional (h : IsDigits digits) (lead : Int) :
    PointedAs (positional digits lead)
      (Decimal.digitsValue digits * 10 ^ (lead + 1 - digits.length)) :=
  (lt_or_ge lead 0).elim (pointedAs_positional_of_neg h) (pointedAs_positional_of_nonneg h)

theorem pointedAs_positional_lead (d : Decimal) :
    PointedAs (positional (figures d.coefficient) d.lead) d.toRat := by
  have hexponent : d.lead + 1 - (figures d.coefficient).length = d.exponent := by
    unfold Decimal.lead leadingExponent
    omega
  have h := pointedAs_positional (isDigits_figures d.coefficient) d.lead
  rwa [digitsValue_figures, hexponent] at h

end Binary64

/-! ## Texts -/

theorem IsPointed.isDigit_or_point {text : List Char} (h : IsPointed text) :
    ∀ c ∈ text, isDigit c = true ∨ c = '.' := by
  obtain ⟨whole, fraction, hw, hf, rfl⟩ := h
  exact (Numeral.fraction hw hf).isDigit_or_point

namespace Binary64

theorem magnitude_of_ne {c : Nat} (h : c ≠ infinityCode) (hc : c ≠ 0) :
    Literal.layout.magnitude c =
      if Literal.layout.least ≤ (shortest c).lead ∧ (shortest c).lead ≤ Literal.layout.greatest then
        positional (figures (shortest c).coefficient) (shortest c).lead
      else scientific (figures (shortest c).coefficient) (shortest c).lead := by
  rw [Layout.magnitude, if_neg (by simpa using h), if_neg (by simpa using hc)]
  rfl

/-- Which magnitudes are written with a point and digits on either side of it. -/
def IsPlain (c : Nat) : Prop :=
  c = 0 ∨ leastPointed ≤ c ∧ c < leastScientific

/-- A magnitude that is written with a point has its value again. -/
theorem IsPlain.exists_magnitude {c : Nat} (h : IsPlain c) :
    ∃ whole fraction, IsDigits whole ∧ IsDigits fraction ∧
      Literal.layout.magnitude c = whole ++ '.' :: fraction ∧
      (ofDecimal (.ofDigits whole fraction)).code = c := by
  rcases h with rfl | ⟨hleast, hgreatest⟩
  · exact ⟨['0'], ['0'], by decide, by decide, rfl, by decide +kernel⟩
  · have hinfinity : c < infinityCode := hgreatest.trans (by decide)
    have hzero : c ≠ 0 := (Nat.lt_of_lt_of_le (by decide) hleast).ne'
    obtain ⟨whole, fraction, hw, hf, htext, hvalue⟩ := pointedAs_positional_lead (shortest c)
    refine ⟨whole, fraction, hw, hf, ?_, ?_⟩
    · rw [magnitude_of_ne hinfinity.ne hzero, ← htext]
      exact if_pos ((layout_iff hinfinity.le hzero).mpr ⟨hleast, hgreatest⟩)
    · rw [ofDecimal_congr hvalue, code_shortest hinfinity.le]

/-- A magnitude that is written otherwise has a letter in its text. -/
theorem exists_letter_of_not_isPlain {c : Nat} (h : c ≤ infinityCode) (hplain : ¬IsPlain c) :
    ∃ l ∈ Literal.layout.magnitude c, ¬(isDigit l = true ∨ l = '.') := by
  by_cases hinfinity : c = infinityCode
  · -- The infinite magnitude is written as a word, and all others with an `e`.
    exact ⟨'i', hinfinity ▸ .head _, by decide⟩
  · have hzero : c ≠ 0 := fun hzero => hplain (.inl hzero)
    have hlayout := (layout_iff h hzero).not.mpr fun hbounds => hplain (.inr hbounds)
    rw [magnitude_of_ne hinfinity hzero, if_neg hlayout]
    exact ⟨'e', by simp [scientific], by decide⟩

theorem isPointed_magnitude_iff {c : Nat} (h : c ≤ infinityCode) :
    IsPointed (Literal.layout.magnitude c) ↔ IsPlain c := by
  constructor
  · intro hpointed
    by_contra hplain
    obtain ⟨l, hl, hletter⟩ := exists_letter_of_not_isPlain h hplain
    exact hletter (hpointed.isDigit_or_point l hl)
  · intro hplain
    obtain ⟨whole, fraction, hw, hf, htext, -⟩ := hplain.exists_magnitude
    exact ⟨whole, fraction, hw, hf, htext⟩

end Binary64

/-- A numeral with a point is a source of one number. -/
theorem scan_of_pointed {text : String} {whole fraction : List Char} (hw : IsDigits whole)
    (hf : IsDigits fraction) (htext : text.toList = whole ++ '.' :: fraction) :
    (scan text).tokens =
        [⟨.number, text, 1, some (.number (.ofDecimal (.ofDigits whole fraction)))⟩,
          Token.eof 1] ∧
      (scan text).errors = [] := by
  have hcut : Source.cut text.toList = [.number whole (some fraction)] := by
    rw [Source.cut_eq_iff, htext]
    refine ⟨List.append_nil _, ⟨hw, hf, ?_⟩, Source.lawful_nil⟩
    rintro c ⟨⟩
  have hclean : Source.Clean (Source.cut text.toList) := by
    rw [hcut]
    exact Source.clean_cons.mpr ⟨rfl, Source.clean_nil⟩
  have hline : lineFeeds text.toList = 0 := by
    refine List.count_eq_zero_of_not_mem fun hmem => ?_
    rcases IsPointed.isDigit_or_point ⟨whole, fraction, hw, hf, htext⟩ _ hmem with h | h <;>
      exact absurd h (by decide)
  have hread := Decimal.read?_fraction hw.1 hw.2 hf.1 hf.2
  have hlexeme : String.ofList (whole ++ '.' :: fraction) = text := by
    rw [← htext, String.ofList_toList]
  refine ⟨?_, (errors_eq_nil_iff text).mpr hclean⟩
  rw [tokens_scan, lexemes_scan, hline, hcut, Source.tokensFrom, Source.place_cons,
    Source.place_nil, List.filterMap_cons, List.filterMap_nil]
  simp only [Piece.finding?, Piece.lexeme, Segment.chars, hread, hlexeme]
  rfl

namespace Binary64

variable {x : Binary64}

/-- The plain magnitudes are zero and those from `0.0001` to below `10 ^ 16`. -/
theorem isPlain_iff (hsign : x.negative = false) :
    IsPlain x.code ↔ x = zero ∨ ∃ q, x.toRat? = some q ∧ 1 / 10 ^ 4 ≤ q ∧ q < 10 ^ 16 := by
  have hzero : x.code = 0 ↔ x = zero := ⟨fun h => eq_of_code_eq hsign h, fun h => h ▸ rfl⟩
  have hvalue : x.code < infinityCode → x.toRat? = some (units x.code * leastPositive) := fun h =>
    toRat?_eq_some_iff.mpr ⟨h, by rw [hsign]; rfl⟩
  rw [IsPlain, hzero, leastPointed_le_iff, lt_leastScientific_iff]
  refine or_congr_right ⟨fun ⟨hleast, hgreatest⟩ => ⟨_, hvalue ?_, hleast, hgreatest⟩, ?_⟩
  · exact (lt_leastScientific_iff.mpr hgreatest).trans (by decide)
  · rintro ⟨q, hq, hleast, hgreatest⟩
    rw [hvalue (toRat?_eq_some_iff.mp hq).1] at hq
    obtain rfl := Option.some.inj hq
    exact ⟨hleast, hgreatest⟩

end Binary64

/-- The value of a number token is written with digits on either side of a point exactly if it is
zero, or at least `0.0001` and less than `10 ^ 16`. Then its text alone is a source of one number,
without an error, and the number is the same. Otherwise its text is a source of something else. -/
theorem number_text_isPointed_iff {source : String} {t : Token} {x : Binary64}
    (ht : t ∈ (scan source).tokens) (hk : t.kind = .number) (hx : t.literal = some (.number x)) :
    (IsPointed (Literal.number x).toText.toList ↔
      x = .zero ∨ ∃ q, x.toRat? = some q ∧ 1 / 10 ^ 4 ≤ q ∧ q < 10 ^ 16) ∧
    (IsPointed (Literal.number x).toText.toList →
      (scan (Literal.number x).toText).tokens =
          [⟨.number, (Literal.number x).toText, 1, some (.number x)⟩, Token.eof 1] ∧
        (scan (Literal.number x).toText).errors = [] ∧ x.agrees x = true) ∧
    (¬IsPointed (Literal.number x).toText.toList → ∀ y,
      (scan (Literal.number x).toText).tokens ≠
        [⟨.number, (Literal.number x).toText, 1, some (.number y)⟩, Token.eof 1]) := by
  obtain ⟨d, -, hliteral⟩ := exists_read?_of_mem_tokens ht hk
  obtain rfl : Binary64.ofDecimal d = x :=
    Literal.number.inj (Option.some.inj (hliteral.symm.trans hx))
  have htext : (Literal.number (.ofDecimal d)).toText.toList =
      Literal.layout.magnitude (Binary64.ofDecimal d).code := by
    simp [Literal.toText, Binary64.toText]
  have hcode := Binary64.roundQuotient_le d.numerator d.denominator
  have hiff := Binary64.isPointed_magnitude_iff hcode
  rw [htext, ← Binary64.isPlain_iff rfl]
  refine ⟨hiff, fun hpointed => ?_, fun hpointed y htokens => ?_⟩
  · obtain ⟨whole, fraction, hw, hf, hmagnitude, hback⟩ := (hiff.mp hpointed).exists_magnitude
    have hsame : Binary64.ofDecimal (.ofDigits whole fraction) = .ofDecimal d :=
      Binary64.eq_of_code_eq rfl hback
    obtain ⟨htokens, herrors⟩ := scan_of_pointed hw hf (htext.trans hmagnitude)
    rw [hsame] at htokens
    exact ⟨htokens, herrors, Binary64.agrees_ofDecimal_self d⟩
  · obtain ⟨v, hnumeral⟩ := exists_numeral_of_mem_tokens (htokens ▸ List.mem_cons_self) rfl
    obtain ⟨l, hl, hletter⟩ := Binary64.exists_letter_of_not_isPlain hcode (hiff.not.mp hpointed)
    exact hletter (hnumeral.isDigit_or_point l (htext ▸ hl))

/-- The least number that is written with a point. -/
theorem number_text_isPointed_iff_of_least :
    (scan "0.00010").tokens.head? =
        some ⟨.number, "0.00010", 1, some (.number (.ofBits 0x3F1A36E2EB1C432D))⟩ ∧
      (Literal.number (.ofBits 0x3F1A36E2EB1C432D)).toText = "0.0001" ∧
      (scan "0.0001").tokens =
        [⟨.number, "0.0001", 1, some (.number (.ofBits 0x3F1A36E2EB1C432D))⟩, Token.eof 1] := by
  have htoken : (scan "0.00010").tokens.head? =
      some ⟨.number, "0.00010", 1, some (.number (.ofBits 0x3F1A36E2EB1C432D))⟩ := by
    decide +kernel
  have htext : (Literal.number (.ofBits 0x3F1A36E2EB1C432D)).toText = "0.0001" := by
    decide +kernel
  have hpointed : IsPointed (Literal.number (.ofBits 0x3F1A36E2EB1C432D)).toText.toList :=
    htext ▸ ⟨['0'], ['0', '0', '0', '1'], by decide, by decide, rfl⟩
  have hscan := (number_text_isPointed_iff (List.mem_of_mem_head? htoken) rfl rfl).2.1 hpointed
  rw [htext] at hscan
  exact ⟨htoken, htext, hscan.1⟩

/-- A number that is written with an exponent. Its text is a source of a number and a name. -/
theorem not_isPointed_of_sixteen_zeros :
    (scan "10000000000000000").tokens = [⟨.number, "10000000000000000", 1,
        some (.number (.ofBits 0x4341C37937E08000))⟩, Token.eof 1] ∧
      (Literal.number (.ofBits 0x4341C37937E08000)).toText = "1e16" ∧
      ¬IsPointed (Literal.number (.ofBits 0x4341C37937E08000)).toText.toList ∧
      (scan "1e16").tokens.map Token.kind = [.number, .identifier, .eof] := by
  have htext : (Literal.number (.ofBits 0x4341C37937E08000)).toText = "1e16" := by decide +kernel
  refine ⟨by decide +kernel, htext, fun h => ?_, by decide +kernel⟩
  rw [htext] at h
  rcases h.isDigit_or_point 'e' (.tail _ (.head _)) with h | h <;> exact absurd h (by decide)

end Loxeme
