/-
# The text of a number

The layout is chosen by comparing doubles with two limits, but readers see the exponent of the
leading digit. Each limit attracts a power of ten. Whatever is attracted by a smaller double lies
before that power, and whatever is attracted by a larger one lies behind it, so no double crosses
the power when it is written in its shortest form.

Either layout denotes the shortest decimal exactly, and that rounds to the double. So the text of
a double tells which one it is, unless it is a zero.
-/

import HtmlTemplate.Proofs.Decimal.Reading
import HtmlTemplate.Proofs.Decimal.Decoding

namespace HtmlTemplate.Decimal

open Binary64

/-! ## Where the layout changes -/

section Limits

variable {limit x : Magnitude} {power : Int}

/-- Magnitudes are compared by their exact values. -/
theorem isAtMost_iff {y : Magnitude} : x.isAtMost y = true ↔ x.value ≤ y.value := by
  have unit : (0 : ℚ) < 2 ^ (y.exponent - x.exponent).toNat / 2 ^ y.exponent := by positivity
  have scaled : (2 : ℚ) ^ x.exponent * (2 ^ (y.exponent - x.exponent).toNat / 2 ^ y.exponent) =
      2 ^ (x.exponent - y.exponent).toNat := by
    have split := zpow_mul_pow_toNat (show (2 : ℚ) ≠ 0 by norm_num) (x.exponent - y.exponent)
    rw [neg_sub, zpow_sub₀ (by norm_num)] at split
    rw [← split]
    ring
  have whole : (2 : ℚ) ^ y.exponent * (2 ^ (y.exponent - x.exponent).toNat / 2 ^ y.exponent) =
      2 ^ (y.exponent - x.exponent).toNat :=
    mul_div_cancel₀ _ (by positivity)
  rw [Magnitude.isAtMost, decide_eq_true_iff, Nat.pow_eq, Nat.pow_eq, Magnitude.value,
    Magnitude.value, ← mul_le_mul_iff_left₀ unit, mul_assoc, mul_assoc, scaled, whole]
  exact_mod_cast Iff.rfl

/-- The leading digit stands at a power of ten or before it. -/
theorem le_leadingExponent_iff {found : Scientific} (nonzero : 0 < found.digits) :
    power ≤ found.leadingExponent ↔ (10 : ℚ) ^ power ≤ found.value := by
  constructor
  · intro upTo
    exact (zpow_le_zpow_right₀ (by norm_num) upTo).trans (le_value nonzero)
  · intro upTo
    have below := upTo.trans_lt (value_lt (le_refl _) (le_refl found.exponent))
    have ordered := (zpow_lt_zpow_iff_right₀ (by norm_num)).mp below
    have some : 0 < found.digitChars.length := Nat.length_toDigits_pos
    rw [Scientific.leadingExponent]
    omega

/-- A double is at least the limit exactly if its leading digit stands at least at the power of ten
that the limit attracts. What a smaller double attracts does not reach this power. -/
theorem limit_le_iff (limited : limit.IsCanonical) (above : 0 < limit.significand)
    (attracts : limit.Attracts (10 ^ power)) (inside : limit.low < 10 ^ power)
    (canonical : x.IsCanonical) (positive : 0 < x.significand) :
    limit.value ≤ x.value ↔ power ≤ (shortest x).leadingExponent := by
  have here := (attracts_shortest canonical positive).1
  have nonzero := digits_shortest_pos canonical positive
  rcases lt_trichotomy x.value limit.value with less | same | more
  · have before := here.within.2.trans (Magnitude.high_le_low canonical limited above less)
    rw [le_leadingExponent_iff nonzero]
    exact iff_of_false (not_le.mpr less) (not_le.mpr (before.trans_lt inside))
  · obtain rfl := canonical.eq_of_value_eq limited same
    have single : (Scientific.mk 1 power).value = 10 ^ power := by
      rw [Scientific.value, Nat.cast_one, one_mul]
    have grid : (Scientific.mk 1 power).exponent ≤ (shortest x).exponent :=
      exponent_le_of_attracts canonical positive (by rwa [single])
    have upTo : power ≤ (shortest x).exponent := grid
    apply iff_of_true (le_refl _)
    rw [Scientific.leadingExponent]
    omega
  · have behind := (Magnitude.high_le_low limited canonical positive more).trans here.within.1
    rw [le_leadingExponent_iff nonzero]
    exact iff_of_true more.le (attracts.within.2.trans behind)

/-- The lower limit is the double nearest to a millionth. -/
theorem positionalFrom_le_iff (canonical : x.IsCanonical) (positive : 0 < x.significand) :
    templateLayout.positionalFrom.isAtMost x = true ↔ -6 ≤ (shortest x).leadingExponent := by
  have limited : Magnitude.IsCanonical ⟨4722366482869645, -72⟩ :=
    ⟨by norm_num, by norm_num, Or.inl (by norm_num)⟩
  have low : Magnitude.low ⟨4722366482869645, -72⟩ < 10 ^ (-6 : Int) := by
    norm_num [Magnitude.low, Magnitude.below, Magnitude.value]
  have high : 10 ^ (-6 : Int) < Magnitude.high ⟨4722366482869645, -72⟩ := by
    norm_num [Magnitude.high, Magnitude.above, Magnitude.value]
  rw [isAtMost_iff]
  show Magnitude.value ⟨4722366482869645, -72⟩ ≤ x.value ↔ _
  exact limit_le_iff limited (by norm_num) (Magnitude.attracts_of_lt low high) low canonical
    positive

/-- The upper limit is a power of ten itself. -/
theorem positionalBelow_le_iff (canonical : x.IsCanonical) (positive : 0 < x.significand) :
    templateLayout.positionalBelow.isAtMost x = true ↔ 21 ≤ (shortest x).leadingExponent := by
  have limited : Magnitude.IsCanonical ⟨7629394531250000, 17⟩ :=
    ⟨by norm_num, by norm_num, Or.inl (by norm_num)⟩
  have value : templateLayout.positionalBelow.value = Magnitude.value ⟨7629394531250000, 17⟩ := by
    norm_num [templateLayout, Magnitude.value]
  have low : Magnitude.low ⟨7629394531250000, 17⟩ < 10 ^ (21 : Int) := by
    norm_num [Magnitude.low, Magnitude.below, Magnitude.value]
  have high : 10 ^ (21 : Int) < Magnitude.high ⟨7629394531250000, 17⟩ := by
    norm_num [Magnitude.high, Magnitude.above, Magnitude.value]
  rw [isAtMost_iff, value]
  exact limit_le_iff limited (by norm_num) (Magnitude.attracts_of_lt low high) low canonical
    positive

/-- A double is written without an exponent exactly if its leading digit stands between the two
powers of ten. -/
theorem isPositional_templateLayout_iff (canonical : x.IsCanonical)
    (positive : 0 < x.significand) :
    templateLayout.isPositional x = true ↔
      -6 ≤ (shortest x).leadingExponent ∧ (shortest x).leadingExponent < 21 := by
  rw [Layout.isPositional, Bool.and_eq_true, positionalFrom_le_iff canonical positive,
    Bool.not_eq_true', ← Bool.not_eq_true, positionalBelow_le_iff canonical positive, not_le]

end Limits

/-! ## The text of a double -/

/-- How a positive double is written that has the given shortest decimal. -/
structure IsLaidOut (body : List Char) (found : Scientific) : Prop where
  positional : IsPositional body ↔ -6 ≤ found.leadingExponent ∧ found.leadingExponent < 21
  exponential : ¬ IsPositional body → ∃ first others, found.digitChars = first :: others ∧
    body = (first :: if others = [] then [] else '.' :: others) ++
      'e' :: (if found.leadingExponent < 0 then '-' else '+') ::
        Nat.toDigits 10 found.leadingExponent.natAbs

section Text

variable {n : Float} {negative : Bool} {x : Magnitude}

/-- A double is written in the layout that its leading exponent asks for. -/
theorem isLaidOut_magnitude (canonical : x.IsCanonical) (positive : 0 < x.significand) :
    IsLaidOut (templateLayout.magnitude x) (shortest x) := by
  have limits := isPositional_templateLayout_iff canonical positive
  obtain ⟨first, others, digits⟩ :=
    List.exists_cons_of_ne_nil (shortest x).isDigits_digitChars.1
  rw [Layout.magnitude]
  split
  · rename_i within
    have positional := (shortest x).positional_spec.1
    exact ⟨iff_of_true positional (limits.mp within), fun other => absurd positional other⟩
  · rename_i outside
    have exponential := Scientific.exponential_eq digits
    have notPositional : ¬ IsPositional (shortest x).exponential := by
      intro positional
      have absent : 'e' ∉ (shortest x).exponential := positional.notMem (by decide) (by decide)
      rw [exponential] at absent
      exact absent (List.mem_append_right _ List.mem_cons_self)
    constructor
    · exact iff_of_false notPositional fun within => outside (limits.mpr within)
    · exact fun _ => ⟨first, others, digits, exponential⟩

/-- Whichever layout is chosen, the text denotes the shortest decimal. -/
theorem unsignedValue?_magnitude (x : Magnitude) :
    unsignedValue? (templateLayout.magnitude x) = some (shortest x).value := by
  rw [Layout.magnitude]
  split
  · exact Scientific.positional_spec.2
  · exact Scientific.unsignedValue?_exponential

/-- The first character of a positive double is a digit. -/
theorem exists_magnitude_eq_cons (x : Magnitude) :
    ∃ first others, templateLayout.magnitude x = first :: others ∧ first.isDigit = true := by
  have first {digits : List Char} (isDigits : IsDigits digits) (rest : List Char) :
      ∃ first others, digits ++ rest = first :: others ∧ first.isDigit = true := by
    obtain ⟨digit, others, rfl⟩ := List.exists_cons_of_ne_nil isDigits.1
    exact ⟨digit, others ++ rest, rfl, isDigits.2 digit List.mem_cons_self⟩
  rw [Layout.magnitude]
  split
  · rcases (shortest x).positional_spec.1 with digits | ⟨whole, fraction, digits, -, point⟩
    · simpa using first digits []
    · rw [point]
      exact first digits _
  · obtain ⟨digit, others, digits⟩ :=
      List.exists_cons_of_ne_nil (shortest x).isDigits_digitChars.1
    rw [Scientific.exponential_eq digits]
    exact ⟨digit, _, rfl, (shortest x).isDigits_digitChars.2 digit (by simp [digits])⟩

/-- A sign before a positive double turns what it denotes to the opposite. -/
theorem decimalValue?_magnitude (negative : Bool) (x : Magnitude) :
    decimalValue? ((if negative then ['-'] else []) ++ templateLayout.magnitude x) =
      some (if negative then -(shortest x).value else (shortest x).value) := by
  have read := unsignedValue?_magnitude x
  cases negative with
  | true =>
      show (do return -(← unsignedValue? (templateLayout.magnitude x))) = _
      rw [read]
      rfl
  | false =>
      obtain ⟨first, others, body, digit⟩ := exists_magnitude_eq_cons x
      show decimalValue? (templateLayout.magnitude x) = some (shortest x).value
      rw [body] at read ⊢
      rw [decimalValue?]
      · exact read
      · rintro rest same
        cases same
        cases digit

/-- The text of a finite double other than zero. -/
theorem toList_formatNumber (finite : ofFloat n = .finite negative x)
    (nonzero : x.significand ≠ 0) :
    (formatNumber n).toList =
      (if negative then ['-'] else []) ++ templateLayout.magnitude x := by
  rw [formatNumber, Layout.format, String.toList_ofList, finite, Layout.chars, if_neg nonzero]

/-- The text of a finite double other than zero denotes its shortest decimal under its sign, which
rounds to the double. -/
theorem exists_decimalValue?_formatNumber (finite : ofFloat n = .finite negative x)
    (nonzero : x.significand ≠ 0) :
    ∃ q, decimalValue? (formatNumber n).toList = some q ∧ |q| = (shortest x).value ∧
      (ofFloat n).IsRoundingOf q := by
  have canonical := (isFiniteOf_of_ofFloat finite).isCanonical
  have positive := Nat.pos_of_ne_zero nonzero
  have above := value_shortest_pos canonical positive
  have rounds := (isShortestFor_shortest canonical positive).rounds
  rw [toList_formatNumber finite nonzero, decimalValue?_magnitude]
  cases negative with
  | true =>
      have size : |(-(shortest x).value)| = (shortest x).value := by
        rw [abs_neg, abs_of_pos above]
      refine ⟨_, rfl, size, true, x, finite, ?_, ?_⟩
      · exact iff_of_true rfl (neg_neg_of_pos above)
      · rw [if_pos rfl, size]
        exact rounds
  | false =>
      have size : |(shortest x).value| = (shortest x).value := abs_of_pos above
      refine ⟨_, rfl, size, false, x, finite, ?_, ?_⟩
      · exact iff_of_false Bool.false_ne_true above.not_gt
      · rw [if_neg Bool.false_ne_true, size]
        exact rounds

/-- The text of a zero denotes zero. -/
theorem decimalValue?_formatNumber_zero (finite : ofFloat n = .finite negative x)
    (zero : x.significand = 0) : decimalValue? (formatNumber n).toList = some 0 := by
  rw [formatNumber, Layout.format, String.toList_ofList, finite, Layout.chars, if_pos zero]
  show unsignedValue? ['0'] = some 0
  rw [IsPositional.unsignedValue?_eq (Or.inl isDigits_zero),
    mantissaValue?_of_isDigits isDigits_zero, Nat.ofDigitChars_cons, Nat.ofDigitChars_nil]
  norm_num

end Text

/-- A number rounds to one double of its sign only. -/
theorem Binary64.IsRoundingOf.unique {first second : Binary64} {q : ℚ}
    (here : first.IsRoundingOf q) (there : second.IsRoundingOf q) : first = second := by
  obtain ⟨negative, x, rfl, sign, rounds⟩ := here
  obtain ⟨other, y, rfl, otherSign, also⟩ := there
  have same : negative = other := by
    rw [Bool.eq_iff_iff, sign, otherSign]
  rw [same, rounds.unique also]

/-- If a double other than zero has the text of another, the two are the same. -/
theorem eq_of_formatNumber_eq {m n : Float} {first second : Bool} {x y : Magnitude}
    (finite : ofFloat m = .finite first x) (other : ofFloat n = .finite second y)
    (nonzero : x.significand ≠ 0) (same : formatNumber m = formatNumber n) : m = n := by
  obtain ⟨q, read, size, rounds⟩ := exists_decimalValue?_formatNumber finite nonzero
  rw [same] at read
  by_cases zero : y.significand = 0
  · have above := value_shortest_pos (isFiniteOf_of_ofFloat finite).isCanonical
      (Nat.pos_of_ne_zero nonzero)
    rw [decimalValue?_formatNumber_zero other zero] at read
    cases read
    rw [← size, abs_zero] at above
    exact absurd above (lt_irrefl 0)
  · obtain ⟨p, also, -, rounding⟩ := exists_decimalValue?_formatNumber other zero
    rw [also] at read
    cases read
    have apart : ofFloat m = ofFloat n := rounds.unique rounding
    rw [other] at apart
    exact eq_of_ofFloat_eq apart other

/-- A finite double other than zero is written with its shortest digits, in the layout that the
exponent of the leading digit asks for, and its text denotes a number that rounds to it. Hence two
finite doubles have one text only if they are both zeros. -/
theorem formatNumber_spec :
    (∀ n negative x, ofFloat n = .finite negative x → x.significand ≠ 0 →
      (shortest x).IsShortestFor x ∧
      (∃ body, (formatNumber n).toList = (if n < 0 then ['-'] else []) ++ body ∧
        IsLaidOut body (shortest x)) ∧
      ∃ q, decimalValue? (formatNumber n).toList = some q ∧ |q| = (shortest x).value ∧
        (ofFloat n).IsRoundingOf q) ∧
    ∀ m n first second x y, ofFloat m = .finite first x → ofFloat n = .finite second y →
      formatNumber m = formatNumber n → m ≠ n → x.significand = 0 ∧ y.significand = 0 := by
  constructor
  · intro n negative x finite nonzero
    have canonical := (isFiniteOf_of_ofFloat finite).isCanonical
    have positive := Nat.pos_of_ne_zero nonzero
    apply And.intro (isShortestFor_shortest canonical positive)
    apply And.intro _ (exists_decimalValue?_formatNumber finite nonzero)
    exists templateLayout.magnitude x
    apply And.intro _ (isLaidOut_magnitude canonical positive)
    rw [toList_formatNumber finite nonzero]
    simp only [lt_zero_iff finite nonzero]
  · intro m n first second x y finite other same different
    constructor
    · by_contra nonzero
      exact different (eq_of_formatNumber_eq finite other nonzero same)
    · by_contra nonzero
      exact different (eq_of_formatNumber_eq other finite nonzero same.symm).symm

/-- A small negative double, and the two zeros. -/
theorem formatNumber_spec_small :
    (ofFloat (Float.ofBits 0xBE8421F5F40D8376) = .finite true ⟨5666839779443574, -75⟩ ∧
      formatNumber (Float.ofBits 0xBE8421F5F40D8376) = "-1.5e-7" ∧
      (∃ body, (formatNumber (Float.ofBits 0xBE8421F5F40D8376)).toList =
          (if Float.ofBits 0xBE8421F5F40D8376 < 0 then ['-'] else []) ++ body ∧
        IsLaidOut body (shortest ⟨5666839779443574, -75⟩)) ∧
      ∃ q, decimalValue? (formatNumber (Float.ofBits 0xBE8421F5F40D8376)).toList = some q ∧
        (ofFloat (Float.ofBits 0xBE8421F5F40D8376)).IsRoundingOf q) ∧
    formatNumber (Float.ofBits 0) = formatNumber (Float.ofBits 0x8000000000000000) ∧
    Float.ofBits 0 ≠ Float.ofBits 0x8000000000000000 ∧
    (Magnitude.mk 0 (-1074)).significand = 0 := by
  have finite : ofFloat (Float.ofBits 0xBE8421F5F40D8376) =
      .finite true ⟨5666839779443574, -75⟩ := by
    decide +kernel
  have nonzero : (Magnitude.mk 5666839779443574 (-75)).significand ≠ 0 := by decide
  have zero : ofFloat (Float.ofBits 0) = .finite false ⟨0, -1074⟩ := by decide +kernel
  have other : ofFloat (Float.ofBits 0x8000000000000000) = .finite true ⟨0, -1074⟩ := by
    decide +kernel
  have same : formatNumber (Float.ofBits 0) = formatNumber (Float.ofBits 0x8000000000000000) := by
    decide +kernel
  have different : Float.ofBits 0 ≠ Float.ofBits 0x8000000000000000 := by decide +kernel
  obtain ⟨-, laidOut, q, read, -, rounds⟩ := formatNumber_spec.1 _ _ _ finite nonzero
  apply And.intro
  · exact ⟨finite, by decide +kernel, laidOut, q, read, rounds⟩
  · exact ⟨same, different, (formatNumber_spec.2 _ _ _ _ _ _ zero other same different).1⟩

end HtmlTemplate.Decimal
