/-
# The shortest decimal of a double

The search gives a decimal that the double attracts, and no coarser grid has one. That makes it
shortest: between it and a decimal with fewer digits there would be a power of ten on a coarser
grid, and doubles attract whatever lies between numbers that they attract. For the same reason
decimals with as few digits are on the same grid, unless they have a single digit.
-/

import HtmlTemplate.Decimal.Layout
import HtmlTemplate.Proofs.Decimal.Interval

namespace HtmlTemplate.Decimal

namespace Scientific

/-- The exact value. -/
def value (x : Scientific) : ℚ := x.digits * 10 ^ x.exponent

theorem digits_lt (x : Scientific) : x.digits < 10 ^ x.digitChars.length :=
  (Nat.length_toDigits_le_iff (by norm_num) Nat.length_toDigits_pos).mp (le_refl _)

/-- The leading digit is not zero. -/
theorem le_digits {x : Scientific} (positive : 0 < x.digits) :
    10 ^ (x.digitChars.length - 1) ≤ x.digits := by
  rcases Nat.eq_zero_or_pos (x.digitChars.length - 1) with single | several
  · rw [single, pow_zero]
    exact positive
  · have longer : ¬ x.digitChars.length ≤ x.digitChars.length - 1 := by omega
    exact not_lt.mp fun less => longer ((Nat.length_toDigits_le_iff (by norm_num) several).mpr less)

end Scientific

/-! ## The shortest decimal -/

section Shortest

variable {x : Magnitude}

/-- The search finds a point that the double attracts, and none on a coarser grid. On grids that
are coarser than those it tries no positive point is small enough. -/
theorem attracts_shortest (canonical : x.IsCanonical) (positive : 0 < x.significand) :
    x.Attracts (shortest x).value ∧
      (∀ (units : Nat) (coarser : Int), (shortest x).exponent < coarser →
        ¬ x.Attracts (units * 10 ^ coarser)) ∧
      ∀ units : Nat, x.Attracts (units * 10 ^ (shortest x).exponent) →
        |(shortest x).value - x.value| ≤ |units * 10 ^ (shortest x).exponent - x.value| := by
  have proper := Magnitude.isProper_around positive
  cases searched : (RoundingInterval.around x).search RoundingInterval.finestExponent
      (RoundingInterval.around x).coarserGrids with
  | none =>
      obtain ⟨units, attracts⟩ := Magnitude.exists_attracts_finest canonical positive
      have nothing := RoundingInterval.nearest?_of_search_eq_none searched
      rw [← Magnitude.holds_around positive] at attracts
      exact absurd attracts (proper.not_holds_of_grid_eq_none nothing units)
  | some found =>
      have same : shortest x = found := by simp only [shortest, searched, Option.getD_some]
      obtain ⟨-, here, above⟩ := RoundingInterval.search_eq_some searched
      obtain ⟨held, nearest⟩ := proper.nearest_of_grid_eq_some here
      simp only [Magnitude.holds_around positive, Magnitude.center_around] at held nearest
      rw [same]
      apply And.intro held (And.intro _ nearest)
      intro units coarser beyond attracts
      rcases le_or_gt coarser
          (RoundingInterval.finestExponent + (RoundingInterval.around x).coarserGrids) with
        tried | untried
      · have none := proper.not_holds_of_grid_eq_none (above coarser beyond tried) units
        exact none ((Magnitude.holds_around positive).mpr attracts)
      · have step : (0 : ℚ) < 10 ^ coarser := by positivity
        have high := attracts.within.2.trans_lt (Magnitude.high_lt_of_coarser untried)
        have none : units < 1 := by
          have cast : (units : ℚ) < 1 := by
            rwa [← mul_lt_mul_iff_left₀ step, one_mul]
          exact_mod_cast cast
        have zero := attracts.pos positive
        rw [Nat.lt_one_iff.mp none, Nat.cast_zero, zero_mul] at zero
        exact lt_irrefl _ zero

/-- Two decimals that round to a double have no power of ten between them that is on a coarser
grid than the shortest one. -/
theorem not_power_between (canonical : x.IsCanonical) (positive : 0 < x.significand)
    {first last : ℚ} (here : x.Attracts first) (there : x.Attracts last) {power : Int}
    (coarser : (shortest x).exponent < power) (from_ : first ≤ 10 ^ power) :
    ¬ 10 ^ power ≤ last := by
  intro upTo
  have attracts := here.between positive there from_ upTo
  apply (attracts_shortest canonical positive).2.1 1 power coarser
  rwa [Nat.cast_one, one_mul]

/-- A number of digits bounds the value. -/
theorem value_lt {other : Scientific} {digits : Nat} {exponent : Int}
    (short : other.digitChars.length ≤ digits) (finer : other.exponent ≤ exponent) :
    other.value < 10 ^ (digits + exponent) := by
  have bounded : (other.digits : ℚ) < 10 ^ digits := by
    exact_mod_cast other.digits_lt.trans_le (Nat.pow_le_pow_right (by norm_num) short)
  rw [zpow_add₀ (by norm_num), zpow_natCast]
  exact mul_lt_mul bounded (zpow_le_zpow_right₀ (by norm_num) finer) (by positivity) (by positivity)

/-- So does the number of the digits behind the leading one, from below. -/
theorem le_value {found : Scientific} (nonzero : 0 < found.digits) :
    (10 : ℚ) ^ found.leadingExponent ≤ found.value := by
  have bounded : ((10 ^ (found.digitChars.length - 1) : ℕ) : ℚ) ≤ found.digits := by
    exact_mod_cast Scientific.le_digits nonzero
  rw [Scientific.leadingExponent, add_comm, zpow_add₀ (by norm_num), zpow_natCast]
  rw [Nat.cast_pow] at bounded
  exact mul_le_mul_of_nonneg_right bounded (by positivity)

theorem value_shortest_pos (canonical : x.IsCanonical) (positive : 0 < x.significand) :
    0 < (shortest x).value :=
  (attracts_shortest canonical positive).1.pos positive

/-- The digits of the shortest decimal are a positive number. -/
theorem digits_shortest_pos (canonical : x.IsCanonical) (positive : 0 < x.significand) :
    0 < (shortest x).digits := by
  have value := value_shortest_pos canonical positive
  apply Nat.pos_of_ne_zero
  intro zero
  rw [Scientific.value, zero, Nat.cast_zero, zero_mul] at value
  exact lt_irrefl _ value

/-- No decimal that rounds to the double is on a coarser grid. -/
theorem exponent_le_of_attracts (canonical : x.IsCanonical) (positive : 0 < x.significand)
    {other : Scientific} (attracts : x.Attracts other.value) :
    other.exponent ≤ (shortest x).exponent := by
  by_contra coarser
  exact (attracts_shortest canonical positive).2.1 other.digits other.exponent
    (not_le.mp coarser) attracts

/-- No decimal that rounds to the double has fewer digits. One with fewer digits would lie before
the power of ten that the leading digit of the shortest decimal stands for, and this power is a
point of a coarser grid. -/
theorem length_digitChars_shortest_le (canonical : x.IsCanonical) (positive : 0 < x.significand)
    {other : Scientific} (attracts : x.Attracts other.value) :
    (shortest x).digitChars.length ≤ other.digitChars.length := by
  by_contra shorter
  have some : 0 < other.digitChars.length := Nat.length_toDigits_pos
  have finer := exponent_le_of_attracts canonical positive attracts
  have less := value_lt (le_refl _) finer
  have leading : (other.digitChars.length : ℤ) + (shortest x).exponent ≤
      (shortest x).leadingExponent := by
    rw [Scientific.leadingExponent]
    omega
  have before : other.value ≤ 10 ^ (shortest x).leadingExponent :=
    less.le.trans (zpow_le_zpow_right₀ (by norm_num) leading)
  exact not_power_between canonical positive attracts (attracts_shortest canonical positive).1
    (by omega) before (le_value (digits_shortest_pos canonical positive))

/-- The second least double is the only one of so few units whose shortest decimal is a power
of ten. -/
theorem eq_of_digits_shortest_eq_one (canonical : x.IsCanonical) (few : x.significand < 10)
    (single : (shortest x).digits = 1) : x = ⟨2, -1074⟩ := by
  have lowest : x.exponent = -1074 := by
    have := canonical.normal
    omega
  have evaluated : ∀ n : Fin 10, (shortest ⟨n, -1074⟩).digits = 1 → n.val = 2 := by decide +kernel
  have same : x = ⟨x.significand, -1074⟩ := by rw [← lowest]
  rw [same] at single
  have two : x.significand = 2 := evaluated ⟨x.significand, few⟩ single
  rw [same, two]

/-- That one is a little less than a power of ten. -/
theorem near_power_second_least : 19 / 20 * 10 ^ (-323 : Int) ≤ (Magnitude.mk 2 (-1074)).value := by
  have powers : 19 * 2 ^ 1074 ≤ 40 * 10 ^ 323 := by decide +kernel
  have cast : (19 : ℚ) * (2 ^ 1074 : ℕ) ≤ 40 * (10 ^ 323 : ℕ) := by exact_mod_cast powers
  have power : (10 : ℚ) ^ (-323 : Int) = ((10 ^ 323 : ℕ) : ℚ)⁻¹ := by
    rw [zpow_neg, Nat.cast_pow]
    rfl
  have unit : (2 : ℚ) ^ (-1074 : Int) = ((2 ^ 1074 : ℕ) : ℚ)⁻¹ := by
    rw [zpow_neg, Nat.cast_pow]
    rfl
  have scale : (0 : ℚ) < (10 ^ 323 : ℕ) := by
    rw [Nat.cast_pow]
    positivity
  have denominator : (0 : ℚ) < (2 ^ 1074 : ℕ) := by
    rw [Nat.cast_pow]
    positivity
  rw [Magnitude.value, power, unit, ← div_eq_mul_inv, ← div_eq_mul_inv,
    div_le_div_iff₀ scale denominator, Nat.cast_ofNat]
  generalize ((10 ^ 323 : ℕ) : ℚ) = tens at cast ⊢
  generalize ((2 ^ 1074 : ℕ) : ℚ) = twos at cast ⊢
  linarith

/-- A double that lies before the power of ten it is written as is nearer to it than to anything
of one digit before the power. Otherwise its unit would be more than a tenth of the power, so it
would have few units. -/
theorem near_power (canonical : x.IsCanonical) (positive : 0 < x.significand)
    (single : (shortest x).digits = 1) :
    19 / 20 * 10 ^ (shortest x).exponent ≤ x.value := by
  by_contra far
  rw [not_le] at far
  have high := (attracts_shortest canonical positive).1.within.2
  rw [Scientific.value, single, Nat.cast_one, one_mul, Magnitude.high,
    Magnitude.value_above] at high
  have few : x.significand < 10 := by
    have units : (x.significand : ℚ) < 10 := by
      by_contra many
      have unit := x.unit_pos
      have scaled := mul_le_mul_of_nonneg_right (not_lt.mp many) unit.le
      rw [Magnitude.value] at far high
      linarith
    exact_mod_cast units
  have evaluated : (shortest ⟨2, -1074⟩).exponent = -323 := by decide +kernel
  rw [eq_of_digits_shortest_eq_one canonical few single, evaluated] at far
  exact absurd near_power_second_least (not_le.mpr far)

/-- What has one digit only and lies before a power of ten is at most nine tenths of it. -/
theorem value_le_of_single {other : Scientific} {exponent : Int}
    (single : other.digitChars.length ≤ 1) (finer : other.exponent < exponent) :
    other.value ≤ 9 / 10 * 10 ^ exponent := by
  have bounded : other.digits < 10 ^ 1 :=
    other.digits_lt.trans_le (Nat.pow_le_pow_right (by norm_num) single)
  have digit : (other.digits : ℚ) ≤ 9 := by exact_mod_cast Nat.le_of_lt_succ bounded
  have step : (10 : ℚ) ^ other.exponent ≤ 10 ^ (exponent - 1) :=
    zpow_le_zpow_right₀ (by norm_num) (by omega)
  rw [zpow_sub_one₀ (by norm_num)] at step
  calc other.value ≤ 9 * (10 ^ exponent * 10⁻¹) :=
        mul_le_mul digit step (by positivity) (by norm_num)
    _ = 9 / 10 * 10 ^ exponent := by ring

/-- Of the decimals with as few digits that round to the double, none is nearer to it. They lie on
the same grid or on a finer one, and those on a finer one lie before the power of ten that the
leading digit of the shortest decimal stands for. -/
theorem shortest_nearest (canonical : x.IsCanonical) (positive : 0 < x.significand)
    {other : Scientific} (attracts : x.Attracts other.value)
    (short : other.digitChars.length ≤ (shortest x).digitChars.length) :
    |(shortest x).value - x.value| ≤ |other.value - x.value| := by
  obtain ⟨here, -, nearest⟩ := attracts_shortest canonical positive
  have nonzero := digits_shortest_pos canonical positive
  rcases (exponent_le_of_attracts canonical positive attracts).eq_or_lt with same | finer
  · have onGrid : other.value = other.digits * 10 ^ (shortest x).exponent := by
      rw [Scientific.value, same]
    rw [onGrid] at attracts ⊢
    exact nearest other.digits attracts
  · have less : other.value < 10 ^ (shortest x).leadingExponent := by
      apply (value_lt short (le_refl _)).trans_le
      apply zpow_le_zpow_right₀ (by norm_num)
      rw [Scientific.leadingExponent]
      omega
    have upTo := le_value nonzero
    have single : (shortest x).digitChars.length = 1 := by
      by_contra several
      have some : 0 < (shortest x).digitChars.length := Nat.length_toDigits_pos
      apply not_power_between canonical positive attracts here _ less.le upTo
      rw [Scientific.leadingExponent]
      omega
    have power : (shortest x).leadingExponent = (shortest x).exponent := by
      rw [Scientific.leadingExponent, single]
      omega
    rw [power] at less upTo
    have between := attracts.between positive here less.le upTo
    have grid := nearest 1 (by rwa [Nat.cast_one, one_mul])
    rw [Nat.cast_one, one_mul] at grid
    have digit := value_le_of_single (short.trans_eq single) finer
    rcases le_or_gt (10 ^ (shortest x).exponent) x.value with beyond | before
    · apply grid.trans
      rw [abs_of_nonpos (by linarith), abs_of_nonpos (by linarith)]
      linarith
    · rw [abs_of_nonneg (by linarith), abs_of_pos (by linarith)] at grid
      have equal : (shortest x).value = 10 ^ (shortest x).exponent := by linarith
      have one : (shortest x).digits = 1 := by
        have units : ((shortest x).digits : ℚ) = 1 := by
          rw [Scientific.value] at equal
          exact (mul_eq_right₀ (by positivity)).mp equal
        exact_mod_cast units
      have near := near_power canonical positive one
      rw [equal, abs_of_pos (by linarith), abs_of_nonpos (by linarith)]
      linarith

/-- The decimal rounds to the double, none that does has fewer digits, and none with as few is
nearer. -/
structure Scientific.IsShortestFor (found : Scientific) (x : Magnitude) : Prop where
  rounds : x.IsNearest found.value
  fewest : ∀ other : Scientific, x.IsNearest other.value →
    found.digitChars.length ≤ other.digitChars.length
  nearest : ∀ other : Scientific, x.IsNearest other.value →
    other.digitChars.length = found.digitChars.length →
      |found.value - x.value| ≤ |other.value - x.value|

/-- The search finds the shortest decimal. -/
theorem isShortestFor_shortest (canonical : x.IsCanonical) (positive : 0 < x.significand) :
    (shortest x).IsShortestFor x := by
  have rounds {q : ℚ} : x.IsNearest q ↔ x.Attracts q :=
    Magnitude.isNearest_iff canonical positive
  constructor
  · exact rounds.mpr (attracts_shortest canonical positive).1
  · intro other also
    exact length_digitChars_shortest_le canonical positive (rounds.mp also)
  · intro other also same
    exact shortest_nearest canonical positive (rounds.mp also) same.le

end Shortest

end HtmlTemplate.Decimal
