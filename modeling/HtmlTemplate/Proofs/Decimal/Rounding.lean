/-
# Rounding to the nearest double

Doubles are written canonically: the significand has fifty-three bits, unless the exponent is
the lowest one. Each positive double has a neighbour on either side, and no double lies between
neighbours. So a number rounds to a double exactly if it lies between the midpoints to the
neighbours, and a midpoint itself goes to the neighbour with the even significand.

Rounding is defined as if exponents had no upper end. A number whose rounding exceeds the
largest double is rounded to an infinity, which is no finite double.
-/

import HtmlTemplate.Decimal.Binary64
import Mathlib.Algebra.Order.Field.Power
import Mathlib.Data.Rat.Cast.Order
import Mathlib.Tactic.FieldSimp
import Mathlib.Tactic.Linarith
import Mathlib.Tactic.Positivity
import Mathlib.Tactic.Ring

namespace HtmlTemplate.Decimal

namespace Magnitude

/-- The exact value. -/
def value (x : Magnitude) : ℚ := x.significand * 2 ^ x.exponent

/-- The form in which a double is taken apart. -/
structure IsCanonical (x : Magnitude) : Prop where
  bounded : x.significand < 2 ^ 53
  lowest : -1074 ≤ x.exponent
  normal : 2 ^ 52 ≤ x.significand ∨ x.exponent = -1074

/-- No double is nearer to the number, and if another one is as near, then the significand of
this one is even. -/
structure IsNearest (x : Magnitude) (q : ℚ) : Prop where
  canonical : x.IsCanonical
  nearest : ∀ y : Magnitude, y.IsCanonical → |q - x.value| ≤ |q - y.value|
  even : ∀ y : Magnitude, y.IsCanonical → y ≠ x → |q - y.value| = |q - x.value| →
    x.significand % 2 = 0

/-! ## Neighbours -/

/-- The next double. -/
def above (x : Magnitude) : Magnitude :=
  if x.significand + 1 = 2 ^ 53 then ⟨2 ^ 52, x.exponent + 1⟩ else ⟨x.significand + 1, x.exponent⟩

/-- The double before a positive one. -/
def below (x : Magnitude) : Magnitude :=
  if x.significand = 2 ^ 52 ∧ -1074 < x.exponent then ⟨2 ^ 53 - 1, x.exponent - 1⟩
  else ⟨x.significand - 1, x.exponent⟩

/-- The midpoint to the next double. -/
def high (x : Magnitude) : ℚ := (x.value + x.above.value) / 2

/-- The midpoint to the double before. -/
def low (x : Magnitude) : ℚ := (x.below.value + x.value) / 2

variable {x y : Magnitude} {q : ℚ}

theorem unit_pos (x : Magnitude) : (0 : ℚ) < 2 ^ x.exponent := by positivity

theorem value_pos (positive : 0 < x.significand) : 0 < x.value := by
  have significand : (0 : ℚ) < x.significand := by exact_mod_cast positive
  exact mul_pos significand x.unit_pos

/-- A power of two may be moved between significand and exponent. -/
theorem unit_eq {fine coarse : Int} (ordered : fine ≤ coarse) :
    (2 : ℚ) ^ coarse = (2 ^ (coarse - fine).toNat : ℕ) * 2 ^ fine := by
  have split : coarse = ((coarse - fine).toNat : ℤ) + fine := by omega
  conv_lhs => rw [split]
  rw [zpow_add₀ (by norm_num), zpow_natCast]
  push_cast
  rfl

/-- A double with a larger exponent is a multiple of the unit of one with a smaller one. -/
theorem value_eq_of_exponent_le (ordered : x.exponent ≤ y.exponent) :
    y.value =
      (y.significand * 2 ^ (y.exponent - x.exponent).toNat : ℕ) * 2 ^ x.exponent := by
  rw [value, unit_eq ordered]
  push_cast
  ring

theorem value_above (x : Magnitude) : x.above.value = (x.significand + 1) * 2 ^ x.exponent := by
  rw [above]
  split
  · rename_i carries
    have next : (x.significand : ℚ) + 1 = 2 ^ 53 := by exact_mod_cast carries
    rw [next, value, zpow_add₀ (by norm_num)]
    push_cast
    ring
  · rw [value]
    push_cast
    ring

/-- A double with a smaller exponent than a canonical one lies before it. -/
theorem value_le_of_exponent_lt (canonical : y.IsCanonical) (finer : y.exponent < x.exponent) :
    y.value ≤ (2 ^ 52 - 1 / 2) * 2 ^ x.exponent := by
  have bounded : (y.significand : ℚ) ≤ 2 ^ 53 - 1 := by
    have room : y.significand + 1 ≤ 2 ^ 53 := canonical.bounded
    have cast : (y.significand : ℚ) + 1 ≤ 2 ^ 53 := by exact_mod_cast room
    linarith
  have halved : (2 : ℚ) ^ y.exponent ≤ 2 ^ x.exponent / 2 := by
    have step : (2 : ℚ) ^ y.exponent ≤ 2 ^ (x.exponent - 1) :=
      zpow_le_zpow_right₀ (by norm_num) (by omega)
    rwa [zpow_sub_one₀ (by norm_num), ← div_eq_mul_inv] at step
  calc y.value ≤ (2 ^ 53 - 1) * (2 ^ x.exponent / 2) :=
        mul_le_mul bounded halved y.unit_pos.le (by norm_num)
    _ = (2 ^ 52 - 1 / 2) * 2 ^ x.exponent := by ring

/-- A canonical significand is full, when a smaller exponent is possible. -/
theorem IsCanonical.full (canonical : x.IsCanonical) (above : -1074 < x.exponent) :
    (2 : ℚ) ^ 52 ≤ x.significand := by
  rcases canonical.normal with normal | lowest
  · exact_mod_cast normal
  · exact absurd lowest above.ne'

/-- Of two doubles, the one with the smaller exponent lies before the other. -/
theorem value_lt_of_exponent_lt (canonical : x.IsCanonical) (other : y.IsCanonical)
    (finer : y.exponent < x.exponent) : y.value < x.value := by
  have full := canonical.full (other.lowest.trans_lt finer)
  have before := value_le_of_exponent_lt other finer
  have within : (2 : ℚ) ^ 52 * 2 ^ x.exponent ≤ x.value :=
    mul_le_mul_of_nonneg_right full x.unit_pos.le
  have positive := x.unit_pos
  linarith

/-- No double lies between one and the next. -/
theorem above_le (canonical : x.IsCanonical) (other : y.IsCanonical) (less : x.value < y.value) :
    x.above.value ≤ y.value := by
  rw [value_above]
  rcases le_or_gt x.exponent y.exponent with ordered | finer
  · rw [value_eq_of_exponent_le ordered] at less ⊢
    rw [value] at less
    have units := lt_of_mul_lt_mul_right less x.unit_pos.le
    apply mul_le_mul_of_nonneg_right _ x.unit_pos.le
    exact_mod_cast units
  · exact absurd less (value_lt_of_exponent_lt canonical other finer).not_gt

/-- The next double is a double. -/
theorem IsCanonical.above (canonical : x.IsCanonical) : x.above.IsCanonical := by
  obtain ⟨bounded, lowest, normal⟩ := canonical
  rw [Magnitude.above]
  split
  · exact ⟨by norm_num, by show (-1074 : Int) ≤ x.exponent + 1; omega, Or.inl (le_refl _)⟩
  · apply mk
    · show x.significand + 1 < 2 ^ 53
      omega
    · exact lowest
    · show 2 ^ 52 ≤ x.significand + 1 ∨ x.exponent = -1074
      omega

/-- Of two neighbours, one has an odd significand. -/
theorem odd_above (even : x.significand % 2 = 0) : x.above.significand % 2 = 1 := by
  rw [above]
  split
  · omega
  · show (x.significand + 1) % 2 = 1
    omega

/-- What is before a positive double is a double. -/
theorem IsCanonical.below (canonical : x.IsCanonical) (positive : 0 < x.significand) :
    x.below.IsCanonical := by
  obtain ⟨bounded, lowest, normal⟩ := canonical
  rw [Magnitude.below]
  split
  · rename_i least
    apply mk (by norm_num) _ (Or.inl (by norm_num))
    show -1074 ≤ x.exponent - 1
    omega
  · rename_i inside
    apply mk
    · show x.significand - 1 < 2 ^ 53
      omega
    · exact lowest
    · show 2 ^ 52 ≤ x.significand - 1 ∨ x.exponent = -1074
      omega

/-- The distance to the double before, in units of the last place. It is half a unit where the
units become finer. -/
def gapBelow (x : Magnitude) : ℚ :=
  if x.significand = 2 ^ 52 ∧ -1074 < x.exponent then 1 / 2 else 1

theorem value_below (positive : 0 < x.significand) :
    x.below.value = (x.significand - x.gapBelow) * 2 ^ x.exponent := by
  rw [below, gapBelow]
  split
  · rename_i least
    rw [value, least.1, zpow_sub_one₀ (by norm_num)]
    push_cast
    ring
  · rw [value, Nat.cast_pred positive]

/-- No double lies between one and the double before. The units are finer there if the significand
is the least one. -/
theorem le_below (canonical : x.IsCanonical) (positive : 0 < x.significand)
    (other : y.IsCanonical) (less : y.value < x.value) : y.value ≤ x.below.value := by
  rw [value_below positive]
  rcases le_or_gt x.exponent y.exponent with ordered | finer
  · rw [value_eq_of_exponent_le ordered] at less ⊢
    rw [value] at less
    have units := lt_of_mul_lt_mul_right less x.unit_pos.le
    apply mul_le_mul_of_nonneg_right _ x.unit_pos.le
    have room : y.significand * 2 ^ (y.exponent - x.exponent).toNat + 1 ≤ x.significand := by
      exact_mod_cast units
    have cast : ((y.significand * 2 ^ (y.exponent - x.exponent).toNat : ℕ) : ℚ) + 1 ≤
        x.significand := by
      exact_mod_cast room
    have gap : x.gapBelow ≤ 1 := by
      rw [gapBelow]
      split <;> norm_num
    linarith
  · have refined : -1074 < x.exponent := other.lowest.trans_lt finer
    have full := canonical.full refined
    apply (value_le_of_exponent_lt other finer).trans
    apply mul_le_mul_of_nonneg_right _ x.unit_pos.le
    rw [gapBelow]
    split
    · linarith
    · rename_i inside
      have more : 2 ^ 52 + 1 ≤ x.significand := by
        have least : 2 ^ 52 ≤ x.significand := by exact_mod_cast full
        omega
      have cast : (2 : ℚ) ^ 52 + 1 ≤ x.significand := by exact_mod_cast more
      linarith

/-- Doubles of one value are written alike. -/
theorem IsCanonical.eq_of_value_eq (canonical : x.IsCanonical) (other : y.IsCanonical)
    (same : x.value = y.value) : x = y := by
  have exponents : x.exponent = y.exponent := by
    apply le_antisymm
    · by_contra finer
      exact (value_lt_of_exponent_lt canonical other (not_le.mp finer)).ne' same
    · by_contra finer
      exact (value_lt_of_exponent_lt other canonical (not_le.mp finer)).ne same
  rw [value, value, ← exponents] at same
  have significands : x.significand = y.significand := by
    exact_mod_cast mul_right_cancel₀ x.unit_pos.ne' same
  cases x
  cases y
  congr

/-! ## Midpoints -/

/-- The first of two numbers is as near as the second exactly up to the midpoint. -/
theorem abs_sub_le_iff {a b q : ℚ} (ordered : a < b) :
    |q - a| ≤ |q - b| ↔ q ≤ (a + b) / 2 := by
  constructor
  · intro nearer
    by_contra beyond
    rw [abs_of_pos (by linarith)] at nearer
    rcases abs_cases (q - b) with ⟨same, -⟩ | ⟨same, -⟩ <;> linarith
  · intro before
    rw [abs_of_neg (show q - b < 0 by linarith)]
    apply abs_le.mpr
    constructor <;> linarith

/-- The second is as near as the first exactly from the midpoint on. -/
theorem abs_sub_ge_iff {a b q : ℚ} (ordered : a < b) :
    |q - b| ≤ |q - a| ↔ (a + b) / 2 ≤ q := by
  have mirrored := abs_sub_le_iff (q := -q) (neg_lt_neg ordered)
  rw [← abs_neg (q - b), ← abs_neg (q - a), neg_sub, neg_sub]
  rw [show -q - -b = b - q by ring, show -q - -a = a - q by ring] at mirrored
  rw [mirrored]
  constructor <;> intro le <;> linarith

theorem value_lt_above (x : Magnitude) : x.value < x.above.value := by
  rw [value_above, value]
  exact mul_lt_mul_of_pos_right (lt_add_one _) x.unit_pos

theorem below_lt_value (positive : 0 < x.significand) : x.below.value < x.value := by
  rw [value_below positive, value]
  apply mul_lt_mul_of_pos_right _ x.unit_pos
  have gap : 0 < x.gapBelow := by
    rw [gapBelow]
    split <;> norm_num
  linarith

/-- The numbers between the midpoints to the neighbours. The midpoints belong to the double if
its significand is even. -/
def Attracts (x : Magnitude) (q : ℚ) : Prop :=
  if x.significand % 2 = 0 then x.low ≤ q ∧ q ≤ x.high else x.low < q ∧ q < x.high

/-- What a double attracts is within the midpoints. -/
theorem Attracts.within (attracts : x.Attracts q) : x.low ≤ q ∧ q ≤ x.high := by
  rw [Attracts] at attracts
  split at attracts
  · exact attracts
  · exact ⟨attracts.1.le, attracts.2.le⟩

/-- A number rounds to a positive double exactly if the double attracts it. -/
theorem isNearest_iff (canonical : x.IsCanonical) (positive : 0 < x.significand) :
    x.IsNearest q ↔ x.Attracts q := by
  have upward := x.value_lt_above
  have downward := below_lt_value positive
  constructor
  · intro rounds
    have low : x.low ≤ q :=
      (abs_sub_ge_iff downward).mp (rounds.nearest _ (canonical.below positive))
    have high : q ≤ x.high := (abs_sub_le_iff upward).mp (rounds.nearest _ canonical.above)
    rw [Attracts]
    split
    · exact ⟨low, high⟩
    · rename_i odd
      constructor
      · apply lt_of_le_of_ne low
        intro tie
        apply odd
        apply rounds.even _ (canonical.below positive)
        · intro same
          rw [same] at downward
          exact lt_irrefl _ downward
        · apply le_antisymm
          · exact (abs_sub_le_iff downward).mpr tie.ge
          · exact (abs_sub_ge_iff downward).mpr tie.le
      · apply lt_of_le_of_ne high
        intro tie
        apply odd
        apply rounds.even _ canonical.above
        · intro same
          rw [same] at upward
          exact lt_irrefl _ upward
        · apply le_antisymm
          · exact (abs_sub_ge_iff upward).mpr tie.ge
          · exact (abs_sub_le_iff upward).mpr tie.le
  · intro attracts
    have within := attracts.within
    have rest {y : Magnitude} (other : y.IsCanonical) (distinct : y ≠ x) :
        |q - x.value| ≤ |q - y.value| ∧
          (|q - y.value| = |q - x.value| → x.significand % 2 = 0) := by
      rcases lt_or_gt_of_ne fun same => distinct (other.eq_of_value_eq canonical same) with
        less | more
      · have before := le_below canonical positive other less
        have middle : (y.value + x.value) / 2 ≤ x.low := by
          rw [low]
          linarith
        apply And.intro ((abs_sub_ge_iff less).mpr (middle.trans within.1))
        intro tie
        by_contra odd
        rw [Attracts, if_neg odd] at attracts
        exact absurd ((abs_sub_le_iff less).mp tie.le) (by linarith [attracts.1])
      · have behind := above_le canonical other more
        have middle : x.high ≤ (x.value + y.value) / 2 := by
          rw [high]
          linarith
        apply And.intro ((abs_sub_le_iff more).mpr (within.2.trans middle))
        intro tie
        by_contra odd
        rw [Attracts, if_neg odd] at attracts
        exact absurd ((abs_sub_ge_iff more).mp tie.le) (by linarith [attracts.2])
    apply IsNearest.mk canonical
    · intro y other
      by_cases same : y = x
      · rw [same]
      · exact (rest other same).1
    · intro y other distinct
      exact (rest other distinct).2

/-- A number rounds to one double only. Two doubles that are equally near are neighbours with the
number in the middle, and not both of them are even. -/
theorem IsNearest.unique (rounds : x.IsNearest q) (also : y.IsNearest q) : x = y := by
  have notBefore {x y : Magnitude} (rounds : x.IsNearest q) (also : y.IsNearest q) :
      ¬ x.value < y.value := by
    intro less
    have tie : |q - x.value| = |q - y.value| :=
      le_antisymm (rounds.nearest y also.canonical) (also.nearest x rounds.canonical)
    have distinct : y ≠ x := by
      rintro rfl
      exact lt_irrefl _ less
    have upTo := (abs_sub_le_iff x.value_lt_above).mp (rounds.nearest _ rounds.canonical.above)
    have middle := (abs_sub_ge_iff less).mp tie.ge
    have behind := above_le rounds.canonical also.canonical less
    have neighbours : y = x.above :=
      also.canonical.eq_of_value_eq rounds.canonical.above (by linarith)
    have even := rounds.even y also.canonical distinct tie.symm
    have alsoEven := also.even x rounds.canonical distinct.symm tie
    rw [neighbours, odd_above even] at alsoEven
    cases alsoEven
  apply rounds.canonical.eq_of_value_eq also.canonical
  exact le_antisymm (not_lt.mp (notBefore also rounds)) (not_lt.mp (notBefore rounds also))

/-- What a double attracts is not beyond what a larger one attracts. -/
theorem high_le_low (canonical : x.IsCanonical) (other : y.IsCanonical)
    (positive : 0 < y.significand) (less : x.value < y.value) : x.high ≤ y.low := by
  have behind := above_le canonical other less
  have before := le_below other positive canonical less
  rw [high, low]
  linarith

end Magnitude

end HtmlTemplate.Decimal
