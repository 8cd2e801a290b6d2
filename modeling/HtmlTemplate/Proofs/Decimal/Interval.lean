/-
# Intervals of whole numbers

The search for decimals looks at whole numbers only. Over the common denominator they stand for
the numbers that a double attracts, on one grid of multiples of a power of ten after the other.
On each grid the two points around the double tell whether any point is attracted, and the
nearer one of them is the nearest of all. The finest grid always has a point, and the grids that
are coarser than all that are tried have none.
-/

import HtmlTemplate.Decimal.Shortest
import HtmlTemplate.Proofs.Decimal.Rounding
import Mathlib.Data.Rat.Floor

namespace HtmlTemplate.Decimal

/-- A power is split into a numerator and a denominator, one of which is one. -/
theorem zpow_mul_pow_toNat {b : ℚ} (nonzero : b ≠ 0) (exponent : Int) :
    b ^ exponent * b ^ (-exponent).toNat = b ^ exponent.toNat := by
  rw [← zpow_natCast, ← zpow_natCast, ← zpow_add₀ nonzero]
  congr 1
  omega

namespace RoundingInterval

/-- The number lies in the interval. -/
def Holds (interval : RoundingInterval) (q : ℚ) : Prop :=
  if interval.closed then
    interval.low ≤ q * interval.denominator ∧ q * interval.denominator ≤ interval.high
  else interval.low < q * interval.denominator ∧ q * interval.denominator < interval.high

/-- The value lies strictly between the ends. -/
structure IsProper (interval : RoundingInterval) : Prop where
  denominator : 0 < interval.denominator
  low : interval.low < interval.value
  high : interval.value < interval.high

/-- The value as a number. -/
def center (interval : RoundingInterval) : ℚ := interval.value / interval.denominator

variable {interval : RoundingInterval}

theorem contains_iff {units : Nat} : interval.contains units = true ↔ interval.Holds units := by
  rw [contains, Holds]
  split
  · rw [Bool.and_eq_true, decide_eq_true_eq, decide_eq_true_eq]
    exact_mod_cast Iff.rfl
  · rw [Bool.and_eq_true, decide_eq_true_eq, decide_eq_true_eq]
    exact_mod_cast Iff.rfl

/-- What lies between numbers of the interval is in it. -/
theorem Holds.between {first middle last : ℚ} (here : interval.Holds first)
    (there : interval.Holds last) (from_ : first ≤ middle) (upTo : middle ≤ last) :
    interval.Holds middle := by
  have lower : first * interval.denominator ≤ middle * interval.denominator :=
    mul_le_mul_of_nonneg_right from_ (Nat.cast_nonneg _)
  have upper : middle * interval.denominator ≤ last * interval.denominator :=
    mul_le_mul_of_nonneg_right upTo (Nat.cast_nonneg _)
  rw [Holds] at here there ⊢
  split
  · rename_i closed
    rw [if_pos closed] at here there
    exact ⟨here.1.trans lower, upper.trans there.2⟩
  · rename_i open_
    rw [if_neg open_] at here there
    exact ⟨here.1.trans_le lower, upper.trans_lt there.2⟩

theorem IsProper.holds_center (proper : interval.IsProper) : interval.Holds interval.center := by
  have denominator : (interval.denominator : ℚ) ≠ 0 := by
    exact_mod_cast proper.denominator.ne'
  have low : (interval.low : ℚ) < interval.value := by exact_mod_cast proper.low
  have high : (interval.value : ℚ) < interval.high := by exact_mod_cast proper.high
  rw [Holds, center, div_mul_cancel₀ _ denominator]
  split
  · exact ⟨low.le, high.le⟩
  · exact ⟨low, high⟩

/-- The value lies between two whole numbers. -/
theorem IsProper.between_floor (proper : interval.IsProper) :
    ((interval.value / interval.denominator : ℕ) : ℚ) ≤ interval.center ∧
      interval.center < (interval.value / interval.denominator : ℕ) + 1 := by
  have denominator : (0 : ℚ) < interval.denominator := by exact_mod_cast proper.denominator
  have below := Nat.div_mul_le_self interval.value interval.denominator
  have above := Nat.lt_div_mul_add proper.denominator (a := interval.value)
  rw [center, le_div_iff₀ denominator, div_lt_iff₀ denominator]
  constructor
  · exact_mod_cast below
  · rw [add_one_mul]
    exact_mod_cast above

/-- On either side of the value, the whole number next to it is the first that the interval can
hold. -/
theorem IsProper.holds_floor_or_next (proper : interval.IsProper) {units : Nat}
    (held : interval.Holds units) :
    (units ≤ interval.value / interval.denominator ∧
        interval.contains (interval.value / interval.denominator) = true) ∨
      (interval.value / interval.denominator + 1 ≤ units ∧
        interval.contains (interval.value / interval.denominator + 1) = true) := by
  obtain ⟨below, above⟩ := proper.between_floor
  rcases Nat.lt_or_ge (interval.value / interval.denominator) units with later | earlier
  · apply Or.inr (And.intro later _)
    rw [contains_iff]
    apply proper.holds_center.between held
    · push_cast
      exact above.le
    · exact_mod_cast later
  · apply Or.inl (And.intro earlier _)
    rw [contains_iff]
    exact held.between proper.holds_center (by exact_mod_cast earlier) below

/-- No whole number is found only if the interval holds none. -/
theorem IsProper.not_holds_of_nearest?_eq_none (proper : interval.IsProper)
    (none : interval.nearest? = none) (units : Nat) : ¬ interval.Holds units := by
  intro held
  rw [nearest?] at none
  rcases proper.holds_floor_or_next held with ⟨-, found⟩ | ⟨-, found⟩
  · simp only [found] at none
    split at none <;> simp_all
  · simp only [found] at none
    split at none <;> simp_all

/-- Of the two whole numbers around the value, the one is the nearest from below and the other
from above. -/
theorem IsProper.nearest_around (proper : interval.IsProper) {units : Nat} :
    (units ≤ interval.value / interval.denominator →
      |((interval.value / interval.denominator : ℕ) : ℚ) - interval.center| ≤
        |units - interval.center|) ∧
    (interval.value / interval.denominator + 1 ≤ units →
      |((interval.value / interval.denominator + 1 : ℕ) : ℚ) - interval.center| ≤
        |units - interval.center|) := by
  obtain ⟨below, above⟩ := proper.between_floor
  constructor
  · intro earlier
    have cast : (units : ℚ) ≤ (interval.value / interval.denominator : ℕ) := by
      exact_mod_cast earlier
    rw [abs_of_nonpos (by linarith), abs_of_nonpos (by linarith)]
    linarith
  · intro later
    have cast : ((interval.value / interval.denominator + 1 : ℕ) : ℚ) ≤ units := by
      exact_mod_cast later
    have next : interval.center ≤ (interval.value / interval.denominator + 1 : ℕ) := by
      push_cast
      exact above.le
    rw [abs_of_nonneg (by linarith), abs_of_nonneg (by linarith)]
    linarith

/-- The distances that are compared are those from the value, over the denominator. -/
theorem IsProper.toBelow_lt_toAbove_iff (proper : interval.IsProper) :
    interval.value - interval.value / interval.denominator * interval.denominator <
        (interval.value / interval.denominator + 1) * interval.denominator - interval.value ↔
      |((interval.value / interval.denominator : ℕ) : ℚ) - interval.center| <
        |((interval.value / interval.denominator + 1 : ℕ) : ℚ) - interval.center| := by
  obtain ⟨below, above⟩ := proper.between_floor
  have denominator : (0 : ℚ) < interval.denominator := by exact_mod_cast proper.denominator
  have atMost := Nat.div_mul_le_self interval.value interval.denominator
  have beyond : interval.value ≤
      (interval.value / interval.denominator + 1) * interval.denominator := by
    rw [Nat.add_one_mul]
    exact (Nat.lt_div_mul_add proper.denominator).le
  have scaled : interval.center * interval.denominator = interval.value :=
    div_mul_cancel₀ _ denominator.ne'
  push_cast at *
  rw [abs_of_nonpos (by linarith), abs_of_nonneg (by linarith),
    ← mul_lt_mul_iff_left₀ denominator, ← Nat.cast_lt (α := ℚ), Nat.cast_sub atMost,
    Nat.cast_sub beyond]
  push_cast
  rw [neg_mul, sub_mul, sub_mul, scaled, neg_sub]

/-- The whole number that is found is held, and no other one that is held is nearer. -/
theorem IsProper.nearest_of_nearest?_eq_some (proper : interval.IsProper) {units : Nat}
    (found : interval.nearest? = some units) :
    interval.Holds units ∧ ∀ other : Nat, interval.Holds other →
      |units - interval.center| ≤ |other - interval.center| := by
  rw [nearest?] at found
  simp only at found
  split at found
  · cases found
  · rename_i here there
    cases found
    apply And.intro (contains_iff.mp here)
    intro other held
    rcases proper.holds_floor_or_next held with ⟨earlier, -⟩ | ⟨-, next⟩
    · exact proper.nearest_around.1 earlier
    · rw [there] at next
      cases next
  · rename_i here there
    cases found
    apply And.intro (contains_iff.mp there)
    intro other held
    rcases proper.holds_floor_or_next held with ⟨-, floor⟩ | ⟨later, -⟩
    · rw [here] at floor
      cases floor
    · exact proper.nearest_around.2 later
  · rename_i here there
    split at found
    · rename_i nearer
      cases found
      rw [proper.toBelow_lt_toAbove_iff] at nearer
      apply And.intro (contains_iff.mp here)
      intro other held
      rcases proper.holds_floor_or_next held with ⟨earlier, -⟩ | ⟨later, -⟩
      · exact proper.nearest_around.1 earlier
      · exact nearer.le.trans (proper.nearest_around.2 later)
    · rename_i farther
      cases found
      rw [proper.toBelow_lt_toAbove_iff, not_lt] at farther
      apply And.intro (contains_iff.mp there)
      intro other held
      rcases proper.holds_floor_or_next held with ⟨earlier, -⟩ | ⟨later, -⟩
      · exact farther.trans (proper.nearest_around.1 earlier)
      · exact proper.nearest_around.2 later

/-! ## Other units -/

/-- In other units, the interval holds the same numbers. -/
theorem holds_inUnitsOf {exponent : Int} {q : ℚ} :
    (interval.inUnitsOf exponent).Holds q ↔ interval.Holds (q * 10 ^ exponent) := by
  have scale : (0 : ℚ) < 10 ^ (-exponent).toNat := by positivity
  have moved : q * (interval.denominator * 10 ^ exponent.toNat) =
      q * 10 ^ exponent * interval.denominator * 10 ^ (-exponent).toNat := by
    rw [← zpow_mul_pow_toNat (by norm_num)]
    ring
  simp only [Holds, inUnitsOf, Nat.pow_eq]
  push_cast
  rw [moved, mul_le_mul_iff_left₀ scale, mul_le_mul_iff_left₀ scale, mul_lt_mul_iff_left₀ scale,
    mul_lt_mul_iff_left₀ scale]

theorem IsProper.inUnitsOf (proper : interval.IsProper) (exponent : Int) :
    (interval.inUnitsOf exponent).IsProper := by
  have scale : 0 < 10 ^ (-exponent).toNat := by positivity
  constructor
  · exact Nat.mul_pos proper.denominator (by rw [Nat.pow_eq]; positivity)
  · exact Nat.mul_lt_mul_of_pos_right proper.low scale
  · exact Nat.mul_lt_mul_of_pos_right proper.high scale

theorem IsProper.center_inUnitsOf (proper : interval.IsProper) (exponent : Int) :
    (interval.inUnitsOf exponent).center * 10 ^ exponent = interval.center := by
  have denominator : (interval.denominator : ℚ) ≠ 0 := by exact_mod_cast proper.denominator.ne'
  have scale := zpow_mul_pow_toNat (show (10 : ℚ) ≠ 0 by norm_num) exponent
  simp only [center, RoundingInterval.inUnitsOf, Nat.pow_eq]
  push_cast
  rw [div_mul_eq_mul_div, div_eq_div_iff (by positivity) denominator, ← scale]
  ring

/-- No point of a grid is found only if the interval holds none. -/
theorem IsProper.not_holds_of_grid_eq_none (proper : interval.IsProper) {exponent : Int}
    (none : (interval.inUnitsOf exponent).nearest? = none) (units : Nat) :
    ¬ interval.Holds (units * 10 ^ exponent) := by
  rw [← holds_inUnitsOf]
  exact (proper.inUnitsOf exponent).not_holds_of_nearest?_eq_none none units

/-- The point of a grid that is found is held, and no other one that is held is nearer. -/
theorem IsProper.nearest_of_grid_eq_some (proper : interval.IsProper) {exponent : Int}
    {units : Nat} (found : (interval.inUnitsOf exponent).nearest? = some units) :
    interval.Holds (units * 10 ^ exponent) ∧ ∀ other : Nat, interval.Holds (other * 10 ^ exponent) →
      |units * 10 ^ exponent - interval.center| ≤ |other * 10 ^ exponent - interval.center| := by
  have scale : (0 : ℚ) < 10 ^ exponent := by positivity
  have distance (m : Nat) : |(m : ℚ) * 10 ^ exponent - interval.center| =
      |m - (interval.inUnitsOf exponent).center| * 10 ^ exponent := by
    rw [← proper.center_inUnitsOf exponent, ← sub_mul, abs_mul, abs_of_pos scale]
  obtain ⟨held, nearest⟩ := (proper.inUnitsOf exponent).nearest_of_nearest?_eq_some found
  apply And.intro (holds_inUnitsOf.mp held)
  intro other also
  rw [distance, distance]
  exact mul_le_mul_of_nonneg_right (nearest other (holds_inUnitsOf.mpr also)) scale.le

/-! ## The search -/

/-- The search stops at the first grid on which something is found. -/
theorem search_eq_some {finest : Int} {steps : Nat} {found : Scientific}
    (searched : interval.search finest steps = some found) :
    finest ≤ found.exponent ∧ (interval.inUnitsOf found.exponent).nearest? = some found.digits ∧
      ∀ coarser, found.exponent < coarser → coarser ≤ finest + steps →
        (interval.inUnitsOf coarser).nearest? = none := by
  induction steps with
  | zero =>
      rw [search, Option.map_eq_some_iff] at searched
      obtain ⟨digits, here, rfl⟩ := searched
      apply And.intro (le_refl _) (And.intro here _)
      intro coarser beyond within
      have : finest < coarser := beyond
      omega
  | succ steps ih =>
      rw [search] at searched
      split at searched
      · rename_i digits here
        cases searched
        apply And.intro _ (And.intro here _)
        · show finest ≤ finest + (steps + 1 : ℕ)
          omega
        · intro coarser beyond within
          have : finest + (steps + 1 : ℕ) < coarser := beyond
          omega
      · rename_i none
        obtain ⟨above, here, rest⟩ := ih searched
        apply And.intro above (And.intro here _)
        intro coarser beyond within
        rcases eq_or_lt_of_le within with rfl | earlier
        · exact none
        · apply rest coarser beyond
          push_cast at earlier
          omega

/-- The search fails only if nothing is found on the finest grid. -/
theorem nearest?_of_search_eq_none {finest : Int} {steps : Nat}
    (failed : interval.search finest steps = none) :
    (interval.inUnitsOf finest).nearest? = none := by
  induction steps with
  | zero => exact Option.map_eq_none_iff.mp failed
  | succ steps ih =>
      rw [search] at failed
      split at failed
      · cases failed
      · exact ih failed

end RoundingInterval

/-! ## The interval of a double -/

namespace Magnitude

variable {x : Magnitude} {q : ℚ}

/-- What is subtracted to reach the lower end, in quarters of a unit. -/
theorem gapBelow_eq (x : Magnitude) :
    2 * x.gapBelow = (if x.significand = 2 ^ 52 ∧ -1074 < x.exponent then 1 else 2 : ℕ) := by
  rw [gapBelow]
  split <;> norm_num

/-- The quarter of a unit, over the common denominator. -/
theorem quarter_mul_denominator (x : Magnitude) :
    2 ^ x.exponent / 4 * (2 : ℚ) ^ (2 - x.exponent).toNat = 2 ^ (x.exponent - 2).toNat := by
  have split := zpow_mul_pow_toNat (show (2 : ℚ) ≠ 0 by norm_num) (x.exponent - 2)
  have four : (2 : ℚ) ^ (2 : Int) = 4 := by norm_num
  rwa [neg_sub, zpow_sub₀ (by norm_num), four] at split

theorem low_around (positive : 0 < x.significand) :
    ((RoundingInterval.around x).low : ℚ) = x.low * (RoundingInterval.around x).denominator := by
  have room : (if x.significand = 2 ^ 52 ∧ -1074 < x.exponent then 1 else 2) ≤
      4 * x.significand := by
    split <;> omega
  simp only [RoundingInterval.around, Nat.pow_eq]
  rw [Nat.cast_mul, Nat.cast_sub room, ← gapBelow_eq]
  push_cast
  rw [← quarter_mul_denominator, low, value_below positive, value]
  ring

theorem high_around :
    ((RoundingInterval.around x).high : ℚ) = x.high * (RoundingInterval.around x).denominator := by
  simp only [RoundingInterval.around, Nat.pow_eq]
  push_cast
  rw [← quarter_mul_denominator, high, value_above, value]
  ring

theorem denominator_around_pos (x : Magnitude) :
    0 < (RoundingInterval.around x).denominator := by
  simp only [RoundingInterval.around, Nat.pow_eq]
  positivity

theorem center_around (x : Magnitude) : (RoundingInterval.around x).center = x.value := by
  have denominator : (2 : ℚ) ^ (2 - x.exponent).toNat ≠ 0 := by positivity
  simp only [RoundingInterval.center, RoundingInterval.around, Nat.pow_eq]
  push_cast
  rw [← quarter_mul_denominator, value, div_eq_iff denominator]
  ring

theorem isProper_around (positive : 0 < x.significand) : (RoundingInterval.around x).IsProper := by
  have unit : 0 < 2 ^ (x.exponent - 2).toNat := by positivity
  apply RoundingInterval.IsProper.mk (denominator_around_pos x)
  · apply Nat.mul_lt_mul_of_pos_right _ unit
    split <;> omega
  · apply Nat.mul_lt_mul_of_pos_right _ unit
    omega

/-- The numbers that are held in the interval of a double are those it attracts. -/
theorem holds_around (positive : 0 < x.significand) :
    (RoundingInterval.around x).Holds q ↔ x.Attracts q := by
  have denominator : (0 : ℚ) < (RoundingInterval.around x).denominator := by
    exact_mod_cast denominator_around_pos x
  have closed : (RoundingInterval.around x).closed = true ↔ x.significand % 2 = 0 :=
    decide_eq_true_iff
  rw [RoundingInterval.Holds, low_around positive, high_around, Attracts,
    mul_le_mul_iff_left₀ denominator, mul_le_mul_iff_left₀ denominator,
    mul_lt_mul_iff_left₀ denominator, mul_lt_mul_iff_left₀ denominator]
  simp only [closed]

/-- A double attracts whatever lies between numbers that it attracts. -/
theorem Attracts.between {first middle last : ℚ} (positive : 0 < x.significand)
    (here : x.Attracts first) (there : x.Attracts last) (behind : first ≤ middle)
    (upTo : middle ≤ last) : x.Attracts middle := by
  rw [← holds_around positive] at here there ⊢
  exact here.between there behind upTo

/-- Only positive numbers round to a positive double. -/
theorem Attracts.pos (positive : 0 < x.significand) (attracts : x.Attracts q) : 0 < q := by
  have low : 0 < x.low := by
    have value := value_pos positive
    have below : 0 ≤ x.below.value := mul_nonneg (Nat.cast_nonneg _) x.below.unit_pos.le
    rw [Magnitude.low]
    linarith
  exact low.trans_le attracts.within.1

/-- Strictly between the midpoints, it does not matter whether the significand is even. -/
theorem attracts_of_lt (above : x.low < q) (below : q < x.high) : x.Attracts q := by
  rw [Attracts]
  split
  · exact ⟨above.le, below.le⟩
  · exact ⟨above, below⟩

/-! ## The finest and the coarsest grid -/

/-- The step of the finest grid is shorter than the way from a double to either midpoint. -/
theorem finest_lt_quarter (canonical : x.IsCanonical) :
    (10 : ℚ) ^ RoundingInterval.finestExponent < 2 ^ x.exponent / 4 := by
  have powers : 2 ^ 1074 * 4 < 10 ^ 324 := by decide +kernel
  have cast : ((2 ^ 1074 * 4 : ℕ) : ℚ) < (10 ^ 324 : ℕ) := Nat.cast_lt.mpr powers
  have lowest : (2 : ℚ) ^ (-1074 : Int) ≤ 2 ^ x.exponent :=
    zpow_le_zpow_right₀ (by norm_num) canonical.lowest
  calc (10 : ℚ) ^ RoundingInterval.finestExponent = ((10 ^ 324 : ℕ) : ℚ)⁻¹ := by
        rw [RoundingInterval.finestExponent, zpow_neg, Nat.cast_pow]
        rfl
    _ < ((2 ^ 1074 * 4 : ℕ) : ℚ)⁻¹ := by
        apply inv_strictAnti₀ _ cast
        rw [Nat.cast_mul, Nat.cast_pow]
        positivity
    _ = 2 ^ (-1074 : Int) / 4 := by
        rw [zpow_neg, Nat.cast_mul, Nat.cast_pow, mul_inv, ← div_eq_mul_inv]
        rfl
    _ ≤ 2 ^ x.exponent / 4 := by linarith

/-- The finest grid always has a point that a double attracts. -/
theorem exists_attracts_finest (canonical : x.IsCanonical) (positive : 0 < x.significand) :
    ∃ units : Nat, x.Attracts (units * 10 ^ RoundingInterval.finestExponent) := by
  have step : (0 : ℚ) < 10 ^ RoundingInterval.finestExponent := by positivity
  have value := value_pos positive
  apply Exists.intro ⌊x.value / 10 ^ RoundingInterval.finestExponent⌋₊
  have upTo := Nat.floor_le (div_pos value step).le
  have beyond := Nat.lt_floor_add_one (x.value / 10 ^ RoundingInterval.finestExponent)
  rw [le_div_iff₀ step] at upTo
  rw [div_lt_iff₀ step, add_one_mul] at beyond
  apply attracts_of_lt
  · have short := finest_lt_quarter canonical
    have gap : 1 / 2 ≤ x.gapBelow := by
      rw [gapBelow]
      split <;> norm_num
    have quarter := mul_le_mul_of_nonneg_right gap x.unit_pos.le
    rw [low, value_below positive, sub_mul]
    rw [Magnitude.value] at beyond ⊢
    linarith
  · have next := x.value_lt_above
    rw [high]
    linarith

/-- What a double attracts is below the first step of the grids that are not tried. -/
theorem high_lt_of_coarser {exponent : Int}
    (coarser : RoundingInterval.finestExponent + (RoundingInterval.around x).coarserGrids <
      exponent) : x.high < 10 ^ exponent := by
  have denominator : (0 : ℚ) < (RoundingInterval.around x).denominator := by
    exact_mod_cast denominator_around_pos x
  rw [RoundingInterval.coarserGrids, RoundingInterval.finestExponent] at coarser
  generalize whole : (RoundingInterval.around x).high / (RoundingInterval.around x).denominator = n
    at coarser
  have floor : x.high < n + 1 := by
    have above := Nat.lt_div_mul_add (denominator_around_pos x)
      (a := (RoundingInterval.around x).high)
    rw [whole, ← Nat.add_one_mul] at above
    rw [← mul_lt_mul_iff_left₀ denominator, ← high_around]
    exact_mod_cast above
  have bits : n + 1 ≤ 10 ^ (n.log2 / 3 + 1) :=
    calc n + 1 ≤ 2 ^ (n.log2 + 1) := Nat.lt_log2_self
      _ ≤ 2 ^ (3 * (n.log2 / 3 + 1)) := Nat.pow_le_pow_right (by norm_num) (by omega)
      _ = 8 ^ (n.log2 / 3 + 1) := by rw [pow_mul]; norm_num
      _ ≤ 10 ^ (n.log2 / 3 + 1) := Nat.pow_le_pow_left (by norm_num) _
  have cast : (n : ℚ) + 1 ≤ 10 ^ (n.log2 / 3 + 1) := by exact_mod_cast bits
  have grown : (10 : ℚ) ^ (n.log2 / 3 + 1) ≤ 10 ^ exponent := by
    rw [← zpow_natCast]
    apply zpow_le_zpow_right₀ (by norm_num)
    push_cast at coarser ⊢
    omega
  exact floor.trans_le (cast.trans grown)

end Magnitude

end HtmlTemplate.Decimal
