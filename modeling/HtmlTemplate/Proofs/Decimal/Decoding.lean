/-
# Doubles and their bits

The bits of a finite double are told from its sign, significand and exponent, which are canonical.
So a double is known by what it is taken apart into, and it is negative as the order of doubles
has it exactly if its sign says so and it is not zero.
-/

import HtmlTemplate.Proofs.Decimal.Rounding

namespace HtmlTemplate.Decimal

namespace Binary64

/-- The finite double is the one of its sign that the number is rounded to. -/
def IsRoundingOf (double : Binary64) (q : ℚ) : Prop :=
  ∃ negative x, double = .finite negative x ∧ (negative = true ↔ q < 0) ∧ x.IsNearest |q|

variable {bits : Nat} {negative : Bool} {x : Magnitude}

/-- What a finite double is taken apart into. -/
inductive IsFiniteOf (bits : Nat) : Bool → Magnitude → Prop where
  | subnormal (least : bits / 2 ^ 52 % 2 ^ 11 = 0) :
      IsFiniteOf bits (bits / 2 ^ 63 % 2 = 1) ⟨bits % 2 ^ 52, -1074⟩
  | normal (more : 0 < bits / 2 ^ 52 % 2 ^ 11) (less : bits / 2 ^ 52 % 2 ^ 11 < 2047) :
      IsFiniteOf bits (bits / 2 ^ 63 % 2 = 1)
        ⟨2 ^ 52 + bits % 2 ^ 52, (bits / 2 ^ 52 % 2 ^ 11 : ℕ) - 1075⟩

theorem isFiniteOf_of_ofBits (finite : ofBits bits = .finite negative x) :
    IsFiniteOf bits negative x := by
  simp only [ofBits, Nat.pow_eq] at finite
  split at finite
  · split at finite <;> cases finite
  · rename_i ordinary
    split at finite
    · rename_i least
      cases finite
      exact .subnormal least
    · rename_i more
      cases finite
      exact .normal (by omega) (by omega)

namespace IsFiniteOf

theorem isCanonical (finite : IsFiniteOf bits negative x) : x.IsCanonical := by
  cases finite with
  | subnormal least =>
      have fraction : bits % 2 ^ 52 < 2 ^ 52 := Nat.mod_lt _ (by norm_num)
      exact ⟨fraction.trans (by norm_num), le_refl _, Or.inr rfl⟩
  | normal more less =>
      apply Magnitude.IsCanonical.mk
      · show 2 ^ 52 + bits % 2 ^ 52 < 2 ^ 53
        omega
      · show (-1074 : Int) ≤ (bits / 2 ^ 52 % 2 ^ 11 : ℕ) - 1075
        omega
      · exact Or.inl (Nat.le_add_right _ _)

/-- The bits can be told from the sign, the significand and the exponent. -/
theorem bits_eq (finite : IsFiniteOf bits negative x) (bounded : bits < 2 ^ 64) :
    bits = (if negative then 2 ^ 63 else 0) +
      if x.significand < 2 ^ 52 then x.significand
      else (x.exponent + 1075).toNat * 2 ^ 52 + (x.significand - 2 ^ 52) := by
  cases finite with
  | subnormal least =>
      have fraction : bits % 2 ^ 52 < 2 ^ 52 := Nat.mod_lt _ (by norm_num)
      simp only [decide_eq_true_eq, if_pos fraction]
      split <;> omega
  | normal more less =>
      have hidden : ¬ 2 ^ 52 + bits % 2 ^ 52 < 2 ^ 52 := by omega
      simp only [decide_eq_true_eq, if_neg hidden]
      split <;> omega

end IsFiniteOf

end Binary64

open Binary64

section Finite

variable {m n : Float} {negative : Bool} {x : Magnitude}

theorem isFiniteOf_of_ofFloat (finite : ofFloat n = .finite negative x) :
    IsFiniteOf n.toBits.toNat negative x :=
  isFiniteOf_of_ofBits finite

/-- A finite double is known by what it is taken apart into. -/
theorem eq_of_ofFloat_eq (first : ofFloat m = .finite negative x)
    (second : ofFloat n = .finite negative x) : m = n := by
  have bits : m.toBits = n.toBits := by
    apply UInt64.toNat_inj.mp
    rw [(isFiniteOf_of_ofFloat first).bits_eq m.toBits.toNat_lt,
      (isFiniteOf_of_ofFloat second).bits_eq n.toBits.toNat_lt]
  cases m with
  | ofModel m =>
      cases n with
      | ofModel n =>
          cases m
          cases n
          cases bits
          rfl

end Finite

/-! ## The sign -/

section Sign

open Float.Model UnpackedFloat

variable (bits : BitVec 64)

theorem toNat_unpackExponent :
    (@unpackExponent Format.binary64 bits).toNat = bits.toNat / 2 ^ 52 % 2 ^ 11 := by
  show (bits.extractLsb 62 52).toNat = _
  rw [BitVec.extractLsb_toNat, Nat.shiftRight_eq_div_pow]

theorem toNat_unpackMantissa :
    (@unpackMantissa Format.binary64 bits).toNat = bits.toNat % 2 ^ 52 := by
  show (bits.extractLsb 51 0).toNat = _
  rw [BitVec.extractLsb_toNat, Nat.shiftRight_zero]

theorem toNat_unpackSign :
    (@unpackSign Format.binary64 bits).toNat = bits.toNat / 2 ^ 63 % 2 := by
  show (bits.extractLsb 63 63).toNat = _
  rw [BitVec.extractLsb_toNat, Nat.shiftRight_eq_div_pow]

/-- Whether the sign bit says that a double is negative. -/
theorem sign_eq_negative_iff :
    Sign.ofBitVec (@unpackSign Format.binary64 bits) = .negative ↔
      bits.toNat / 2 ^ 63 % 2 = 1 := by
  rw [Sign.ofBitVec, ← toNat_unpackSign]
  split
  · rename_i zero
    rw [zero]
    exact iff_of_false nofun (by decide)
  · rename_i nonzero
    have below := (@unpackSign Format.binary64 bits).isLt
    have other : (@unpackSign Format.binary64 bits).toNat ≠ 0 := fun zero =>
      nonzero (BitVec.eq_of_toNat_eq zero)
    exact iff_of_true rfl (by omega)

/-- What is neither zero nor infinite is below zero exactly if its sign says so. -/
theorem finite_lt_zero_iff {sign : Sign} {mantissa : Nat} {exponent : Int}
    (positive : 0 < mantissa) :
    (UnpackedFloat.finite sign mantissa exponent positive).lt (.zero .positive) = true ↔
      sign = .negative := by
  cases sign with
  | negative => exact iff_of_true rfl rfl
  | positive => exact iff_of_false Bool.false_ne_true nofun

/-- Bits of a finite double other than zero are unpacked as such. -/
theorem exists_unpack_eq_finite {negative : Bool} {x : Magnitude}
    (finite : IsFiniteOf bits.toNat negative x) (nonzero : x.significand ≠ 0) :
    ∃ mantissa exponent positive, UnpackedFloat.unpack Format.binary64 bits =
      .finite (Sign.ofBitVec (@unpackSign Format.binary64 bits)) mantissa exponent positive := by
  have exponent := toNat_unpackExponent bits
  have fraction := toNat_unpackMantissa bits
  unfold UnpackedFloat.unpack
  dsimp only
  have notLast : @unpackExponent Format.binary64 bits ≠ -1#_ := by
    intro last
    rw [last] at exponent
    have biased : bits.toNat / 2 ^ 52 % 2 ^ 11 = 2047 := exponent.symm
    cases finite <;> omega
  rw [if_neg notLast]
  by_cases least : @unpackExponent Format.binary64 bits = 0#_
  · rw [if_pos least]
    have filled : @unpackMantissa Format.binary64 bits ≠ 0#_ := by
      intro zero
      rw [zero] at fraction
      rw [least] at exponent
      have noFraction : bits.toNat % 2 ^ 52 = 0 := fraction.symm
      have biased : bits.toNat / 2 ^ 52 % 2 ^ 11 = 0 := exponent.symm
      cases finite with
      | subnormal => exact nonzero noFraction
      | normal more => omega
    rw [dif_neg filled]
    exact ⟨_, _, Nat.pos_of_ne_zero fun zero => filled (BitVec.eq_of_toNat_eq zero), rfl⟩
  · rw [if_neg least]
    have hidden : 0 < (1#1 ++ @unpackMantissa Format.binary64 bits).toNat := by
      rw [BitVec.toNat_append]
      exact Nat.lt_of_lt_of_le (by decide) Nat.left_le_or
    exact ⟨_, _, hidden, rfl⟩

end Sign

/-- A finite double other than zero is below zero exactly if its sign says so. -/
theorem lt_zero_iff {n : Float} {negative : Bool} {x : Magnitude}
    (finite : ofFloat n = .finite negative x) (nonzero : x.significand ≠ 0) :
    n < 0 ↔ negative = true := by
  have bits_zero : (0 : Float).toModel.toBits = 0 := by decide +kernel
  have unpack_zero : (0 : Float).toModel.unpack = .zero .positive := by
    rw [Float.Model.unpack, bits_zero]
    rfl
  have compared : n < 0 ↔ n.toModel.unpack.lt (0 : Float).toModel.unpack = true := by
    show decide (n.toModel < (0 : Float).toModel) = true ↔ _
    rw [decide_eq_true_iff]
    exact Iff.rfl
  have fields := isFiniteOf_of_ofFloat finite
  have sign : negative = true ↔ n.toBits.toNat / 2 ^ 63 % 2 = 1 := by
    cases fields <;> exact decide_eq_true_iff
  obtain ⟨mantissa, exponent, positive, unpacked⟩ :=
    exists_unpack_eq_finite n.toBits.toBitVec fields nonzero
  have here : n.toModel.unpack = _ := unpacked
  rw [compared, unpack_zero, here, finite_lt_zero_iff, sign_eq_negative_iff, sign]
  rfl

end HtmlTemplate.Decimal
