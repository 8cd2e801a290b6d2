/-
# Which doubles are equal

Doubles are compared as numbers. What is not a number is equal to nothing, the two zeros are
equal to one another, and apart from that a double is equal to itself only. The comparison
unpacks both sides, so this is shown by way of what a double is unpacked into, which is what it
is taken apart into here. It follows that equal doubles have the same text.
-/

import HtmlTemplate.Decimal.Layout
import HtmlTemplate.Proofs.Decimal.Decoding

namespace HtmlTemplate.Decimal

open Float.Model UnpackedFloat Binary64

namespace Binary64

/-- Whether a double counts as zero, with either sign. -/
def IsZero : Binary64 → Prop
  | .finite _ x => x.significand = 0
  | _ => False

/-- The sign of a double that was taken apart. -/
def signOf (negative : Bool) : Sign := if negative then .negative else .positive

/-- What a double is unpacked into for a comparison. -/
def unpacked : Binary64 → UnpackedFloat
  | .nan => .notANumber
  | .infinite negative => .infinity (signOf negative)
  | .finite negative x =>
      if positive : 0 < x.significand then
        .finite (signOf negative) x.significand x.exponent positive
      else .zero (signOf negative)

end Binary64

/-- The leading one that is not stored is put before the fraction. -/
theorem toNat_hidden (fraction : BitVec 52) :
    (1#1 ++ fraction).toNat = 2 ^ 52 + fraction.toNat := by
  rw [BitVec.toNat_append, ← Nat.shiftLeft_add_eq_or_of_lt fraction.isLt, Nat.shiftLeft_eq]
  rfl

/-- What is finite and not zero is given by its significand and its exponent. -/
theorem finite_congr {sign : Sign} {m k : Nat} {e f : Int} (positive : 0 < m)
    (otherPositive : 0 < k) (significand : m = k) (exponent : e = f) :
    finite sign m e positive = finite sign k f otherPositive := by
  subst significand exponent
  rfl

/-- Bits are unpacked into what they are taken apart into. -/
theorem unpack_eq (bits : BitVec 64) :
    UnpackedFloat.unpack Format.binary64 bits = (Binary64.ofBits bits.toNat).unpacked := by
  have signed : Sign.ofBitVec (@unpackSign Format.binary64 bits) =
      signOf (bits.toNat / 2 ^ 63 % 2 = 1) := by
    by_cases negative : bits.toNat / 2 ^ 63 % 2 = 1
    · rw [(sign_eq_negative_iff bits).mpr negative, signOf, if_pos (by simpa using negative)]
    · rw [signOf, if_neg (by simpa using negative)]
      cases sign : Sign.ofBitVec (@unpackSign Format.binary64 bits) with
      | positive => rfl
      | negative => exact absurd ((sign_eq_negative_iff bits).mp sign) negative
  have exponent := toNat_unpackExponent bits
  have fraction := toNat_unpackMantissa bits
  have isLast : @unpackExponent Format.binary64 bits = -1#_ ↔
      bits.toNat / 2 ^ 52 % 2 ^ 11 = 2047 := by
    rw [← exponent, ← BitVec.toNat_inj]
    rfl
  have isLeast : @unpackExponent Format.binary64 bits = 0#_ ↔
      bits.toNat / 2 ^ 52 % 2 ^ 11 = 0 := by
    rw [← exponent, ← BitVec.toNat_inj]
    rfl
  have isEmpty : @unpackMantissa Format.binary64 bits = 0#_ ↔ bits.toNat % 2 ^ 52 = 0 := by
    rw [← fraction, ← BitVec.toNat_inj]
    rfl
  unfold Binary64.ofBits
  simp only [Nat.pow_eq]
  unfold UnpackedFloat.unpack
  dsimp only
  rw [signed]
  by_cases last : bits.toNat / 2 ^ 52 % 2 ^ 11 = 2047
  · rw [if_pos (isLast.mpr last), if_pos last]
    by_cases empty : bits.toNat % 2 ^ 52 = 0
    · rw [if_pos (isEmpty.mpr empty), if_pos empty]
      rfl
    · rw [if_neg (isEmpty.not.mpr empty), if_neg empty]
      rfl
  rw [if_neg (isLast.not.mpr last), if_neg last]
  by_cases least : bits.toNat / 2 ^ 52 % 2 ^ 11 = 0
  · rw [if_pos (isLeast.mpr least), if_pos least]
    by_cases empty : bits.toNat % 2 ^ 52 = 0
    · rw [dif_pos (isEmpty.mpr empty), unpacked, dif_neg (Nat.not_lt.mpr empty.le)]
    · rw [dif_neg (isEmpty.not.mpr empty), unpacked, dif_pos (Nat.pos_of_ne_zero empty)]
      refine finite_congr _ _ fraction ?_
      rw [exponent, least]
      rfl
  · rw [if_neg (isLeast.not.mpr least), if_neg least, unpacked,
      dif_pos (Nat.add_pos_left (Nat.two_pow_pos 52) _)]
    refine finite_congr _ _ ?_ ?_
    · rw [← fraction]
      exact toNat_hidden _
    · rw [exponent]
      rfl

/-- A finite double is unpacked as zero, or with its positive significand. -/
theorem unpacked_finite_cases (negative : Bool) (x : Magnitude) :
    x.significand = 0 ∧ (Binary64.finite negative x).unpacked = .zero (signOf negative) ∨
      ∃ positive : 0 < x.significand, (Binary64.finite negative x).unpacked =
        .finite (signOf negative) x.significand x.exponent positive := by
  rcases Nat.eq_zero_or_pos x.significand with zero | positive
  · exact .inl ⟨zero, dif_neg (Nat.not_lt.mpr zero.le)⟩
  · exact .inr ⟨positive, dif_pos positive⟩

/-- Infinities are equal if they have the same sign. -/
theorem beq_infinity_iff (negative other : Bool) :
    (infinity (signOf negative)).beq (infinity (signOf other)) = true ↔ negative = other := by
  cases negative <;> cases other <;> decide

/-- What is finite and not zero is equal if its sign, exponent and significand are. -/
theorem beq_finite_iff (negative other : Bool) {m k : Nat} {e f : Int} (positive : 0 < m)
    (otherPositive : 0 < k) :
    (finite (signOf negative) m e positive).beq (finite (signOf other) k f otherPositive) = true ↔
      negative = other ∧ e = f ∧ m = k := by
  have same : (some ((compare e f).then (compare m k)) == some .eq) = true ↔ e = f ∧ m = k := by
    simp [Ordering.then_eq_eq]
  have swapped : (some ((compare e f).then (compare m k)).swap == some .eq) = true ↔
      e = f ∧ m = k := by
    simp [Ordering.then_eq_eq]
  cases negative <;> cases other
  · exact same.trans ⟨fun both => ⟨rfl, both⟩, And.right⟩
  · exact iff_of_false Bool.false_ne_true nofun
  · exact iff_of_false Bool.false_ne_true nofun
  · exact swapped.trans ⟨fun both => ⟨rfl, both⟩, And.right⟩

/-- What is unpacked compares as equal if it is the same, and a number, or zero on both sides. -/
theorem beq_unpacked_iff (first second : Binary64) :
    first.unpacked.beq second.unpacked = true ↔
      first ≠ .nan ∧ first = second ∨ first.IsZero ∧ second.IsZero := by
  cases first with
  | nan => exact iff_of_false Bool.false_ne_true (by simp [IsZero])
  | infinite negative =>
      cases second with
      | nan => cases negative <;> exact iff_of_false Bool.false_ne_true (by simp [IsZero])
      | infinite other => exact (beq_infinity_iff negative other).trans (by simp [IsZero])
      | finite other y =>
          rcases unpacked_finite_cases other y with ⟨_, shape⟩ | ⟨_, shape⟩ <;> rw [shape] <;>
            cases negative <;> exact iff_of_false Bool.false_ne_true (by simp [IsZero])
  | finite negative x =>
      rcases unpacked_finite_cases negative x with ⟨zero, shape⟩ | ⟨positive, shape⟩ <;> rw [shape]
      · cases second with
        | nan => exact iff_of_false Bool.false_ne_true (by simp [IsZero])
        | infinite other =>
            cases other <;> exact iff_of_false Bool.false_ne_true (by simp [IsZero])
        | finite other y =>
            rcases unpacked_finite_cases other y with
              ⟨otherZero, shape⟩ | ⟨otherPositive, shape⟩ <;> rw [shape]
            · exact iff_of_true rfl (.inr ⟨zero, otherZero⟩)
            · refine iff_of_false (by cases other <;> exact Bool.false_ne_true) ?_
              rintro (⟨-, ⟨⟩⟩ | ⟨-, otherZero⟩)
              · exact otherPositive.ne' zero
              · exact otherPositive.ne' otherZero
      · cases second with
        | nan => cases negative <;> exact iff_of_false Bool.false_ne_true (by simp [IsZero])
        | infinite other =>
            cases negative <;> cases other <;>
              exact iff_of_false Bool.false_ne_true (by simp [IsZero])
        | finite other y =>
            rcases unpacked_finite_cases other y with
              ⟨otherZero, shape⟩ | ⟨otherPositive, shape⟩ <;> rw [shape]
            · refine iff_of_false (by cases negative <;> exact Bool.false_ne_true) ?_
              rintro (⟨-, ⟨⟩⟩ | ⟨zero, -⟩)
              · exact positive.ne' otherZero
              · exact positive.ne' zero
            · rw [beq_finite_iff]
              obtain ⟨m, e⟩ := x
              obtain ⟨k, f⟩ := y
              constructor
              · rintro ⟨⟨⟩, ⟨⟩, ⟨⟩⟩
                exact .inl ⟨nofun, rfl⟩
              · rintro (⟨-, ⟨⟩⟩ | ⟨zero, -⟩)
                · exact ⟨rfl, rfl, rfl⟩
                · exact absurd zero positive.ne'

section Doubles

variable {m n k : Float}

/-- Two doubles are equal if they are the same number, or both zero. -/
theorem beq_iff :
    (m == n) = true ↔
      ofFloat m ≠ .nan ∧ ofFloat m = ofFloat n ∨ (ofFloat m).IsZero ∧ (ofFloat n).IsZero := by
  rw [← beq_unpacked_iff]
  show (UnpackedFloat.unpack _ _).beq (UnpackedFloat.unpack _ _) = true ↔ _
  rw [unpack_eq, unpack_eq]
  rfl

/-- What is not a number is taken apart as such. -/
theorem isNaN_iff : n.isNaN = true ↔ ofFloat n = .nan := by
  show (UnpackedFloat.unpack Format.binary64 n.toBits.toBitVec).isNaN = true ↔ _
  rw [unpack_eq]
  show (ofFloat n).unpacked.isNaN = true ↔ _
  cases ofFloat n with
  | nan => exact iff_of_true rfl rfl
  | infinite negative => exact iff_of_false Bool.false_ne_true nofun
  | finite negative x =>
      rcases unpacked_finite_cases negative x with ⟨_, shape⟩ | ⟨_, shape⟩ <;> rw [shape] <;>
        exact iff_of_false Bool.false_ne_true nofun

theorem beq_symm (equal : (m == n) = true) : (n == m) = true := by
  rw [beq_iff] at equal ⊢
  rcases equal with ⟨number, same⟩ | ⟨zero, other⟩
  · exact Or.inl ⟨same ▸ number, same.symm⟩
  · exact Or.inr ⟨other, zero⟩

theorem beq_trans (equal : (m == n) = true) (next : (n == k) = true) : (m == k) = true := by
  rw [beq_iff] at equal next ⊢
  rcases equal with ⟨number, same⟩ | ⟨zero, other⟩
  · rwa [same]
  · rcases next with ⟨-, same⟩ | ⟨-, last⟩
    · exact Or.inr ⟨zero, same ▸ other⟩
    · exact Or.inr ⟨zero, last⟩

/-- A double is equal to itself exactly if it is a number. -/
theorem beq_self_iff : (n == n) = true ↔ n.isNaN = false := by
  rw [beq_iff, ← Bool.not_eq_true, isNaN_iff]
  constructor
  · rintro (⟨number, -⟩ | ⟨zero, -⟩)
    · exact number
    · intro nan
      rwa [nan] at zero
  · exact fun number => Or.inl ⟨number, rfl⟩

/-- Equal doubles have the same text. -/
theorem formatNumber_eq_of_beq (equal : (m == n) = true) : formatNumber m = formatNumber n := by
  have zero {x : Float} (isZero : (ofFloat x).IsZero) :
      templateLayout.chars (ofFloat x) = templateLayout.zero.toList := by
    cases taken : ofFloat x with
    | nan | infinite negative =>
        rw [taken] at isZero
        cases isZero
    | finite negative magnitude =>
        rw [taken] at isZero
        rw [Layout.chars]
        exact if_pos isZero
  unfold formatNumber Layout.format
  rcases beq_iff.mp equal with ⟨-, same⟩ | ⟨here, there⟩
  · rw [same]
  · rw [zero here, zero there]

end Doubles

end HtmlTemplate.Decimal
