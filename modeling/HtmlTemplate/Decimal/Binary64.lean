/-
# Double-precision numbers taken apart

A finite double is a whole number times a power of two. Everything that is said about the
decimal text of a double starts from these two numbers, which are exact.
-/

namespace HtmlTemplate.Decimal

/-- The number `significand * 2 ^ exponent`, without a sign. -/
structure Magnitude where
  significand : Nat
  exponent : Int
  deriving DecidableEq, Repr

namespace Magnitude

/-- Comparison of two magnitudes as multiples of the smaller power of two. -/
def isAtMost (x y : Magnitude) : Bool :=
  x.significand * Nat.pow 2 (x.exponent - y.exponent).toNat ≤
    y.significand * Nat.pow 2 (y.exponent - x.exponent).toNat

end Magnitude

/-- A double, taken apart. -/
inductive Binary64 where
  | nan
  | infinite (negative : Bool)
  | finite (negative : Bool) (magnitude : Magnitude)
  deriving DecidableEq, Repr

namespace Binary64

/-- Read the sign, the eleven bits of the exponent and the fifty-two bits of the fraction.
Above the lowest exponent the significand has a leading one that is not stored. -/
def ofBits (bits : Nat) : Binary64 :=
  let negative := bits / Nat.pow 2 63 % 2 = 1
  let biased : Nat := bits / Nat.pow 2 52 % Nat.pow 2 11
  let fraction : Nat := bits % Nat.pow 2 52
  if biased = 2047 then if fraction = 0 then .infinite negative else .nan
  else if biased = 0 then .finite negative ⟨fraction, -1074⟩
  else .finite negative ⟨Nat.pow 2 52 + fraction, biased - 1075⟩

/-- Take a double apart. -/
def ofFloat (x : Float) : Binary64 := ofBits x.toBits.toNat

end Binary64

end HtmlTemplate.Decimal
