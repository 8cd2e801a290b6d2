/-
# Shortest decimals

Among the decimals that read back as a given double, the shortest one lies on the coarsest
grid of multiples of a power of ten that meets the numbers rounding to the double. On that
grid the nearest point is taken, and of two equally near points the upper one. All tests
are made on whole numbers, so nothing is rounded on the way.
-/

import HtmlTemplate.Decimal.Binary64

namespace HtmlTemplate.Decimal

/-- A positive decimal number: `digits * 10 ^ exponent`. -/
structure Scientific where
  digits : Nat
  exponent : Int
  deriving DecidableEq, Repr

/-- The numbers that round to a positive double, over a common denominator. The ends
belong to them when a tie is resolved in favour of the double. -/
structure RoundingInterval where
  low : Nat
  value : Nat
  high : Nat
  denominator : Nat
  closed : Bool
  deriving DecidableEq, Repr

namespace RoundingInterval

/-- The interval around a double. The neighbour below is only half as far away when the
significand is the least one above the subnormal range. -/
def around (x : Magnitude) : RoundingInterval :=
  let unit := Nat.pow 2 (x.exponent - 2).toNat
  let below := if x.significand = Nat.pow 2 52 ∧ -1074 < x.exponent then 1 else 2
  { low := (4 * x.significand - below) * unit
    value := 4 * x.significand * unit
    high := (4 * x.significand + 2) * unit
    denominator := Nat.pow 2 (2 - x.exponent).toNat
    closed := x.significand % 2 = 0 }

/-- The interval measured in units of `10 ^ exponent`. -/
def inUnitsOf (interval : RoundingInterval) (exponent : Int) : RoundingInterval :=
  let up := Nat.pow 10 (-exponent).toNat
  { interval with
    low := interval.low * up
    value := interval.value * up
    high := interval.high * up
    denominator := interval.denominator * Nat.pow 10 exponent.toNat }

/-- Whether a whole number of units lies in the interval. -/
def contains (interval : RoundingInterval) (units : Nat) : Bool :=
  let point := units * interval.denominator
  if interval.closed then interval.low ≤ point && point ≤ interval.high
  else interval.low < point && point < interval.high

/-- The whole number of units nearest to the value that lies in the interval, if any. Only
the two whole numbers around the value have to be tried. -/
def nearest? (interval : RoundingInterval) : Option Nat :=
  let below := interval.value / interval.denominator
  let above := below + 1
  match interval.contains below, interval.contains above with
  | false, false => none
  | true, false => some below
  | false, true => some above
  | true, true =>
      let toBelow := interval.value - below * interval.denominator
      let toAbove := above * interval.denominator - interval.value
      some (if toBelow < toAbove then below else above)

/-- Try the grids with exponents from `finest + steps` downwards, the coarsest first. -/
def search (interval : RoundingInterval) (finest : Int) : Nat → Option Scientific
  | 0 => (interval.inUnitsOf finest).nearest?.map (Scientific.mk · finest)
  | steps + 1 =>
      let exponent := finest + (steps + 1 : Nat)
      match (interval.inUnitsOf exponent).nearest? with
      | some digits => some ⟨digits, exponent⟩
      | none => search interval finest steps

/-- The finest grid ever needed: its step is shorter than any rounding interval. -/
def finestExponent : Int := -324

/-- How many grids are to be tried besides the finest one. A number below `8 ^ (k + 1)` is
below the first step of the grid with exponent `k + 1`. -/
def coarserGrids (interval : RoundingInterval) : Nat :=
  324 + (interval.high / interval.denominator).log2 / 3

end RoundingInterval

/-- The shortest decimal that reads back as the given positive double, the nearest one if
there are several. -/
def shortest (x : Magnitude) : Scientific :=
  let interval := RoundingInterval.around x
  (interval.search RoundingInterval.finestExponent interval.coarserGrids).getD ⟨0, 0⟩

end HtmlTemplate.Decimal
