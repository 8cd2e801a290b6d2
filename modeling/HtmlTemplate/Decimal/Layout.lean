/-
# The layout of numbers

Digits and exponent say which number is written; the layout says how. Ordinary magnitudes
are written in positional form, with a point only where a fraction follows, and very large
or very small ones with an exponent that always carries its sign.
-/

import HtmlTemplate.Decimal.Shortest

namespace HtmlTemplate.Decimal

/-- The choices that a way of writing numbers has to make. -/
structure Layout where
  /-- The least double that is written positionally. -/
  positionalFrom : Magnitude
  /-- The least double above it that no longer is. -/
  positionalBelow : Magnitude
  zero : String
  nan : String
  infinity : String
  deriving DecidableEq, Repr

namespace Scientific

/-- The digits as they are written. -/
def digitChars (x : Scientific) : List Char := Nat.toDigits 10 x.digits

/-- The power of ten at which the leading digit stands. -/
def leadingExponent (x : Scientific) : Int := x.exponent + (x.digitChars.length - 1 : Nat)

/-- All digits at their places, filled up with zeros to the point on either side. -/
def positional (x : Scientific) : List Char :=
  let digits := x.digitChars
  if 0 ≤ x.exponent then digits ++ List.replicate x.exponent.toNat '0'
  else
    let places := (-x.exponent).toNat
    if places < digits.length then
      digits.take (digits.length - places) ++ '.' :: digits.drop (digits.length - places)
    else ['0', '.'] ++ List.replicate (places - digits.length) '0' ++ digits

/-- The leading digit, the others after a point, and the exponent with its sign. -/
def exponential (x : Scientific) : List Char :=
  let mantissa := match x.digitChars with
    | [] => []
    | [digit] => [digit]
    | digit :: others => digit :: '.' :: others
  let sign := if x.leadingExponent < 0 then '-' else '+'
  mantissa ++ 'e' :: sign :: Nat.toDigits 10 x.leadingExponent.natAbs

end Scientific

namespace Layout

/-- Whether a double is written without an exponent. -/
def isPositional (layout : Layout) (x : Magnitude) : Bool :=
  layout.positionalFrom.isAtMost x && !layout.positionalBelow.isAtMost x

/-- A positive double without its sign. -/
def magnitude (layout : Layout) (x : Magnitude) : List Char :=
  if layout.isPositional x then (shortest x).positional else (shortest x).exponential

/-- The text of a double that was taken apart. Both zeros are written alike. -/
def chars (layout : Layout) : Binary64 → List Char
  | .nan => layout.nan.toList
  | .infinite negative => (if negative then ['-'] else []) ++ layout.infinity.toList
  | .finite negative x =>
      if x.significand = 0 then layout.zero.toList
      else (if negative then ['-'] else []) ++ layout.magnitude x

/-- The text of a double. -/
def format (layout : Layout) (x : Float) : String :=
  String.ofList (layout.chars (.ofFloat x))

end Layout

/-- Numbers in templates and diagnostics have no exponent from the double nearest to a
millionth up to, and not including, `10 ^ 21`, which is a double itself. -/
def templateLayout : Layout where
  positionalFrom := ⟨4722366482869645, -72⟩
  positionalBelow := ⟨Nat.pow 10 21, 0⟩
  zero := "0"
  nan := "NaN"
  infinity := "Infinity"

/-- The text of a number as templates and diagnostics show it. -/
def formatNumber (x : Float) : String := templateLayout.format x

end HtmlTemplate.Decimal
