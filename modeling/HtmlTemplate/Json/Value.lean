/-
# JSON values

The data that a JSON text denotes. Objects keep their fields in the order in which the names
first occur. A number that is written with digits alone is kept as a whole number of 64 bits
if it is one; every other number is a double, and each becomes a double where one is asked for.

A number is read in one pass. Its digits are collected in a significand of 64 bits for as
long as they fit; digits after that count only by their places. Significand and power of
ten are then combined in double arithmetic, so the result can be off by an ulp or two from
the nearest double. A number beyond the largest double is no number.
-/

namespace HtmlTemplate.Json

/-- A JSON number as it is kept. -/
inductive JsonNumber where
  | unsigned (value : UInt64)
  /-- A whole number below zero. -/
  | negative (value : Int64)
  | double (value : Float)

/-- The double for a number, which is the nearest one. It is found in the same way on both sides of
zero. -/
def JsonNumber.toFloat : JsonNumber → Float
  | .unsigned value => value.toFloat
  | .negative value => -(-value).toUInt64.toFloat
  | .double value => value

/-- A JSON value. The fields of an object have distinct names. -/
inductive JsonValue where
  | null
  | bool (value : Bool)
  | number (value : JsonNumber)
  | string (value : String)
  | array (items : List JsonValue)
  | object (fields : List (String × JsonValue))
  deriving Inhabited

/-- The value of a decimal digit. -/
def digitValue (c : Char) : Nat := c.toNat - '0'.toNat

/-- Digits that have been read: `significand * 10 ^ exponent`. -/
structure Digits where
  significand : Nat
  exponent : Int
  deriving DecidableEq, Repr

namespace Digits

/-- The largest significand. -/
def largest : Nat := 0xFFFFFFFFFFFFFFFF

/-- Whether one more digit fits into the significand. -/
def fits (digits : Digits) (c : Char) : Bool :=
  digits.significand * 10 + digitValue c ≤ largest

/-- Read digits before the point. From the first that does not fit on, none is looked at. -/
def pushWhole (digits : Digits) : List Char → Digits
  | [] => digits
  | c :: rest =>
      if digits.fits c then
        pushWhole ⟨digits.significand * 10 + digitValue c, digits.exponent⟩ rest
      else ⟨digits.significand, digits.exponent + (rest.length + 1)⟩

/-- Read digits after the point. From the first that does not fit on, none counts. -/
def pushFraction (digits : Digits) : List Char → Digits
  | [] => digits
  | c :: rest =>
      if digits.fits c then
        pushFraction ⟨digits.significand * 10 + digitValue c, digits.exponent - 1⟩ rest
      else digits

end Digits

/-- The double nearest to a power of ten. -/
def powerOfTen (exponent : Nat) : Float := OfScientific.ofScientific 1 false exponent

/-- Divide by a power of ten in steps that a double can hold. Zero stays zero. -/
def divideByPower (x : Float) (exponent : Nat) : Nat → Float
  | 0 => x / powerOfTen exponent
  | steps + 1 =>
      if exponent ≤ 308 then x / powerOfTen exponent
      else if x == 0 then x
      else divideByPower (x / powerOfTen 308) (exponent - 308) steps

/-- Multiply by a power of ten, unless the result is too large. -/
def multiplyByPower? (x : Float) (exponent : Nat) : Option Float :=
  if exponent ≤ 308 then
    let product := x * powerOfTen exponent
    if product.isInf then none else some product
  else if x == 0 then some x
  else none

/-- The double for collected digits, unless it is too large. -/
def Digits.toFloat? (digits : Digits) : Option Float :=
  let x := digits.significand.toUInt64.toFloat
  if 0 ≤ digits.exponent then multiplyByPower? x digits.exponent.toNat
  else
    let places := (-digits.exponent).toNat
    some (divideByPower x places (places / 308 + 1))

/-- The largest written exponent that is taken at its value. -/
def largestExponent : Nat := 0x7FFFFFFF

/-- The double for collected digits and a written exponent. An exponent too large to be
taken at its value makes everything but zero too large, or vanish. -/
def withExponent? (digits : Digits) (negative : Bool) (written : List Char) : Option Float :=
  let size := written.foldl (fun n c => n * 10 + digitValue c) 0
  if size ≤ largestExponent then
    Digits.toFloat? ⟨digits.significand,
      if negative then digits.exponent - size else digits.exponent + size⟩
  else if negative || digits.significand == 0 then some 0
  else none

/-- Split off the leading decimal digits. -/
def spanDigits (chars : List Char) : List Char × List Char := chars.span Char.isDigit

/-- Read the exponent, if there is one, to the end. -/
def readExponent? (digits : Digits) : List Char → Option Float
  | [] => digits.toFloat?
  | mark :: rest =>
      if mark = 'e' ∨ mark = 'E' then
        let (negative, written) := match rest with
          | '+' :: written => (false, written)
          | '-' :: written => (true, written)
          | written => (false, written)
        match spanDigits written with
        | (_ :: _, []) => withExponent? digits negative written
        | _ => none
      else none

/-- A number without its sign. -/
inductive Magnitude where
  /-- Digits alone, all of which fit into 64 bits. -/
  | whole (value : UInt64)
  | double (value : Float)

namespace Magnitude

/-- The number without a sign. -/
def positive : Magnitude → JsonNumber
  | .whole value => .unsigned value
  | .double value => .double value

/-- The number with a minus sign. A zero would lose its sign as a whole number, and what is below
the least number of 64 bits has no place among them; both become doubles. -/
def negative : Magnitude → JsonNumber
  | .whole value =>
      if 0 < value ∧ value ≤ 0x8000000000000000 then .negative (-value.toInt64)
      else .double (-value.toFloat)
  | .double value => .double (-value)

end Magnitude

/-- Read a number without its sign, to the end. -/
def readMagnitude? (chars : List Char) : Option Magnitude :=
  match spanDigits chars with
  | ([], _) => none
  | ('0' :: _ :: _, _) => none
  | (whole, rest) =>
      let digits := Digits.pushWhole ⟨0, 0⟩ whole
      match rest with
      | [] =>
          if digits.exponent = 0 then some (.whole digits.significand.toUInt64)
          else digits.toFloat?.map .double
      | '.' :: rest =>
          match spanDigits rest with
          | ([], _) => none
          | (fraction, rest) => (readExponent? (digits.pushFraction fraction) rest).map .double
      | rest => (readExponent? digits rest).map .double

/-- Read a number, to the end. -/
def readNumber? : List Char → Option JsonNumber
  | '-' :: rest => (readMagnitude? rest).map Magnitude.negative
  | chars => (readMagnitude? chars).map Magnitude.positive

end HtmlTemplate.Json
