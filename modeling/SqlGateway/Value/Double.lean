import SqlGateway.Text.Digits

/-
  This file defines double-precision binary numbers by their
  bit patterns, with exact arithmetic on natural numbers:
  reading a decimal rounds to the nearest double, and
  writing finds the fewest digits that read back.

  Key definitions include:
    * `Double`
    * `Double.ofRatio`
    * `Double.ofDecimal`
    * `Double.shortest`
    * `Double.write`
-/

namespace SqlGateway

------------------------------------------------------------
-- Bit Patterns
------------------------------------------------------------

/- A double: one sign bit, 11 exponent bits, 52 others. -/
structure Double where
  bits : UInt64
deriving Repr, DecidableEq

namespace Double

/- The value of the sign bit in a pattern. -/
def signUnit : Nat := 0x8000000000000000

/-
  The value of the lowest exponent bit in a pattern.  It is
  also the weight of the leading bit of a significand, which
  is not stored.
-/
def exponentUnit : Nat := 0x10000000000000

/- The sign bit is set. -/
def isNegative (x : Double) : Bool :=
  x.bits.toNat / signUnit == 1

/- The exponent field. -/
def exponentField (x : Double) : Nat :=
  x.bits.toNat / exponentUnit % 2048

/- The fraction field. -/
def fractionField (x : Double) : Nat :=
  x.bits.toNat % exponentUnit

/- The largest exponent field marks infinities and NaN. -/
def isSpecial (x : Double) : Bool :=
  x.exponentField == 2047

/- The pattern stands for no number at all. -/
def isNaN (x : Double) : Bool :=
  x.isSpecial && x.fractionField != 0

/- The pattern stands for an infinity. -/
def isInfinite (x : Double) : Bool :=
  x.isSpecial && x.fractionField == 0

/- The pattern stands for zero of either sign. -/
def isZero (x : Double) : Bool :=
  x.exponentField == 0 && x.fractionField == 0

/- The double with a sign and a magnitude pattern. -/
def ofFields
    (negative : Bool)
    (magnitude : Nat) : Double :=
  let sign := if negative then signUnit else 0
  ⟨UInt64.ofNat (sign + magnitude)⟩

/- The magnitude pattern of the infinities. -/
def infinityPattern : Nat := 2047 * exponentUnit

/- The infinity of a sign. -/
def infinity (negative : Bool) : Double :=
  ofFields negative infinityPattern

/- The pattern that stands for no number. -/
def nan : Double :=
  ofFields false (infinityPattern + exponentUnit / 2)

/- A ratio of two naturals, scaled by a power of a base. -/
def scaledRatio
    (base num den : Nat)
    (power : Int) : Nat × Nat :=
  match power with
  | .ofNat n => (num * base.pow n, den)
  | .negSucc n => (num, den * base.pow (n + 1))

/- The significand of a finite double, a whole number. -/
def significand (x : Double) : Nat :=
  if x.exponentField == 0 then
    x.fractionField
  else
    exponentUnit + x.fractionField

/- The power of two that a significand counts. -/
def place (x : Double) : Int :=
  max x.exponentField 1 - 1075

/- The magnitude of a finite double, as an exact ratio. -/
def ratio (x : Double) : Nat × Nat :=
  scaledRatio 2 x.significand 1 x.place

/- The integer part of a finite double. -/
def truncate (x : Double) : Int :=
  let (num, den) := x.ratio
  let n : Int := (num / den : Nat)
  if x.isNegative then -n else n

/- A finite double has no fraction. -/
def isWhole (x : Double) : Bool :=
  let (num, den) := x.ratio
  num % den == 0

------------------------------------------------------------
-- Rounding
------------------------------------------------------------

/- The quotient rounded to nearest, a tie to even. -/
def roundQuotient (num den : Nat) : Nat :=
  let q := num / den
  let r := num % den
  if 2 * r < den then
    q
  else if den < 2 * r then
    q + 1
  else
    q + q % 2

/-
  The greatest power of two that does not exceed a positive
  ratio.  A ratio below one is measured by its inverse.
-/
def leadingPlace (num den : Nat) : Int :=
  if den ≤ num then
    ((num / den).log2 : Nat)
  else
    -(((den - 1) / num).log2 + 1 : Nat)

/-
  The power of two of the last place of the double nearest
  to a positive ratio: 53 significant bits, but no place
  below the smallest double.
-/
def lastPlace (num den : Nat) : Int :=
  max (leadingPlace num den - 52) (-1074)

/-
  The double nearest to a ratio.  The rounded significand
  carries into the exponent field by plain addition.
-/
def ofRatio
    (negative : Bool)
    (num den : Nat) : Double :=
  if num == 0 then
    ofFields negative 0
  else
    let place := lastPlace num den
    let (n, d) := scaledRatio 2 num den (-place)
    let pattern :=
      (place + 1074).toNat * exponentUnit +
        roundQuotient n d
    ofFields negative (min pattern infinityPattern)

/- The number of decimal digits of a natural. -/
def digitCount (n : Nat) : Nat :=
  (Text.decimal n).length

/-
  The double nearest to `digits` times a power of ten.  A
  magnitude beyond all doubles is settled by its number of
  digits alone.
-/
def ofDecimal
    (negative : Bool)
    (digits : Nat)
    (power : Int) : Double :=
  let point : Int := digitCount digits + power
  if digits == 0 || point < -330 then
    ofFields negative 0
  else if 310 < point then
    infinity negative
  else
    let (num, den) := scaledRatio 10 digits 1 power
    ofRatio negative num den

/- The double of a whole number. -/
def ofInt (i : Int) : Double :=
  ofDecimal (i < 0) i.natAbs 0

------------------------------------------------------------
-- Written Form
------------------------------------------------------------

/- A decimal: digits times a power of ten. -/
structure Digits where
  digits : Nat
  power : Int
deriving Repr, DecidableEq

/-
  The position of the decimal point of a positive ratio: the
  least power of ten above it.  A ratio below one is
  measured by its inverse.
-/
def pointOf (num den : Nat) : Int :=
  if den ≤ num then
    digitCount (num / den)
  else
    1 - digitCount ((den - 1) / num)

/- A decimal reads back as a double of positive sign. -/
def readsBack
    (x : Double)
    (c : Digits) : Bool :=
  ofDecimal false c.digits c.power == x

/-
  The decimal nearest to a positive double among those of
  `count` digits that read back.
-/
def decimalOf?
    (x : Double)
    (count : Nat) : Option Digits :=
  let (num, den) := x.ratio
  let power := pointOf num den - count
  let (n, d) := scaledRatio 10 num den (-power)
  let below : Digits := ⟨n / d, power⟩
  let above : Digits := ⟨n / d + 1, power⟩
  let nearer := roundQuotient n d
  let first := if nearer == n / d then below else above
  let second := if nearer == n / d then above else below
  if x.readsBack first then
    some first
  else if x.readsBack second then
    some second
  else
    none

/-
  The decimal that equals a finite double: below the units,
  a power of two is as many powers of five over a power of
  ten.
-/
def exactDecimal (x : Double) : Digits :=
  match x.place with
  | .ofNat n => ⟨x.significand * Nat.pow 2 n, 0⟩
  | .negSucc n =>
      ⟨x.significand * Nat.pow 5 (n + 1), .negSucc n⟩

/-
  The first hit among growing numbers of digits, or the
  decimal that is exact.
-/
def shortestFrom
    (x : Double)
    (count : Nat) : Nat → Digits
  | 0 => x.exactDecimal
  | fuel + 1 =>
      match x.decimalOf? count with
      | some c => c
      | none => shortestFrom x (count + 1) fuel

/- A double without its sign. -/
def magnitude (x : Double) : Double :=
  ofFields false (x.bits.toNat % signUnit)

/-
  The decimal with the fewest digits that reads back as a
  finite double other than zero.  Seventeen digits always
  suffice.
-/
def shortest (x : Double) : Digits :=
  shortestFrom x.magnitude 1 17

/- An exponent: a sign and at least two digits. -/
def writeExponent (e : Int) : List Char :=
  'e' :: (if e < 0 then '-' else '+') ::
    Text.padded 2 e.natAbs

/- Digits without the zeros at their end. -/
def significant (c : Digits) : List Char :=
  let cs := Text.decimal c.digits
  (cs.reverse.dropWhile (· == '0')).reverse

/- Digits with one digit before the point. -/
def writeScientific
    (ds : List Char)
    (point : Int) : List Char :=
  let fraction :=
    if ds.length ≤ 1 then [] else '.' :: ds.drop 1
  ds.take 1 ++ fraction ++ writeExponent (point - 1)

/- Digits with the point in its place. -/
def writePositional
    (ds : List Char)
    (point : Int) : List Char :=
  if point ≤ 0 then
    '0' :: '.' ::
      (List.replicate point.natAbs '0' ++ ds)
  else
    let n := point.toNat
    if ds.length ≤ n then
      ds ++ List.replicate (n - ds.length) '0' ++
        ['.', '0']
    else
      ds.take n ++ '.' :: ds.drop n

/-
  The magnitude of a finite double.  The point is written in
  its place for magnitudes from a ten-thousandth up to ten
  to the sixteenth.
-/
def writeMagnitude (x : Double) : List Char :=
  if x.isZero then
    ['0', '.', '0']
  else
    let c := x.shortest
    let point : Int := digitCount c.digits + c.power
    let ds := significant c
    if -4 < point && point ≤ 16 then
      writePositional ds point
    else
      writeScientific ds point

/- The written form of a finite double. -/
def writeFinite (x : Double) : List Char :=
  if x.isNegative then
    '-' :: x.writeMagnitude
  else
    x.writeMagnitude

/- How numbers that are not finite are written. -/
structure SpecialNames where
  nan : List Char
  infinity : List Char

/- The written form of a double. -/
def write
    (names : SpecialNames)
    (x : Double) : List Char :=
  if x.isNaN then
    names.nan
  else if x.isInfinite then
    if x.isNegative then
      '-' :: names.infinity
    else
      names.infinity
  else
    x.writeFinite

end Double

end SqlGateway
