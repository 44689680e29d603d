import SqlGateway.Text.Digits

/-
  This file defines decimal numbers as databases give them:
  a sign, a whole coefficient and a power of ten, so that
  trailing zeros are kept.

  Key definitions include:
    * `Decimal`
    * `Decimal.write`
    * `Decimal.truncate`
-/

namespace SqlGateway

/- A decimal number, an infinity, or no number. -/
inductive Decimal where
  | finite
      (negative : Bool)
      (coefficient : Nat)
      (power : Int)
  | infinite (negative : Bool)
  | nan
      (negative : Bool)
      (signaling : Bool)
      (payload : Nat)
deriving Repr, DecidableEq

namespace Decimal

/- A decimal other than a zero. -/
def isNonzero : Decimal → Bool
  | finite _ coefficient _ => coefficient != 0
  | _ => true

/-
  The integer part of a coefficient and a power of ten.  It
  is zero, whatever the power, for a zero and for a number
  whose digits all stand right of the point.
-/
def wholePart
    (coefficient : Nat) : Int → Nat
  | .ofNat n =>
      if coefficient == 0 then
        0
      else
        coefficient * Nat.pow 10 n
  | .negSucc n =>
      if (Text.decimal coefficient).length ≤ n + 1 then
        0
      else
        coefficient / Nat.pow 10 (n + 1)

/- The integer part with a sign. -/
def truncate
    (negative : Bool)
    (coefficient : Nat)
    (power : Int) : Int :=
  let n : Int := wholePart coefficient power
  if negative then -n else n

/- The sign of a negative number. -/
def writeSign (negative : Bool) : List Char :=
  if negative then ['-'] else []

/- Digits with the point after the first `point` of them. -/
def placePoint
    (ds : List Char)
    (point : Int) : List Char :=
  if point ≤ 0 then
    '0' :: '.' ::
      (List.replicate point.natAbs '0' ++ ds)
  else if (ds.length : Int) ≤ point then
    ds ++ List.replicate (point.toNat - ds.length) '0'
  else
    ds.take point.toNat ++ '.' :: ds.drop point.toNat

/- The magnitude of a finite decimal. -/
def writeMagnitude
    (coefficient : Nat)
    (power : Int) : List Char :=
  let ds := Text.decimal coefficient
  let point : Int := ds.length + power
  if power ≤ 0 && -6 < point then
    placePoint ds point
  else
    let e := point - 1
    let sign := if e < 0 then '-' else '+'
    let exponent :=
      if e == 0 then
        []
      else
        'E' :: sign :: Text.decimal e.natAbs
    placePoint ds 1 ++ exponent

/-
  The written form of a decimal.  The point is written in
  its place unless the last digit stands left of it, or more
  than five zeros would follow the point.
-/
def write : Decimal → List Char
  | finite negative coefficient power =>
      writeSign negative ++ writeMagnitude coefficient power
  | infinite negative =>
      writeSign negative ++ "Infinity".toList
  | nan negative signaling payload =>
      writeSign negative ++
        (if signaling then ['s'] else []) ++
        "NaN".toList ++
        (if payload == 0 then [] else Text.decimal payload)

end Decimal

end SqlGateway
