/-
  This file defines the written forms of whole numbers:
  decimal digits, decimal digits padded with zeros, and
  hexadecimal digits of a fixed width.

  Key definitions include:
    * `decimal`
    * `signed`
    * `padded`
    * `hexadecimal`
-/

namespace SqlGateway

namespace Text

/- The decimal digits of a number, without leading zeros. -/
def decimal (n : Nat) : List Char :=
  Nat.toDigits 10 n

/- A whole number with a minus sign when it is negative. -/
def signed : Int → List Char
  | .ofNat n => decimal n
  | .negSucc n => '-' :: decimal (n + 1)

/- Fill a written number with zeros up to a width. -/
def fillZeros
    (width : Nat)
    (digits : List Char) : List Char :=
  List.replicate (width - digits.length) '0' ++ digits

/- The decimal digits of a number, at least `width` many. -/
def padded
    (width n : Nat) : List Char :=
  fillZeros width (decimal n)

/- The lower-case hexadecimal digits, at least `width`. -/
def hexadecimal
    (width n : Nat) : List Char :=
  fillZeros width (Nat.toDigits 16 n)

end Text

end SqlGateway
