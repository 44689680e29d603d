/-
  This file defines sets of characters given as closed
  ranges of code points.

  Key definitions include:
    * `inRange`
    * `rangeOf?`
    * `inRanges`
-/

namespace SqlGateway

namespace Text

/- A character lies between the two ends of a range. -/
def inRange
    (c : Char)
    (r : Nat × Nat) : Bool :=
  r.1 ≤ c.toNat && c.toNat ≤ r.2

/- The first range of a table that holds a character. -/
def rangeOf?
    (rs : List (Nat × Nat))
    (c : Char) : Option (Nat × Nat) :=
  rs.find? (inRange c)

/- A character lies in one of the ranges of a table. -/
def inRanges
    (rs : List (Nat × Nat))
    (c : Char) : Bool :=
  rs.any (inRange c)

end Text

end SqlGateway
