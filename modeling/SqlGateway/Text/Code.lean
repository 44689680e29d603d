/-
  This file defines the codes of texts from outside: each is
  a character, or half of a pair of units whose other half
  is missing.

  Key definitions include:
    * `Code`
    * `Code.ofChars`
    * `Code.chars?`
    * `Code.shown`
-/

namespace SqlGateway

namespace Text

/- A character, or half a pair that stands alone. -/
inductive Code where
  | char (c : Char)
  | half (unit : Nat)
deriving Repr, DecidableEq

namespace Code

/- The codes of characters. -/
def ofChars (cs : List Char) : List Code :=
  cs.map char

/- The codes of a text. -/
def ofText (s : String) : List Code :=
  ofChars s.toList

/- The number of a code. -/
def number : Code → Nat
  | char c => c.toNat
  | half unit => unit

/- A code is half a pair. -/
def isHalf : Code → Bool
  | char _ => false
  | half _ => true

/- The character that stands for a code. -/
def shown : Code → Char
  | char c => c
  | half _ => '\uFFFD'

/- The characters of codes, unless there is a half. -/
def chars? : List Code → Option (List Char)
  | [] => some []
  | char c :: codes => (chars? codes).map fun cs => c :: cs
  | half _ :: _ => none

@[simp]
theorem chars?_ofChars (cs : List Char) :
    chars? (ofChars cs) = some cs := by
  induction cs with
  | nil => rfl
  | cons c cs ih =>
      simp only [ofChars, List.map_cons, chars?]
      simp only [ofChars] at ih
      simp [ih]

end Code

end Text

end SqlGateway
