import SqlGateway.Text.Ranges

/-
  This file defines the two sets of white space in use, and
  the trimming of a text.

  Statements and settings are read with `isBlank`, which
  counts the four information separators U+001C to U+001F.
  Tool parameters are trimmed with `isWhite`, which does
  not.

  Key definitions include:
    * `isBlank`
    * `isWhite`
    * `trimLeft`
    * `trimRight`
    * `trim`
-/

namespace SqlGateway

namespace Text

/- The blank characters. -/
def blankRanges : List (Nat × Nat) :=
  [(0x09, 0x0D), (0x1C, 0x20), (0x85, 0x85),
   (0xA0, 0xA0), (0x1680, 0x1680), (0x2000, 0x200A),
   (0x2028, 0x2029), (0x202F, 0x202F), (0x205F, 0x205F),
   (0x3000, 0x3000)]

/- A blank separates the words of a statement. -/
def isBlank (c : Char) : Bool :=
  inRanges blankRanges c

/- White space is blank and no information separator. -/
def isWhite (c : Char) : Bool :=
  isBlank c && !inRange c (0x1C, 0x1F)

/- The text without the leading characters of a set. -/
def trimLeft
    (p : Char → Bool)
    (cs : List Char) : List Char :=
  cs.dropWhile p

/- The text without the trailing characters of a set. -/
def trimRight
    (p : Char → Bool)
    (cs : List Char) : List Char :=
  (cs.reverse.dropWhile p).reverse

/- The text without the characters of a set at both ends. -/
def trim
    (p : Char → Bool)
    (cs : List Char) : List Char :=
  trimRight p (trimLeft p cs)

end Text

end SqlGateway
