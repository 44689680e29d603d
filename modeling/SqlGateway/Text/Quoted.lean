import SqlGateway.Text.Code
import SqlGateway.Text.Digits
import SqlGateway.Text.Printable

/-
  This file defines the quoted literals of texts and of byte
  strings, as they stand in messages and in table cells.

  A literal is put in single quotes, unless the content
  holds a single quote and no double quote.  The quote in
  use and the backslash are escaped, and so is everything
  that is not printable.

  Key definitions include:
    * `quoteFor`
    * `quoted`
    * `quotedCodes`
    * `quotedBytes`
-/

namespace SqlGateway

namespace Text

/- The quote that needs the fewest escapes. -/
def quoteFor (cs : List Char) : Char :=
  if cs.contains '\x27' && !cs.contains '\x22' then
    '\x22'
  else
    '\x27'

/- The escape of a code point in the shortest form. -/
def numericEscape (n : Nat) : List Char :=
  if n < 0x100 then
    '\\' :: 'x' :: hexadecimal 2 n
  else if n < 0x10000 then
    '\\' :: 'u' :: hexadecimal 4 n
  else
    '\\' :: 'U' :: hexadecimal 8 n

/- One character inside a literal with the given quote. -/
def quotedChar
    (quote c : Char) : List Char :=
  if c == quote || c == '\\' then
    ['\\', c]
  else if c == '\t' then
    ['\\', 't']
  else if c == '\n' then
    ['\\', 'n']
  else if c == '\r' then
    ['\\', 'r']
  else if isPrintable c then
    [c]
  else
    numericEscape c.toNat

/- The literal of a text. -/
def quoted (cs : List Char) : List Char :=
  let quote := quoteFor cs
  quote :: (cs.flatMap (quotedChar quote) ++ [quote])

/- One code inside a literal with the given quote. -/
def quotedCode
    (quote : Char) : Code → List Char
  | .char c => quotedChar quote c
  | .half unit => numericEscape unit

/- The literal of a text that is given by its codes. -/
def quotedCodes (codes : List Code) : List Char :=
  let quote := quoteFor (codes.map Code.shown)
  quote :: (codes.flatMap (quotedCode quote) ++ [quote])

/- One byte inside a literal with the given quote. -/
def quotedByte
    (quote : Char)
    (b : UInt8) : List Char :=
  if b.toNat < 0x7F then
    quotedChar quote (Char.ofNat b.toNat)
  else
    numericEscape b.toNat

/- The literal of a byte string. -/
def quotedBytes (bs : List UInt8) : List Char :=
  let quote :=
    quoteFor (bs.map fun b => Char.ofNat b.toNat)
  'b' :: quote ::
    (bs.flatMap (quotedByte quote) ++ [quote])

end Text

end SqlGateway
