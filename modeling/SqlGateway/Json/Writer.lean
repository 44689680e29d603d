import SqlGateway.Value.Literal

/-
  This file defines how values are written as JSON: two
  spaces of indentation a level, everything beyond printable
  ASCII escaped, and a text for each value that JSON has no
  form for.

  Key definitions include:
    * `Json.escape`
    * `Json.string`
    * `Json.write`
    * `Json.document`
-/

namespace SqlGateway

open Text

namespace Json

------------------------------------------------------------
-- Strings
------------------------------------------------------------

/- The escape of one unit of sixteen bits. -/
def unitEscape (n : Nat) : List Char :=
  '\\' :: 'u' :: hexadecimal 4 n

/- The escape of a code point, as one unit or two. -/
def codeEscape (n : Nat) : List Char :=
  if n < 0x10000 then
    unitEscape n
  else
    unitEscape (0xD800 + (n - 0x10000) / 0x400) ++
      unitEscape (0xDC00 + (n - 0x10000) % 0x400)

/- One character inside a string. -/
def escape (c : Char) : List Char :=
  if c == '\x22' then
    ['\\', '\x22']
  else if c == '\\' then
    ['\\', '\\']
  else if c == '\n' then
    ['\\', 'n']
  else if c == '\r' then
    ['\\', 'r']
  else if c == '\t' then
    ['\\', 't']
  else if c == '\x08' then
    ['\\', 'b']
  else if c == '\x0c' then
    ['\\', 'f']
  else if 0x20 ≤ c.toNat && c.toNat < 0x7F then
    [c]
  else
    codeEscape c.toNat

/- One code inside a string. -/
def escapeCode : Code → List Char
  | .char c => escape c
  | .half unit => unitEscape unit

/- A text as a string. -/
def string (cs : List Char) : List Char :=
  '\x22' :: (cs.flatMap escape ++ ['\x22'])

/- A text that is given by its codes, as a string. -/
def codeString (codes : List Code) : List Char :=
  '\x22' :: (codes.flatMap escapeCode ++ ['\x22'])

/- A new line at a depth. -/
def newLine (depth : Nat) : List Char :=
  '\n' :: List.replicate (2 * depth) ' '

/-
  Items between brackets, one a line at the depth inside;
  without items the brackets stand together.
-/
def block
    (opening closing : Char)
    (depth : Nat)
    (items : List (List Char)) : List Char :=
  if items.isEmpty then
    [opening, closing]
  else
    opening :: (newLine (depth + 1) ++
      List.intercalate (',' :: newLine (depth + 1)) items ++
      newLine depth ++ [closing])

/- The names of the numbers that are not finite. -/
def numberNames : Double.SpecialNames where
  nan := ['N', 'a', 'N']
  infinity := ['I', 'n', 'f', 'i', 'n', 'i', 't', 'y']

/- A truth value. -/
def writeBool (b : Bool) : List Char :=
  if b then "true".toList else "false".toList

------------------------------------------------------------
-- Values
------------------------------------------------------------

mutual

/- A value at a depth. -/
def write
    (depth : Nat) : Value → List Char
  | .null => "null".toList
  | .bool b => writeBool b
  | .int i => signed i
  | .float x => x.write numberNames
  | .text s => string s.toList
  | .raw codes => codeString codes
  | .list vs =>
      block '[' ']' depth (writeItems (depth + 1) vs)
  | .tuple vs =>
      block '[' ']' depth (writeItems (depth + 1) vs)
  | .object fields =>
      block '\x7b' '\x7d' depth
        (writeFields (depth + 1) fields)
  | v => string v.display

/- Several values at a depth. -/
def writeItems
    (depth : Nat) : List Value → List (List Char)
  | [] => []
  | v :: vs => write depth v :: writeItems depth vs

/- Several named values at a depth. -/
def writeFields
    (depth : Nat) :
    List (String × Value) → List (List Char)
  | [] => []
  | (name, v) :: rest =>
      (string name.toList ++ ':' :: ' ' :: write depth v) ::
        writeFields depth rest

end

/- A value as a document. -/
def document (v : Value) : String :=
  String.ofList (write 0 v)

end Json

end SqlGateway
