import SqlGateway.Text.Integer
import SqlGateway.Value.Basic

/-
  This file defines how JSON is read into values.  The order
  of an object's names is kept; a name that comes again
  takes the place of the first and the value of the last.
  Beyond the standard, the names of the numbers that are not
  finite are read, and half a pair of units may stand alone.

  Key definitions include:
    * `Json.Fault`
    * `Json.stringBody`
    * `Json.readNumber`
    * `Json.readValue`
    * `Json.readWithin`
    * `Json.read`
-/

namespace SqlGateway

open Text

namespace Json

------------------------------------------------------------
-- Faults and Strings
------------------------------------------------------------

/- The values that hold other values. -/
inductive Container where
  | list
  | object
deriving Repr, DecidableEq

namespace Container

/- The name of a container in messages. -/
def name : Container → String
  | list => "array"
  | object => "object"

end Container

/-
  A text is no document, has a number of too many digits, or
  has containers inside each other beyond a depth.
-/
inductive Fault where
  | malformed
  | tooManyDigits (count : Nat)
  | tooDeep (container : Container)
deriving Repr, DecidableEq

namespace Fault

/- The wording of a fault. -/
def message : Fault → String
  | malformed => "malformed document"
  | tooManyDigits count =>
      (NumberFault.tooManyDigits count).message
  | tooDeep container =>
      "maximum recursion depth exceeded while decoding a " ++
        "JSON " ++ container.name ++
        " from a unicode string"

end Fault

/- The value of a hexadecimal digit. -/
def hexDigit? (c : Char) : Option Nat :=
  if c.isDigit then
    some (c.toNat - 48)
  else if 'a' ≤ c && c ≤ 'f' then
    some (c.toNat - 87)
  else if 'A' ≤ c && c ≤ 'F' then
    some (c.toNat - 55)
  else
    none

/- The unit that four hexadecimal digits stand for. -/
def unit? (a b c d : Char) : Option Nat := do
  let a ← hexDigit? a
  let b ← hexDigit? b
  let c ← hexDigit? c
  let d ← hexDigit? d
  return ((a * 16 + b) * 16 + c) * 16 + d

/- The character that a letter stands for after `\`. -/
def shortEscape? : Char → Option Char
  | '\x22' => some '\x22'
  | '\\' => some '\\'
  | '/' => some '/'
  | 'b' => some '\x08'
  | 'f' => some '\x0c'
  | 'n' => some '\n'
  | 'r' => some '\r'
  | 't' => some '\t'
  | _ => none

/- The first unit of a pair. -/
def isHighUnit (n : Nat) : Bool :=
  0xD800 ≤ n && n < 0xDC00

/- The second unit of a pair. -/
def isLowUnit (n : Nat) : Bool :=
  0xDC00 ≤ n && n < 0xE000

/- The code of a single unit. -/
def unitCode (n : Nat) : Code :=
  if isHighUnit n || isLowUnit n then
    .half n
  else
    .char (Char.ofNat n)

/- The character of a pair of units. -/
def pairChar (high low : Nat) : Char :=
  Char.ofNat
    (0x10000 + (high - 0xD800) * 0x400 + (low - 0xDC00))

/- The low unit that follows as an escape, with the rest. -/
def lowUnit? :
    List Char → Option (Nat × List Char)
  | '\\' :: 'u' :: a :: b :: c :: d :: rest =>
      match unit? a b c d with
      | some n =>
          if isLowUnit n then some (n, rest) else none
      | none => none
  | _ => none

/-
  One code of a string, escaped or not, and the rest; `none`
  for what may not stand inside a string.
-/
def stringCode? :
    List Char → Option (Code × List Char)
  | '\\' :: 'u' :: a :: b :: c :: d :: rest =>
      match unit? a b c d with
      | none => none
      | some n =>
          match isHighUnit n, lowUnit? rest with
          | true, some (low, rest) =>
              some (.char (pairChar n low), rest)
          | _, _ => some (unitCode n, rest)
  | '\\' :: c :: rest =>
      (shortEscape? c).map fun e => (.char e, rest)
  | c :: rest =>
      if c == '\\' || c.toNat < 0x20 then
        none
      else
        some (.char c, rest)
  | [] => none

/-
  The content of a string up to its closing quote, and the
  rest.
-/
def stringBody :
    Nat → List Char → Except Fault (List Code × List Char)
  | 0, _ => .error .malformed
  | _, [] => .error .malformed
  | fuel + 1, c :: cs =>
      if c == '\x22' then
        .ok ([], cs)
      else
        match stringCode? (c :: cs) with
        | none => .error .malformed
        | some (d, rest) =>
            (stringBody fuel rest).map fun parts =>
              (d :: parts.1, parts.2)

/- The name that codes stand for; a half is shown. -/
def nameOfCodes (codes : List Code) : String :=
  String.ofList (codes.map Code.shown)

------------------------------------------------------------
-- Numbers
------------------------------------------------------------

/- The digits at the front of a text, and the rest. -/
def splitDigits (cs : List Char) : List Char × List Char :=
  (cs.takeWhile Char.isDigit, cs.dropWhile Char.isDigit)

/- The natural that decimal digits stand for. -/
def digitsValue (ds : List Char) : Nat :=
  ds.foldl (fun n d => 10 * n + (d.toNat - 48)) 0

/- The digits after a point, and the rest. -/
def splitFraction? :
    List Char → Option (List Char × List Char)
  | '.' :: cs =>
      let (ds, rest) := splitDigits cs
      if ds.isEmpty then none else some (ds, rest)
  | _ => none

/- The sign of an exponent; true stands for minus. -/
def exponentSign : List Char → Bool × List Char
  | '-' :: cs => (true, cs)
  | '+' :: cs => (false, cs)
  | cs => (false, cs)

/- The exponent at the front of a text, and the rest. -/
def splitExponent? :
    List Char → Option (Int × List Char)
  | c :: cs =>
      if c == 'e' || c == 'E' then
        let (negative, body) := exponentSign cs
        let (ds, rest) := splitDigits body
        let n : Int := digitsValue ds
        if ds.isEmpty then
          none
        else
          some (if negative then -n else n, rest)
      else
        none
  | [] => none

/-
  The digits before the point: a zero stands alone, any
  other digit is followed by more.
-/
def splitWhole? :
    List Char → Option (List Char × List Char)
  | '0' :: cs => some (['0'], cs)
  | cs =>
      let (ds, rest) := splitDigits cs
      if ds.isEmpty then none else some (ds, rest)

/- A whole number, unless it has too many digits. -/
def wholeNumber
    (negative : Bool)
    (ds : List Char) : Except Fault Value :=
  if maxDigits < ds.length then
    .error (.tooManyDigits ds.length)
  else
    let n : Int := digitsValue ds
    .ok (.int (if negative then -n else n))

/-
  A number without its sign.  It is whole unless a fraction
  or an exponent follows its digits.
-/
def readUnsigned
    (negative : Bool)
    (cs : List Char) : Except Fault (Value × List Char) :=
  match splitWhole? cs with
  | none => .error .malformed
  | some (whole, rest) =>
      let fraction := splitFraction? rest
      let (places, rest) := fraction.getD ([], rest)
      let exponent := splitExponent? rest
      let (power, rest) := exponent.getD (0, rest)
      if fraction.isNone && exponent.isNone then
        (wholeNumber negative whole).map fun v => (v, rest)
      else
        let x :=
          Double.ofDecimal negative
            (digitsValue (whole ++ places))
            (power - places.length)
        .ok (.float x, rest)

/- A number at the front of a text, and the rest. -/
def readNumber :
    List Char → Except Fault (Value × List Char)
  | '-' :: cs => readUnsigned true cs
  | cs => readUnsigned false cs

------------------------------------------------------------
-- Values
------------------------------------------------------------

/- The white space between the parts of a document. -/
def isSpace (c : Char) : Bool :=
  c == ' ' || c == '\t' || c == '\n' || c == '\r'

/- A text without the white space in front. -/
def skipSpace (cs : List Char) : List Char :=
  cs.dropWhile isSpace

/- The words that stand for a value. -/
def words : List (String × Value) :=
  [("null", .null),
   ("true", .bool true),
   ("false", .bool false),
   ("NaN", .float .nan),
   ("Infinity", .float (.infinity false)),
   ("-Infinity", .float (.infinity true))]

/- A word at the front of a text, and the rest. -/
def readWord?
    (cs : List Char) : Option (Value × List Char) :=
  (words.find? fun w => w.1.toList.isPrefixOf cs).map
    fun w => (w.2, cs.drop w.1.length)

/- The depth inside one more container. -/
def inside
    (container : Container) : Nat → Except Fault Nat
  | 0 => .error (.tooDeep container)
  | depth + 1 => .ok depth

/-
  Reading is bounded by a fuel: two units for each character
  of the document are always enough.  The depth tells how
  many containers may still be opened inside each other.
-/
mutual

/- A value at the front of a text, and the rest. -/
def readValue
    (depth : Nat) :
    Nat → List Char → Except Fault (Value × List Char)
  | 0, _ => .error .malformed
  | fuel + 1, cs =>
      match cs with
      | '\x22' :: rest => do
          let (codes, rest) ← stringBody fuel rest
          return (.ofCodes codes, rest)
      | '[' :: rest => do
          let depth ← inside .list depth
          match skipSpace rest with
          | ']' :: rest => return (.list [], rest)
          | rest =>
              let (vs, rest) ← readItems depth fuel rest
              return (.list vs, rest)
      | '\x7b' :: rest => do
          let depth ← inside .object depth
          match skipSpace rest with
          | '\x7d' :: rest => return (.object [], rest)
          | rest =>
              let (fields, rest) ←
                readMembers depth fuel [] rest
              return (.object fields, rest)
      | cs =>
          match readWord? cs with
          | some parts => .ok parts
          | none => readNumber cs

/- The items of a list, at least one, and the rest. -/
def readItems
    (depth : Nat) :
    Nat → List Char →
      Except Fault (List Value × List Char)
  | 0, _ => .error .malformed
  | fuel + 1, cs => do
      let (v, rest) ← readValue depth fuel cs
      match skipSpace rest with
      | ',' :: rest =>
          let (vs, rest) ←
            readItems depth fuel (skipSpace rest)
          return (v :: vs, rest)
      | ']' :: rest => return ([v], rest)
      | _ => .error .malformed

/-
  The members of an object, at least one, and the rest;
  `before` holds the members that came earlier.
-/
def readMembers
    (depth : Nat) :
    Nat → Fields → List Char →
      Except Fault (Fields × List Char)
  | 0, _, _ => .error .malformed
  | fuel + 1, before, '\x22' :: rest => do
      let (codes, rest) ← stringBody fuel rest
      match skipSpace rest with
      | ':' :: rest =>
          let (v, rest) ←
            readValue depth fuel (skipSpace rest)
          let fields := before.put (nameOfCodes codes) v
          match skipSpace rest with
          | ',' :: rest =>
              readMembers depth fuel fields (skipSpace rest)
          | '\x7d' :: rest => return (fields, rest)
          | _ => .error .malformed
      | _ => .error .malformed
  | _, _, _ => .error .malformed

end

/-
  The value of a whole document whose containers stand
  inside each other up to a depth.
-/
def readWithin
    (depth : Nat)
    (cs : List Char) : Except Fault Value := do
  let (v, rest) ←
    readValue depth (2 * cs.length + 2) (skipSpace cs)
  if (skipSpace rest).isEmpty then
    return v
  else
    .error .malformed

/- The value of a whole document of any depth. -/
def read (cs : List Char) : Except Fault Value :=
  readWithin cs.length cs

end Json

end SqlGateway
