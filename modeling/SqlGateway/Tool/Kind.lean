import SqlGateway.Text.Blank
import SqlGateway.Text.Integer
import SqlGateway.Tool.Issue

/-
  This file defines the kinds of parameters: what a kind
  accepts, and how it is described to clients.

  Texts, numbers and switches are read generously: a number
  may come as a text or without a fraction, a switch as a
  word.

  Key definitions include:
    * `Kind`
    * `readText`
    * `readWhole`
    * `readFlag`
-/

namespace SqlGateway

open Text

/-
  A kind of parameter: the alternatives of its description,
  and the check of a value.
-/
structure Kind (α : Type) where
  alternatives : List Fields
  check : Value → Checked α

------------------------------------------------------------
-- Texts
------------------------------------------------------------

/- How a text is taken. -/
structure TextRule where
  trimmed : Bool := true
  least : Option Nat := none
  most : Option Nat := none

/- The length of a text lies within the bounds of a rule. -/
def checkLength
    (rule : TextRule)
    (text : String) : Except IssueKind String :=
  if text.length < rule.least.getD 0 then
    .error (.tooShort (rule.least.getD 0))
  else
    match rule.most with
    | some most =>
        if most < text.length then
          .error (.tooLong most)
        else
          .ok text
    | none => .ok text

/- A text, trimmed before its length is checked. -/
def readText
    (rule : TextRule) : Value → Except IssueKind String
  | .text s =>
      if rule.trimmed then
        checkLength rule
          (String.ofList (trim isWhite s.toList))
      else
        checkLength rule s
  | .raw _ => .error .notUnicode
  | _ => .error .notText

/- A text of any content, taken as it comes. -/
def readFreeText (v : Value) : Except IssueKind Value :=
  match v with
  | .text _ => .ok v
  | .raw _ => .ok v
  | _ => .error .notText

------------------------------------------------------------
-- Whole Numbers
------------------------------------------------------------

/- A bound on a number. -/
inductive Bound where
  | above (n : Int)
  | atLeast (n : Int)
  | atMost (n : Int)
deriving Repr, DecidableEq

namespace Bound

/- What is wrong with a number beyond a bound. -/
def issue? (n : Int) : Bound → Option IssueKind
  | above b => if b < n then none else some (.notAbove b)
  | atLeast b =>
      if b ≤ n then none else some (.notAtLeast b)
  | atMost b => if n ≤ b then none else some (.notAtMost b)

/- The field of a bound in a description. -/
def toField : Bound → String × Value
  | above b => ("exclusiveMinimum", .int b)
  | atLeast b => ("minimum", .int b)
  | atMost b => ("maximum", .int b)

end Bound

/- A number lies within bounds. -/
def checkBounds
    (bounds : List Bound)
    (n : Int) : Except IssueKind Int :=
  match bounds.findSome? (Bound.issue? n) with
  | some kind => .error kind
  | none => .ok n

/- A digit other than zero. -/
def isLeadingDigit (c : Char) : Bool :=
  c.isDigit && c != '0'

/-
  How many characters of a text make a number at its front:
  the sign and the digits, none of them if the first digit
  is a zero.
-/
def plainLength : List Char → Nat
  | '-' :: c :: cs =>
      if isLeadingDigit c then
        2 + (cs.takeWhile Char.isDigit).length
      else
        0
  | c :: cs =>
      if isLeadingDigit c then
        1 + (cs.takeWhile Char.isDigit).length
      else
        0
  | [] => 0

/-
  What follows zeros in front of a number.  Underscores may
  stand among the zeros, and a sign may follow them; the
  last of them, `last`, stays where no digit is left.
-/
def afterZeros?
    (last : Char) : List Char → Option (List Char)
  | [] => some [last]
  | c :: cs =>
      if c == '0' || c == '_' then
        afterZeros? c cs
      else if c == '.' then
        some (last :: c :: cs)
      else if isLeadingDigit c || c == '-' then
        some (c :: cs)
      else
        none

/- A number without the zeros in front of its digits. -/
def dropZeros? : List Char → Option (List Char)
  | c :: cs =>
      if c == '0' then
        afterZeros? c cs
      else if isLeadingDigit c then
        some (c :: cs)
      else
        none
  | [] => none

/- A number behind a minus, without zeros in front. -/
def bareNegative? (cs : List Char) : Option (List Char) :=
  (dropZeros? cs).map fun rest => '-' :: rest

/-
  A number without zeros in front: a plus is left out, and a
  minus stays.
-/
def bareNumber? : List Char → Option (List Char)
  | '+' :: '-' :: cs => bareNegative? cs
  | '+' :: cs => dropZeros? cs
  | '-' :: cs => bareNegative? cs
  | cs => dropZeros? cs

/- A text without a point and the zeros behind it. -/
def dropZeroFraction (cs : List Char) : List Char :=
  let fraction := (cs.dropWhile (· != '.')).drop 1
  if !fraction.isEmpty && fraction.all (· == '0') then
    cs.takeWhile (· != '.')
  else
    cs

/- Two underscores stand side by side. -/
def hasDoubleUnderscore : List Char → Bool
  | '_' :: '_' :: _ => true
  | _ :: cs => hasDoubleUnderscore cs
  | [] => false

/-
  A text without its underscores, each of which stands
  between two other characters.
-/
def dropUnderscores (cs : List Char) : List Char :=
  if cs.head? == some '_' || cs.getLast? == some '_' ||
      hasDoubleUnderscore cs then
    cs
  else
    cs.filter (· != '_')

/- The natural that a row of digits stands for; a zero
   stands alone. -/
def plainNatural? (cs : List Char) : Option Nat :=
  if cs == ['0'] then
    some 0
  else if cs.all Char.isDigit &&
      (cs.head?.any isLeadingDigit) then
    some (ofDigits (cs.map fun d => d.toNat - 48))
  else
    none

/- The number of a sign and digits, if there are few enough
   characters. -/
def plainWhole? (cs : List Char) : Option Int :=
  if maxDigits < cs.length then
    none
  else
    match cs with
    | '-' :: ds =>
        (plainNatural? ds).map fun n => -(n : Int)
    | ds => (plainNatural? ds).map fun n => (n : Int)

/-
  The number that a text stands for: white space around it,
  a sign, zeros in front, a fraction of zeros and
  underscores between digits are allowed.
-/
def lenientWhole? (s : String) : Option Int := do
  let cs ← bareNumber? (trim isWhite s.toList)
  plainWhole? (dropUnderscores (dropZeroFraction cs))

/-
  The number that a text stands for.  A text that begins
  with more digits than are ever read is turned away for its
  size, whatever follows them.
-/
def wholeOfPlainText (s : String) : Except IssueKind Int :=
  if maxDigits < plainLength s.toList then
    .error .oversized
  else
    match lenientWhole? s with
    | some n => .ok n
    | none => .error .unreadableWhole

/- The first number beyond 64 bits with a sign. -/
def wordLimit : Int := 0x8000000000000000

/- The integer part of a double lies within 64 bits. -/
def fitsWord (x : Double) : Bool :=
  -wordLimit < x.truncate && x.truncate < wordLimit

/- The number that a double stands for. -/
def wholeOfPlainDouble (x : Double) : Except IssueKind Int :=
  if x.isSpecial then
    .error .notFinite
  else if !x.isWhole then
    .error .fractional
  else if fitsWord x then
    .ok x.truncate
  else
    .error .oversized

/- A whole number, in any of the forms it may come in. -/
def readWhole : Value → Except IssueKind Int
  | .int i => .ok i
  | .bool b => .ok (if b then 1 else 0)
  | .float x => wholeOfPlainDouble x
  | .text s => wholeOfPlainText s
  | .raw _ => .error .notUnicode
  | _ => .error .notWhole

/- The words that turn a switch off, and those that turn it
   on. -/
def flagWords : List (String × Bool) :=
  [("0", false), ("off", false), ("f", false),
   ("false", false), ("n", false), ("no", false),
   ("1", true), ("on", true), ("t", true), ("true", true),
   ("y", true), ("yes", true)]

/- The switch that a word stands for. -/
def flagOfWord (s : String) : Except IssueKind Bool :=
  let word := String.ofList (s.toList.map Char.toLower)
  match flagWords.find? (·.1 == word) with
  | some entry => .ok entry.2
  | none => .error .unreadableFlag

/- The switch that a number stands for. -/
def flagOfNumber (i : Int) : Except IssueKind Bool :=
  if i == 0 then
    .ok false
  else if i == 1 then
    .ok true
  else
    .error .unreadableFlag

/- A number lies within 64 bits with a sign. -/
def isWord (i : Int) : Bool :=
  -wordLimit ≤ i && i < wordLimit

/- A switch, in any of the forms it may come in. -/
def readFlag : Value → Except IssueKind Bool
  | .bool b => .ok b
  | .int i =>
      if isWord i then flagOfNumber i else .error .notFlag
  | .float x =>
      if !x.isSpecial && x.isWhole && fitsWord x then
        flagOfNumber x.truncate
      else
        .error .notFlag
  | .text s => flagOfWord s
  | .raw _ => .error .notUnicode
  | _ => .error .notFlag

------------------------------------------------------------
-- Kinds
------------------------------------------------------------

namespace Kind

variable {α : Type}

/- A field of a description, where there is a value. -/
def boundField
    (name : String) : Option Nat → Fields
  | some n => [(name, .int n)]
  | none => []

/- A text. -/
def text (rule : TextRule) : Kind String where
  alternatives :=
    [[("type", .text "string")] ++
      boundField "minLength" rule.least ++
      boundField "maxLength" rule.most]
  check v := .ofExcept v (readText rule v)

/- A text of any content. -/
def freeText : Kind Value where
  alternatives := [[("type", .text "string")]]
  check v := .ofExcept v (readFreeText v)

/- A whole number within bounds. -/
def whole (bounds : List Bound) : Kind Int where
  alternatives :=
    [("type", .text "integer") :: bounds.map Bound.toField]
  check v :=
    .ofExcept v (readWhole v >>= checkBounds bounds)

/- A switch. -/
def flag : Kind Bool where
  alternatives := [[("type", .text "boolean")]]
  check v := .ofExcept v (readFlag v)

/- The reference to a definition. -/
def reference (name : String) : Fields :=
  [("$ref", .text ("#/$defs/" ++ name))]

/- One of a list of names, letter for letter. -/
def choice
    (title : String)
    (names : List String)
    (ofName? : String → Option α) : Kind α where
  alternatives := [reference title]
  check v :=
    match v with
    | .text s =>
        match ofName? s with
        | some a => .accepted a
        | none => .issue (.notAmong names) v
    | .raw _ => .issue .notUnicode v
    | _ => .issue (.notAmong names) v

/- A kind that may be left null. -/
def nullable (kind : Kind α) : Kind (Option α) where
  alternatives :=
    kind.alternatives ++ [[("type", .text "null")]]
  check v :=
    match v with
    | .null => .accepted none
    | v => (kind.check v).map some

end Kind

end SqlGateway
