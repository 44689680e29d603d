import SqlGateway.Json.Reader

/-
  This file states the grammar of JSON documents as RFC 8259
  gives it, rule by rule, with the value that each text
  stands for.  Unlike the reader it knows no names for
  numbers that are not finite, and no bounds.

  Key definitions include:
    * `Json.CodeForm`
    * `Json.StringForm`
    * `Json.Number`
    * `Json.Joined`
    * `Json.Member`
    * `Json.Reads`
    * `Json.Decodes`
-/

namespace SqlGateway

namespace Json

open Text

------------------------------------------------------------
-- White Space
------------------------------------------------------------

/- White space, as much as there is. -/
def IsGap (cs : List Char) : Prop :=
  ∀ c ∈ cs, isSpace c = true

/- A text with white space on both sides. -/
def Padded (inner outer : List Char) : Prop :=
  ∃ before after,
    IsGap before ∧ IsGap after ∧
      outer = before ++ (inner ++ after)

------------------------------------------------------------
-- Strings
------------------------------------------------------------

/-
  One code inside a string: a character that stands for
  itself, or the escape of a character or a unit.
-/
inductive CodeForm : List Char → Code → Prop where
  | plain
      {c : Char}
      (hQuote : c ≠ '\x22')
      (hEscape : c ≠ '\\')
      (hControl : 0x20 ≤ c.toNat) :
      CodeForm [c] (.char c)
  | short
      {c e : Char}
      (hShort : shortEscape? c = some e) :
      CodeForm ['\\', c] (.char e)
  | unit
      {a b c d : Char}
      {n : Nat}
      (hUnit : unit? a b c d = some n) :
      CodeForm ['\\', 'u', a, b, c, d] (unitCode n)

/- Codes inside a string, one after the other. -/
inductive BodyForm : List Char → List Code → Prop where
  | nil : BodyForm [] []
  | cons
      {cs rest : List Char}
      {code : Code}
      {codes : List Code}
      (hCode : CodeForm cs code)
      (hRest : BodyForm rest codes) :
      BodyForm (cs ++ rest) (code :: codes)

/-
  Codes in which the halves of a pair that follow each other
  are put together.
-/
def joined : List Code → List Code
  | .half high :: .half low :: codes =>
      if isHighUnit high && isLowUnit low then
        .char (pairChar high low) :: joined codes
      else
        .half high :: joined (.half low :: codes)
  | code :: codes => code :: joined codes
  | [] => []

/- A string, with quotes, and its codes. -/
inductive StringForm : List Char → List Code → Prop where
  | quoted
      {body : List Char}
      {codes : List Code}
      (hBody : BodyForm body codes) :
      StringForm ('\x22' :: (body ++ ['\x22'])) (joined codes)

------------------------------------------------------------
-- Numbers
------------------------------------------------------------

/- Decimal digits, at least one. -/
def IsDigits (cs : List Char) : Prop :=
  cs ≠ [] ∧ ∀ c ∈ cs, c.isDigit = true

/- The ways to announce an exponent. -/
def exponentMarks : List (List Char) :=
  [['e'], ['E'], ['e', '+'], ['E', '+'], ['e', '-'],
   ['E', '-']]

/-
  The parts of a number.  Without a fraction there are no
  places, and without an exponent no mark and no power.
-/
structure Number where
  negative : Bool
  whole : List Char
  places : List Char
  mark : List Char
  power : List Char

namespace Number

/- The sign in front. -/
def sign (n : Number) : List Char :=
  if n.negative then ['-'] else []

/- The fraction with its point. -/
def fraction (n : Number) : List Char :=
  if n.places.isEmpty then [] else '.' :: n.places

/- A number as it is written. -/
def text (n : Number) : List Char :=
  n.sign ++ (n.whole ++ (n.fraction ++ (n.mark ++ n.power)))

/- Parts that a number may have: no zero in front of other
   digits, and digits behind the mark of an exponent. -/
structure WellFormed (n : Number) : Prop where
  whole : IsDigits n.whole
  noZero : n.whole.head? = some '0' → n.whole = ['0']
  places : ∀ c ∈ n.places, c.isDigit = true
  exponent :
    (n.mark = [] ∧ n.power = []) ∨
      (n.mark ∈ exponentMarks ∧ IsDigits n.power)

/- The power of ten of a number. -/
def exponent (n : Number) : Int :=
  if n.mark.contains '-' then
    -(digitsValue n.power : Int)
  else
    digitsValue n.power

/- What a number stands for.  It is whole unless it has a
   fraction or an exponent. -/
def value (n : Number) : Value :=
  if n.places.isEmpty && n.mark.isEmpty then
    .int
      (if n.negative then
        -(digitsValue n.whole : Int)
      else
        digitsValue n.whole)
  else
    .float
      (Double.ofDecimal n.negative
        (digitsValue (n.whole ++ n.places))
        (n.exponent - n.places.length))

end Number

------------------------------------------------------------
-- Values
------------------------------------------------------------

/- Items with white space on both sides, each behind a
   comma. -/
inductive More : List (List Char) → List Char → Prop where
  | nil : More [] []
  | cons
      {item cs rest : List Char}
      {items : List (List Char)}
      (hItem : Padded item cs)
      (hRest : More items rest) :
      More (item :: items) (',' :: (cs ++ rest))

/- Items between commas; without items there is white space
   only. -/
inductive Joined : List (List Char) → List Char → Prop where
  | nil
      {cs : List Char}
      (hGap : IsGap cs) :
      Joined [] cs
  | cons
      {item cs rest : List Char}
      {items : List (List Char)}
      (hItem : Padded item cs)
      (hRest : More items rest) :
      Joined (item :: items) (cs ++ rest)

/- A member of an object: a name, a colon and a value, with
   white space around the colon. -/
structure Member where
  key : List Char
  before : List Char
  after : List Char
  text : List Char
  codes : List Code
  value : Value

namespace Member

/- A member as it is written. -/
def written (m : Member) : List Char :=
  m.key ++ (m.before ++ ':' :: (m.after ++ m.text))

/- The name of a member is a string. -/
structure WellFormed (m : Member) : Prop where
  key : StringForm m.key m.codes
  before : IsGap m.before
  after : IsGap m.after

/- The name and the value of a member. -/
def field (m : Member) : String × Value :=
  (nameOfCodes m.codes, m.value)

end Member

/- A text is a value, and stands for it. -/
inductive Reads : List Char → Value → Prop where
  | nullWord : Reads ['n', 'u', 'l', 'l'] .null
  | trueWord : Reads ['t', 'r', 'u', 'e'] (.bool true)
  | falseWord : Reads ['f', 'a', 'l', 's', 'e'] (.bool false)
  | number
      {n : Number}
      (hNumber : n.WellFormed) :
      Reads n.text n.value
  | string
      {cs : List Char}
      {codes : List Code}
      (hString : StringForm cs codes) :
      Reads cs (.ofCodes codes)
  | list
      {items : List (List Char × Value)}
      {inner : List Char}
      (hItems : ∀ item ∈ items, Reads item.1 item.2)
      (hInner : Joined (items.map (·.1)) inner) :
      Reads ('[' :: (inner ++ [']']))
        (.list (items.map (·.2)))
  | object
      {members : List Member}
      {inner : List Char}
      (hMembers : ∀ m ∈ members, m.WellFormed)
      (hValues : ∀ m ∈ members, Reads m.text m.value)
      (hInner : Joined (members.map Member.written) inner) :
      Reads ('\x7b' :: (inner ++ ['\x7d']))
        (.object (members.map Member.field))

/- A text is a document, and stands for a value. -/
def Decodes (cs : List Char) (v : Value) : Prop :=
  ∃ inner, Reads inner v ∧ Padded inner cs

end Json

end SqlGateway
