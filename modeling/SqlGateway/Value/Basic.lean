import SqlGateway.Text.Code
import SqlGateway.Value.Calendar
import SqlGateway.Value.Decimal
import SqlGateway.Value.Double

/-
  This file defines the values that databases return, that
  requests carry, and that answers are written from.

  Key definitions include:
    * `Value`
    * `Value.isTruthy`
    * `Fields`
-/

namespace SqlGateway

/-
  A value of a table cell, a request or an answer.  A text
  with half a pair in it is kept by its codes, as `raw`.
-/
inductive Value where
  | null
  | bool (b : Bool)
  | int (i : Int)
  | float (x : Double)
  | text (s : String)
  | raw (codes : List Text.Code)
  | bytes (bs : List UInt8)
  | decimal (d : Decimal)
  | date (d : Date)
  | time (t : TimeOfDay)
  | dateTime (t : DateTime)
  | duration (d : Duration)
  | uuid (n : Nat)
  | list (vs : List Value)
  | tuple (vs : List Value)
  | object (fields : List (String × Value))

/- Named values, in order. -/
abbrev Fields := List (String × Value)

namespace Value

/- The text of codes. -/
def ofCodes (codes : List Text.Code) : Value :=
  match Text.Code.chars? codes with
  | some cs => text (String.ofList cs)
  | none => raw codes

/- A text, or null where there is none. -/
def ofText? (text? : Option String) : Value :=
  match text? with
  | some s => text s
  | none => null

/- A whole number, or null where there is none. -/
def ofInt? (int? : Option Int) : Value :=
  match int? with
  | some i => int i
  | none => null

/- A list of texts. -/
def ofTexts (texts : List String) : Value :=
  list (texts.map text)

/- A value counts as true: it is neither zero nor empty. -/
def isTruthy : Value → Bool
  | null => false
  | bool b => b
  | int i => i != 0
  | float x => !x.isZero
  | text s => s != ""
  | bytes bs => !bs.isEmpty
  | decimal d => d.isNonzero
  | duration d => d.isNonzero
  | list vs => !vs.isEmpty
  | tuple vs => !vs.isEmpty
  | object fields => !fields.isEmpty
  | _ => true

end Value

namespace Fields

/- The value under a name. -/
def get?
    (fields : Fields)
    (name : String) : Option Value :=
  (fields.find? (·.1 == name)).map (·.2)

/- Set a value, in place where the name is taken. -/
def put : Fields → String → Value → Fields
  | [], name, v => [(name, v)]
  | (n, w) :: rest, name, v =>
      if n == name then
        (n, v) :: rest
      else
        (n, w) :: put rest name v

/- Set values one after the other. -/
def putAll
    (fields : Fields)
    (more : Fields) : Fields :=
  more.foldl (fun fs f => put fs f.1 f.2) fields

/- Pair names with values; the shorter list decides. -/
def ofColumns
    (names : List String)
    (values : List Value) : Fields :=
  putAll [] (names.zip values)

end Fields

end SqlGateway
