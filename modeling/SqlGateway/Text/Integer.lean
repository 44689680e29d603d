import SqlGateway.Text.Blank
import SqlGateway.Text.DecimalDigit
import SqlGateway.Text.Quoted

/-
  This file defines the reading of whole numbers from texts.

  A number is a run of decimal digits of any script, with
  single underscores between digits allowed, an optional
  sign in front, and white space around.

  Key definitions include:
    * `NumberFault`
    * `digitRun?`
    * `readInteger`
-/

namespace SqlGateway

namespace Text

/- A text is no number, or has too many digits to be read. -/
inductive NumberFault where
  | unreadable (literal : List Char)
  | tooManyDigits (count : Nat)
deriving Repr, DecidableEq

/- The longest run of digits that is read or written. -/
def maxDigits : Nat := 4300

namespace NumberFault

/- A literal is shown up to this many characters. -/
def shownLength : Nat := 200

/- The wording of a fault. -/
def message : NumberFault → String
  | unreadable literal =>
      "invalid literal for int() with base 10: " ++
        String.ofList (literal.take shownLength)
  | tooManyDigits count =>
      "Exceeds the limit (" ++ toString maxDigits ++
        " digits) for integer string conversion: value has "
        ++ toString count ++ " digits; use " ++
        "sys.set_int_max_str_digits() to increase the limit"

end NumberFault

/-
  The digits at the front of a text and what follows them.
  An underscore stands between two digits or the run is
  refused; `afterDigit` tells that a digit came just before.
-/
def digitRun?
    (afterDigit : Bool) :
    List Char → Option (List Nat × List Char)
  | [] => if afterDigit then some ([], []) else none
  | c :: cs =>
      if c == '_' then
        if afterDigit then digitRun? false cs else none
      else
        match decimalDigit? c with
        | some d =>
            (digitRun? true cs).map fun run =>
              (d :: run.1, run.2)
        | none =>
            if afterDigit then some ([], c :: cs) else none

/- The number that a row of decimal digits stands for. -/
def ofDigits (ds : List Nat) : Nat :=
  ds.foldl (fun n d => 10 * n + d) 0

/- Split the sign off; true stands for minus. -/
def splitSign : List Char → Bool × List Char
  | '-' :: cs => (true, cs)
  | '+' :: cs => (false, cs)
  | cs => (false, cs)

/-
  The number that a text stands for; `literal` is how a
  fault shows the text.
-/
def readIntegerAs
    (literal : List Char)
    (cs : List Char) : Except NumberFault Int :=
  let (negative, body) :=
    splitSign (cs.dropWhile isWhite)
  match digitRun? false body with
  | none => .error (.unreadable literal)
  | some (ds, rest) =>
      if maxDigits < ds.length then
        .error (.tooManyDigits ds.length)
      else if rest.all isWhite then
        let n : Int := ofDigits ds
        .ok (if negative then -n else n)
      else
        .error (.unreadable literal)

/- The number that a text stands for. -/
def readInteger (cs : List Char) : Except NumberFault Int :=
  readIntegerAs (quoted cs) cs

end Text

end SqlGateway
