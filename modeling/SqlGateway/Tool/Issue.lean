import SqlGateway.Value.Basic

/-
  This file defines what can be wrong with the parameters of
  a call, and results that gather all that is wrong.

  Key definitions include:
    * `IssueKind`
    * `Issue`
    * `Checked`
-/

namespace SqlGateway

------------------------------------------------------------
-- Kinds of Issues
------------------------------------------------------------

/- What is wrong with one parameter. -/
inductive IssueKind where
  | missing
  | notText
  | notUnicode
  | tooShort (least : Nat)
  | tooLong (most : Nat)
  | notWhole
  | unreadableWhole
  | fractional
  | oversized
  | notFinite
  | notAbove (bound : Int)
  | notAtLeast (bound : Int)
  | notAtMost (bound : Int)
  | notFlag
  | unreadableFlag
  | notAmong (names : List String)
  | notModel (name : String)
deriving Repr, DecidableEq

namespace IssueKind

/- The name of a kind of issue. -/
def name : IssueKind → String
  | missing => "missing"
  | notText => "string_type"
  | notUnicode => "string_unicode"
  | tooShort _ => "string_too_short"
  | tooLong _ => "string_too_long"
  | notWhole => "int_type"
  | unreadableWhole => "int_parsing"
  | fractional => "int_from_float"
  | oversized => "int_parsing_size"
  | notFinite => "finite_number"
  | notAbove _ => "greater_than"
  | notAtLeast _ => "greater_than_equal"
  | notAtMost _ => "less_than_equal"
  | notFlag => "bool_type"
  | unreadableFlag => "bool_parsing"
  | notAmong _ => "enum"
  | notModel _ => "model_type"

/- A count of characters. -/
def characters (n : Nat) : String :=
  toString n ++
    if n == 1 then " character" else " characters"

/- Names in quotes, the last one after an "or". -/
def alternatives : List String → String
  | [] => ""
  | [last] => "'" ++ last ++ "'"
  | [first, last] =>
      "'" ++ first ++ "' or '" ++ last ++ "'"
  | first :: rest =>
      "'" ++ first ++ "', " ++ alternatives rest

/- The wording of a kind of issue. -/
def message : IssueKind → String
  | missing => "Field required"
  | notText => "Input should be a valid string"
  | notUnicode =>
      "Input should be a valid string, " ++
        "unable to parse raw data as a unicode string"
  | tooShort least =>
      "String should have at least " ++ characters least
  | tooLong most =>
      "String should have at most " ++ characters most
  | notWhole => "Input should be a valid integer"
  | unreadableWhole =>
      "Input should be a valid integer, " ++
        "unable to parse string as an integer"
  | fractional =>
      "Input should be a valid integer, " ++
        "got a number with a fractional part"
  | oversized =>
      "Unable to parse input string as an integer, " ++
        "exceeded maximum size"
  | notFinite => "Input should be a finite number"
  | notAbove bound =>
      "Input should be greater than " ++ toString bound
  | notAtLeast bound =>
      "Input should be greater than or equal to " ++
        toString bound
  | notAtMost bound =>
      "Input should be less than or equal to " ++
        toString bound
  | notFlag => "Input should be a valid boolean"
  | unreadableFlag =>
      "Input should be a valid boolean, " ++
        "unable to interpret input"
  | notAmong names =>
      "Input should be " ++ alternatives names
  | notModel name =>
      "Input should be a valid dictionary or instance of " ++
        name

end IssueKind

/-
  Something wrong, the names that lead to it, and the value
  that it was found in.  Of a part that is missing, that is
  the whole it is missing from.
-/
structure Issue where
  kind : IssueKind
  location : List String
  input : Value

namespace Issue

/- The issue seen from outside a named part. -/
def under
    (name : String)
    (issue : Issue) : Issue :=
  { issue with location := name :: issue.location }

/- The fields of an issue in a list of them. -/
def toFields (issue : Issue) : Fields :=
  [("type", .text issue.kind.name),
   ("loc", .ofTexts issue.location),
   ("msg", .text issue.kind.message),
   ("input", issue.input)]

end Issue

------------------------------------------------------------
-- Checked Results
------------------------------------------------------------

/- A value that passed its checks, or all that is wrong. -/
inductive Checked (α : Type) where
  | accepted (a : α)
  | rejected (issues : List Issue)

namespace Checked

variable {α β : Type}

/- Change an accepted value. -/
protected def map
    (f : α → β) : Checked α → Checked β
  | accepted a => accepted (f a)
  | rejected issues => rejected issues

/- Put two results together, with the issues of both. -/
protected def seq :
    Checked (α → β) → Checked α → Checked β
  | accepted f, accepted a => accepted (f a)
  | accepted _, rejected issues => rejected issues
  | rejected issues, accepted _ => rejected issues
  | rejected issues, rejected more =>
      rejected (issues ++ more)

instance : Applicative Checked where
  pure := accepted
  map := Checked.map
  seq f x := Checked.seq f (x ())

/- One thing is wrong with a value. -/
def issue
    (kind : IssueKind)
    (input : Value) : Checked α :=
  rejected [⟨kind, [], input⟩]

/- The result of a check of a value, which finds one thing
   wrong at most. -/
def ofExcept
    (input : Value) : Except IssueKind α → Checked α
  | .ok a => accepted a
  | .error kind => issue kind input

/- The result seen from outside a named part. -/
def under
    (name : String) : Checked α → Checked α
  | accepted a => accepted a
  | rejected issues =>
      rejected (issues.map (Issue.under name))

end Checked

end SqlGateway
