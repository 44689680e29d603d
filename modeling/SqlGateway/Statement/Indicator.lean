import SqlGateway.Statement.Keyword

/-
  This file defines the indicators of a smuggled statement:
  a separator followed by a statement that changes data or
  schemas, or the name of a procedure that runs commands.

  Key definitions include:
    * `chainedKeywords`
    * `indicatorAt`
    * `hasIndicator`
-/

namespace SqlGateway

namespace Statement

open Text

/- The keywords that may not follow a separator. -/
def chainedKeywords : List Keyword :=
  [.drop, .delete, .truncate, .update, .insert, .alter,
   .create]

/- The procedures that run commands given as text. -/
def commandProcedures : List (List Char) :=
  [['x', 'p', '_', 'c', 'm', 'd', 's', 'h', 'e', 'l', 'l'],
   ['s', 'p', '_', 'e', 'x', 'e', 'c', 'u', 't', 'e', 's',
    'q', 'l']]

/- A call by EXEC with a parenthesis behind it. -/
def callAt (cs : List Char) : Bool :=
  match splitKeyword? .exec cs with
  | some (_, rest) =>
      startsWith (· == '(') (rest.dropWhile isBlank)
  | none => false

/- What follows a separator and its blanks is forbidden. -/
def forbiddenAfterSeparator (cs : List Char) : Bool :=
  chainedKeywords.any (startsWithSpaced · cs) ||
    callAt cs

/- An indicator begins at the front of a text. -/
def indicatorAt (cs : List Char) : Bool :=
  (match cs with
    | ';' :: rest =>
        forbiddenAfterSeparator (rest.dropWhile isBlank)
    | _ => false) ||
    commandProcedures.any fun name =>
      (splitWord? name cs).isSome

/- An indicator stands somewhere in a text. -/
def hasIndicator : List Char → Bool
  | [] => false
  | c :: cs => indicatorAt (c :: cs) || hasIndicator cs

end Statement

end SqlGateway
