import SqlGateway.Engine
import SqlGateway.Statement.Keyword
import SqlGateway.Text.Digits

/-
  This file defines how a SELECT without a limit of its own
  is capped.  SQL Server takes a TOP clause behind the
  opening, PostgreSQL a LIMIT clause on a line of its own at
  the end.

  Key definitions include:
    * `topPoint?`
    * `limitBody`
    * `rowCap?`
    * `capRows`
-/

namespace SqlGateway

namespace Statement

open Text

/- A statement is a SELECT, by its first word. -/
def isSelect (cs : List Char) : Bool :=
  startsWithKeyword .select (trimLeft isBlank cs)

/-
  Split blanks off the front of a text, at least one: the
  blanks and the rest.
-/
def splitBlanks?
    (cs : List Char) : Option (List Char × List Char) :=
  if startsWith isBlank cs then
    some (cs.takeWhile isBlank, cs.dropWhile isBlank)
  else
    none

/- Split a keyword and the blanks behind it off a text. -/
def splitSpaced?
    (k : Keyword)
    (cs : List Char) : Option (List Char × List Char) := do
  let (word, afterWord) ← splitKeyword? k cs
  let (blanks, rest) ← splitBlanks? afterWord
  return (word ++ blanks, rest)

/- Split DISTINCT or ALL off a text, where it stands. -/
def splitQuantifier
    (cs : List Char) : List Char × List Char :=
  match splitSpaced? .distinct cs with
  | some parts => parts
  | none => (splitSpaced? .all cs).getD ([], cs)

/-
  The two parts of a SELECT between which a TOP clause goes:
  the opening with its quantifier, and the rest.
-/
def topPoint?
    (cs : List Char) : Option (List Char × List Char) := do
  let (opening, rest) ←
    splitSpaced? .select (cs.dropWhile isBlank)
  let (quantifier, body) := splitQuantifier rest
  let before := cs.takeWhile isBlank ++ opening
  return (before ++ quantifier, body)

/- The TOP clause for a number of rows. -/
def topClause (n : Int) : List Char :=
  ['T', 'O', 'P', ' '] ++ signed n ++ [' ']

/-
  A statement without the blanks around it and the
  semicolons at its end.
-/
def limitBody (cs : List Char) : List Char :=
  trimRight isBlank
    (trimRight (· == ';') (trim isBlank cs))

/- The LIMIT clause for a number of rows. -/
def limitClause (n : Int) : List Char :=
  ['\n', 'L', 'I', 'M', 'I', 'T', ' '] ++ signed n

/- The words by which a statement limits its rows itself. -/
def limitWords : Engine → List Keyword
  | .sqlServer => [.top, .offset]
  | .postgres => [.limit]

/- A statement is a SELECT without a limit of its own. -/
def isUnlimited
    (engine : Engine)
    (cs : List Char) : Bool :=
  isSelect cs &&
    !(limitWords engine).any (hasKeyword · cs)

/-
  How to cap a statement at a number of rows; nothing if it
  is sent as it stands.
-/
def rowCap?
    (engine : Engine)
    (cs : List Char) : Option (Int → List Char) :=
  if isUnlimited engine cs then
    match engine with
    | .sqlServer =>
        (topPoint? cs).map fun parts n =>
          parts.1 ++ topClause n ++ parts.2
    | .postgres =>
        some fun n => limitBody cs ++ limitClause n
  else
    none

/- A statement capped at a number of rows. -/
def capRows
    (engine : Engine)
    (cs : List Char)
    (n : Int) : List Char :=
  match rowCap? engine cs with
  | some cap => cap n
  | none => cs

end Statement

end SqlGateway
