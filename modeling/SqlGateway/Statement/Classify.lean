import SqlGateway.Statement.Keyword

/-
  This file defines the class of a statement: what it does
  to the database, as told by the keyword that opens it.

  Key definitions include:
    * `StatementClass`
    * `Opening`
    * `openings`
    * `classify`
-/

namespace SqlGateway

namespace Statement

open Text

/- What a statement does: read, write, or change schemas. -/
inductive StatementClass where
  | read
  | write
  | ddl
deriving Repr, DecidableEq

namespace StatementClass

/- The name of a class. -/
def name : StatementClass → String
  | read => "read"
  | write => "write"
  | ddl => "ddl"

end StatementClass

/-
  The two forms that an opening takes: a keyword with a
  blank behind it, or a common table expression.
-/
inductive Opening where
  | keyword (k : Keyword)
  | commonTable
deriving Repr, DecidableEq

/- The characters of a list of names: words and commas. -/
def isNameListChar (c : Char) : Bool :=
  isWordChar c || isBlank c || c == ','

/-
  A list of names, read backwards, closes with the keyword
  AS set off by blanks: before AS stand at least three
  characters, the first and the last of them blank.
-/
def closesWithAs (reversed : List Char) : Bool :=
  match splitWord? Keyword.as.letters.reverse
      (reversed.dropWhile isBlank) with
  | some (_, before) =>
      3 ≤ before.length && startsWith isBlank before &&
        startsWith isBlank before.reverse
  | none => false

/-
  A text begins with WITH, a list of names, AS, and an
  opening parenthesis.
-/
def opensCommonTable (cs : List Char) : Bool :=
  match splitKeyword? .with cs with
  | some (_, rest) =>
      startsWith (· == '(')
          (rest.dropWhile isNameListChar) &&
        closesWithAs
          (rest.takeWhile isNameListChar).reverse
  | none => false

namespace Opening

/- A statement, without leading blanks, opens so. -/
def opens : Opening → List Char → Bool
  | keyword k, cs => startsWithSpaced k cs
  | commonTable, cs => opensCommonTable cs

end Opening

/- The openings that are known, each with its class. -/
def openings : List (Opening × StatementClass) :=
  [(.keyword .select, .read),
   (.commonTable, .read),
   (.keyword .explain, .read),
   (.keyword .show, .read),
   (.keyword .describe, .read),
   (.keyword .desc, .read),
   (.keyword .insert, .write),
   (.keyword .update, .write),
   (.keyword .delete, .write),
   (.keyword .merge, .write),
   (.keyword .create, .ddl),
   (.keyword .alter, .ddl),
   (.keyword .drop, .ddl),
   (.keyword .truncate, .ddl),
   (.keyword .grant, .ddl),
   (.keyword .revoke, .ddl),
   (.keyword .exec, .ddl),
   (.keyword .execute, .ddl)]

/- The class of the first opening of a list that matches. -/
def classifyBy
    (rules : List (Opening × StatementClass))
    (cs : List Char) : Option StatementClass :=
  (rules.find? fun rule =>
    rule.1.opens (trimLeft isBlank cs)).map (·.2)

/- The class of a statement, if its opening is known. -/
def classify (cs : List Char) : Option StatementClass :=
  classifyBy openings cs

end Statement

end SqlGateway
