import SqlGateway.Catalog
import SqlGateway.Json.Writer

/-
  This file defines the result of a statement and the two
  forms of its answer: a JSON document and a markdown table.

  Key definitions include:
    * `QueryResult`
    * `ResponseFormat`
    * `successAnswer`
    * `QueryResult.answer`
-/

namespace SqlGateway

------------------------------------------------------------
-- Results
------------------------------------------------------------

/-
  The result of a statement: named rows, or the number of
  rows that it affected.
-/
structure QueryResult where
  columns : List String := []
  rows : List Fields := []
  rowCount : Int := 0
  affectedRows : Option Int := none

namespace QueryResult

/- The fields of a result in an answer. -/
def toFields (r : QueryResult) : Fields :=
  [("columns", .ofTexts r.columns),
   ("rows", .list (r.rows.map .object)),
   ("rowCount", .int r.rowCount)] ++
    match r.affectedRows with
    | some n => [("affectedRows", .int n)]
    | none => []

end QueryResult

/- The forms of an answer. -/
inductive ResponseFormat where
  | markdown
  | json
deriving Repr, DecidableEq

namespace ResponseFormat

/- The name of a form. -/
def name : ResponseFormat → String
  | markdown => "markdown"
  | json => "json"

/- All forms. -/
def all : List ResponseFormat :=
  [markdown, json]

/- The form of a name, letter for letter. -/
def ofName? (text : String) : Option ResponseFormat :=
  all.find? (·.name == text)

end ResponseFormat

------------------------------------------------------------
-- Answers
------------------------------------------------------------

/-
  The answer to a call that succeeded.  A field of the same
  name takes the place of the mark of success.
-/
def successAnswer (fields : Fields) : String :=
  Json.document
    (.object
      (Fields.putAll [("success", .bool true)] fields))

/- The most rows that a table shows. -/
def shownRows : Nat := 50

/- Cells between bars, as one line. -/
def tableLine (cells : List String) : String :=
  "| " ++ String.intercalate " | " cells ++ " |"

namespace QueryResult

/- The cells of a row, in the order of the columns. -/
def rowCells
    (columns : List String)
    (row : Fields) : List String :=
  columns.map fun name =>
    ((Fields.get? row name).map Value.displayText).getD ""

/- The line that announces the rows left out. -/
def omissionLines (rowCount : Int) : List String :=
  if shownRows < rowCount then
    ["\n_...and " ++ toString (rowCount - shownRows) ++
      " more rows (use limit to control)_"]
  else
    []

/- The lines of the table of a result. -/
def tableLines (r : QueryResult) : List String :=
  ["**" ++ toString r.rowCount ++ " row(s) returned**\n",
   tableLine r.columns,
   tableLine (r.columns.map fun _ => "---")] ++
    (r.rows.take shownRows).map
      (fun row => tableLine (rowCells r.columns row)) ++
    omissionLines r.rowCount

/- The answer without a table. -/
def emptyAnswer (r : QueryResult) : String :=
  match r.columns, r.affectedRows with
  | [], some n =>
      "_Statement executed. " ++ toString n ++
        " row(s) affected._"
  | _, _ => "_No results returned._"

/- The answer in markdown. -/
def markdown (r : QueryResult) : String :=
  if r.columns.isEmpty || r.rows.isEmpty then
    r.emptyAnswer
  else
    String.intercalate "\n" r.tableLines

/- The answer to a statement under a query mode. -/
def answer
    (r : QueryResult)
    (mode : String) : ResponseFormat → String
  | .json =>
      successAnswer
        (Fields.put r.toFields "queryMode" (.text mode))
  | .markdown => r.markdown

end QueryResult

end SqlGateway
