import SqlGateway.Failure.Basic

/-
  This file defines what the catalog of a database tells:
  its tables and the columns of a table.  Names and sizes
  are kept as the driver gives them.

  Key definitions include:
    * `TableKind`
    * `TableInfo`
    * `ColumnInfo`
-/

namespace SqlGateway

------------------------------------------------------------
-- Tables and Columns
------------------------------------------------------------

/- What stands under the name of a table. -/
inductive TableKind where
  | table
  | view
deriving Repr, DecidableEq

namespace TableKind

/- The name of a kind. -/
def name : TableKind → String
  | table => "TABLE"
  | view => "VIEW"

/- The kind of a name, or the failure to know it. -/
def ofValue (v : Value) : Except Failure TableKind :=
  match v with
  | .text "TABLE" => .ok table
  | .text "VIEW" => .ok view
  | _ => .error (.unknownChoice .tableKind v)

end TableKind

/- A table or a view. -/
structure TableInfo where
  schema : Value
  name : Value
  kind : TableKind

namespace TableInfo

/- The fields of a table in an answer. -/
def toFields (t : TableInfo) : Fields :=
  [("schema", t.schema),
   ("name", t.name),
   ("type", .text t.kind.name)]

end TableInfo

/- A column of a table; null stands for what is absent. -/
structure ColumnInfo where
  name : Value
  type : Value
  nullable : Bool
  isPrimaryKey : Bool := false
  maxLength : Value := .null
  precision : Value := .null
  scale : Value := .null
  defaultValue : Value := .null
  comment : Value := .null

/- A field, unless its value is absent. -/
def presentField
    (name : String) : Value → Fields
  | .null => []
  | v => [(name, v)]

namespace ColumnInfo

/- The fields of a column in an answer. -/
def toFields (c : ColumnInfo) : Fields :=
  [("name", c.name),
   ("type", c.type),
   ("nullable", .bool c.nullable),
   ("isPrimaryKey", .bool c.isPrimaryKey)] ++
    presentField "maxLength" c.maxLength ++
    presentField "precision" c.precision ++
    presentField "scale" c.scale ++
    presentField "defaultValue" c.defaultValue ++
    presentField "comment" c.comment

end ColumnInfo

------------------------------------------------------------
-- Reading Rows
------------------------------------------------------------

/- The value in a column of a row. -/
def column
    (row : Fields)
    (name : String) : Except Failure Value :=
  match Fields.get? row name with
  | some v => .ok v
  | none => .error (.missingColumn name)

/- The table that a row of the catalog tells of. -/
def tableOfRow (row : Fields) : Except Failure TableInfo := do
  let schema ← column row "schema"
  let name ← column row "name"
  let kind ← TableKind.ofValue (← column row "type")
  return { schema, name, kind }

/- The column that a row of the catalog tells of. -/
def columnOfRow
    (row : Fields) : Except Failure ColumnInfo := do
  let name ← column row "name"
  let type ← column row "type"
  let nullable ← column row "nullable"
  let isPrimaryKey ← column row "is_primary_key"
  let maxLength ← column row "max_length"
  let precision ← column row "precision"
  let scale ← column row "scale"
  let defaultValue ← column row "default_value"
  let comment ← column row "comment"
  return {
    name, type
    nullable := nullable.isTruthy
    isPrimaryKey := isPrimaryKey.isTruthy
    maxLength, precision, scale, defaultValue, comment
  }

end SqlGateway
