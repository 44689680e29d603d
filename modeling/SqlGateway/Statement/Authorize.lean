import SqlGateway.Statement.Classify
import SqlGateway.Statement.Indicator
import SqlGateway.Statement.QueryMode

/-
  This file defines which statements a query mode permits.

  The gate is lexical: it looks at the opening of the
  statement and at the indicators of a second one.  It does
  not read inside quotes or comments, so it stands beside
  the grants of the database and does not replace them.

  Key definitions include:
    * `Refusal`
    * `authorize`
-/

namespace SqlGateway

namespace Statement

open Text

/- The reasons for which a statement is refused. -/
inductive Refusal where
  | emptyQuery
  | dangerousPattern
  | readOnly
  | schemaChange
  | unrecognised
deriving Repr, DecidableEq

namespace Refusal

/- The query itself is at fault, whatever the permissions. -/
def isMalformed : Refusal → Bool
  | emptyQuery => true
  | dangerousPattern => true
  | _ => false

/- The wording of a refusal. -/
def message : Refusal → String
  | emptyQuery => "Query cannot be empty"
  | dangerousPattern =>
      "Query contains potentially dangerous patterns. " ++
        "Multi-statement queries are not allowed in this " ++
        "mode."
  | readOnly =>
      "Only SELECT queries are allowed in safe mode. " ++
        "Set SQL_MCP_MODE=write or SQL_MCP_MODE=full to " ++
        "allow data modifications."
  | schemaChange =>
      "DDL operations (CREATE, ALTER, DROP) are not " ++
        "allowed in write mode. Set SQL_MCP_MODE=full to " ++
        "allow schema modifications."
  | unrecognised =>
      "This operation is not allowed in write mode. " ++
        "Only SELECT, INSERT, UPDATE, DELETE are permitted."

end Refusal

namespace QueryMode

/- What a mode says of a statement of a known class. -/
def judge : QueryMode → Option StatementClass →
    Except Refusal Unit
  | full, _ => .ok ()
  | safe, some .read => .ok ()
  | safe, _ => .error .readOnly
  | write, some .read => .ok ()
  | write, some .write => .ok ()
  | write, some .ddl => .error .schemaChange
  | write, none => .error .unrecognised

end QueryMode

/-
  Permit a statement under a mode, or refuse it.  Emptiness
  is refused in every mode; an indicator in every mode but
  the widest, before the class is looked at.
-/
def authorize
    (mode : QueryMode)
    (cs : List Char) : Except Refusal Unit :=
  if (trim isBlank cs).isEmpty then
    .error .emptyQuery
  else if mode ≠ .full && hasIndicator cs then
    .error .dangerousPattern
  else
    mode.judge (classify (trim isBlank cs))

end Statement

end SqlGateway
