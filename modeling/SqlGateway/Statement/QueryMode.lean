import SqlGateway.Text.Blank
import SqlGateway.Text.LowerCase

/-
  This file defines the query modes, the permission tiers
  that a server runs under.  Each mode permits what the
  modes before it permit.

  Key definitions include:
    * `QueryMode`
    * `QueryMode.ofSetting`
-/

namespace SqlGateway

namespace Statement

open Text

/- The permission tiers, the narrowest first. -/
inductive QueryMode where
  | safe
  | write
  | full
deriving Repr, DecidableEq

namespace QueryMode

/- The name of a mode. -/
def name : QueryMode → String
  | safe => "safe"
  | write => "write"
  | full => "full"

/- What a mode permits, for people. -/
def description : QueryMode → String
  | safe => "Read-only (SELECT, WITH, EXPLAIN)"
  | write => "Read/Write (SELECT, INSERT, UPDATE, DELETE)"
  | full => "Full access (all SQL operations including DDL)"

/- All modes. -/
def all : List QueryMode :=
  [safe, write, full]

/- The mode of a name, letter for letter. -/
def ofName? (text : String) : Option QueryMode :=
  all.find? (·.name == text)

/-
  The mode that a setting asks for.  Blanks around the name
  and the case of its letters do not matter; a setting that
  is absent or names no mode gives the narrowest mode.
-/
def ofSetting : Option String → QueryMode
  | some text =>
      let word := String.ofList (trim isBlank text.toList)
      (ofName? (lowerCase word)).getD safe
  | none => safe

end QueryMode

end Statement

end SqlGateway
