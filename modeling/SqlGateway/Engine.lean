/-
  This file defines the database engines that the gateway
  speaks to, and what each takes when nothing is said.

  Key definitions include:
    * `Engine`
    * `Engine.ofName?`
-/

namespace SqlGateway

/- The engines: SQL Server over ODBC, and PostgreSQL. -/
inductive Engine where
  | sqlServer
  | postgres
deriving Repr, DecidableEq

namespace Engine

/- The name of an engine in requests and answers. -/
def name : Engine → String
  | sqlServer => "mssql"
  | postgres => "postgres"

/- The name of an engine in messages for people. -/
def title : Engine → String
  | sqlServer => "MSSQL"
  | postgres => "PostgreSQL"

/- All engines. -/
def all : List Engine :=
  [sqlServer, postgres]

/- The engine of a name, letter for letter. -/
def ofName? (text : String) : Option Engine :=
  all.find? (·.name == text)

/- The port that an engine listens on. -/
def defaultPort : Engine → Nat
  | sqlServer => 1433
  | postgres => 5432

/- The schema that unqualified names belong to. -/
def defaultSchema : Engine → String
  | sqlServer => "dbo"
  | postgres => "public"

/- The database that a session opens when none is named. -/
def defaultDatabase : Engine → String
  | sqlServer => "master"
  | postgres => "postgres"

end Engine

end SqlGateway
