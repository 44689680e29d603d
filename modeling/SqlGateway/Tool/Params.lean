import SqlGateway.Connection.Config
import SqlGateway.QueryResult
import SqlGateway.Tool.Model

/-
  This file defines the parameters of the tools that take
  any, with their models.

  Key definitions include:
    * `ConnectParams`
    * `SwitchParams`
    * `DescribeParams`
    * `QueryParams`
-/

namespace SqlGateway

------------------------------------------------------------
-- Common Fields and Transport Security
------------------------------------------------------------

/- No value, as a default. -/
def nullDefault {α : Type} : Option (Default (Option α)) :=
  some ⟨none, .null⟩

/- A switch, as a default. -/
def flagDefault (b : Bool) : Option (Default Bool) :=
  some ⟨b, .bool b⟩

/- A field for a text that may be left out. -/
def optionalText
    (name description : String) : Field (Option String) where
  name
  kind := (Kind.text {}).nullable
  description := some description
  default := nullDefault

/- A field for a text that is taken as it comes, and may be
   left out. -/
def optionalFreeText
    (name description : String) : Field (Option Value) where
  name
  kind := Kind.freeText.nullable
  description := some description
  default := nullDefault

/- A field for a text that must not be empty. -/
def requiredText
    (name description : String) : Field String where
  name
  kind := .text { least := some 1 }
  description := some description

/- A field for a switch. -/
def flagField
    (name description : String)
    (default : Bool) : Field Bool where
  name
  kind := .flag
  description := some description
  default := flagDefault default

namespace TlsOptions

/- Whether the server is verified. -/
def rejectField : Field Bool :=
  flagField "reject_unauthorized"
    "Verify the server certificate and host name" true

/- The certificate of the client. -/
def certField : Field (Option String) :=
  optionalText "cert" "Client certificate file path"

/- The key of the client. -/
def keyField : Field (Option String) :=
  optionalText "key" "Client private key file path"

/- The certificate of the authority. -/
def caField : Field (Option String) :=
  optionalText "ca" "CA certificate file path"

/- The options of a verified connection. -/
def ofTexts
    (rejectUnauthorized : Bool)
    (cert key ca : Option String) : TlsOptions where
  rejectUnauthorized
  cert := .ofText? cert
  key := .ofText? key
  ca := .ofText? ca

/- The model of the options. -/
def model : Model TlsOptions where
  name := "SslOptionsInput"
  fields :=
    [rejectField.describe, certField.describe,
     keyField.describe, caField.describe]
  required := []
  read given :=
    ofTexts <$> rejectField.read given <*>
      certField.read given <*> keyField.read given <*>
      caField.read given

/- The fields of the options in an answer. -/
def toFields (o : TlsOptions) : Fields :=
  [("reject_unauthorized", .bool o.rejectUnauthorized),
   ("cert", o.cert),
   ("key", o.key),
   ("ca", o.ca)]

end TlsOptions

namespace Tls

/-
  The check of transport security: a switch, or else
  options.  If neither fits, the issues of both are told.
-/
def check (v : Value) : Checked Tls :=
  match Kind.flag.check v, TlsOptions.model.check v with
  | .accepted on, _ => .accepted (.switch on)
  | _, .accepted o => .accepted (.options o)
  | .rejected issues, .rejected more =>
      .rejected
        (issues.map (Issue.under "bool") ++
          more.map (Issue.under TlsOptions.model.name))

/- A switch or options. -/
def kind : Kind Tls where
  alternatives :=
    Kind.flag.alternatives ++
      [Kind.reference TlsOptions.model.name]
  check := check

/- The value of transport security in an answer. -/
def toValue : Tls → Value
  | unset => .null
  | switch on => .bool on
  | options o => .object o.toFields

end Tls

------------------------------------------------------------
-- Connecting
------------------------------------------------------------

/- The parameters of connecting. -/
structure ConnectParams where
  engine : Engine
  server : String
  port : Option Int
  database : Option String
  user : Option Value
  password : Option Value
  windowsAuth : Bool
  encrypt : Bool
  trustServerCertificate : Bool
  tls : Option Tls

namespace ConnectParams

/- The names of the engines. -/
def engineNames : List String :=
  Engine.all.map Engine.name

/- The engine. -/
def engineField : Field Engine where
  name := "engine"
  kind :=
    .choice "DatabaseEngine" engineNames Engine.ofName?
  description := some "Database engine: mssql or postgres"

/- The server. -/
def serverField : Field String :=
  requiredText "server" "Server hostname or IP address"

/- The port, above zero. -/
def portField : Field (Option Int) where
  name := "port"
  kind := (Kind.whole [.above 0]).nullable
  description :=
    some ("Port (default: 1433 for MSSQL, " ++
      "5432 for PostgreSQL)")
  default := nullDefault

/- The first database. -/
def databaseField : Field (Option String) :=
  optionalText "database" "Initial database"

/- The name of the user, which is not trimmed. -/
def userField : Field (Option Value) :=
  optionalFreeText "user" "Username for authentication"

/- The password, which is not trimmed. -/
def passwordField : Field (Option Value) :=
  optionalFreeText "password" "Password for authentication"

/- Whether the account of the process logs in. -/
def windowsAuthField : Field Bool :=
  flagField "windows_auth"
    "Use Windows integrated authentication (MSSQL only)"
    false

/- Whether the connection is encrypted. -/
def encryptField : Field Bool :=
  flagField "encrypt"
    "Encrypt the connection (MSSQL only)" true

/- Whether the certificate goes without verification. -/
def trustField : Field Bool :=
  flagField "trust_server_certificate"
    ("Trust the server certificate without validation " ++
      "(MSSQL only)")
    false

/- Transport security. -/
def tlsField : Field (Option Tls) where
  name := "ssl"
  kind := Tls.kind.nullable
  description := some "SSL configuration (PostgreSQL only)"
  default := nullDefault

/- The definitions that the model refers to. -/
def definitions : Fields :=
  [("DatabaseEngine",
    .object
      (("description", .text "Supported database engines.")
        :: describeChoice "DatabaseEngine" engineNames)),
   (TlsOptions.model.name, TlsOptions.model.describe)]

/- The model of the parameters. -/
def model : Model ConnectParams where
  name := "ConnectDatabaseInput"
  fields :=
    [engineField.describe, serverField.describe,
     portField.describe, databaseField.describe,
     userField.describe, passwordField.describe,
     windowsAuthField.describe, encryptField.describe,
     trustField.describe, tlsField.describe]
  required := [engineField.name, serverField.name]
  definitions
  read given :=
    ConnectParams.mk <$> engineField.read given <*>
      serverField.read given <*> portField.read given <*>
      databaseField.read given <*> userField.read given <*>
      passwordField.read given <*>
      windowsAuthField.read given <*>
      encryptField.read given <*> trustField.read given <*>
      tlsField.read given

/- An empty name of a database counts as none. -/
def databaseName (p : ConnectParams) : Option String :=
  p.database.filter (· != "")

/- The configuration that the parameters ask for. -/
def toConfig (p : ConnectParams) : ConnectionConfig where
  engine := p.engine.name
  server := .text p.server
  port := .ofInt? p.port
  database := .ofText? p.databaseName
  user := p.user.getD .null
  password := p.password.getD .null
  windowsAuth := p.windowsAuth
  encrypt := p.encrypt
  trustServerCertificate := p.trustServerCertificate
  tls := p.tls.getD .unset

end ConnectParams

------------------------------------------------------------
-- Other Tools
------------------------------------------------------------

/- The parameters of switching databases. -/
structure SwitchParams where
  database : String
deriving Repr, DecidableEq

namespace SwitchParams

/- The database. -/
def databaseField : Field String :=
  requiredText "database" "Database name to switch to"

/- The model of the parameters. -/
def model : Model SwitchParams where
  name := "SwitchDatabaseInput"
  fields := [databaseField.describe]
  required := [databaseField.name]
  read given := SwitchParams.mk <$> databaseField.read given

end SwitchParams

/- The parameters of describing a table. -/
structure DescribeParams where
  table : String
  schema : Option String
deriving Repr, DecidableEq

namespace DescribeParams

/- The table. -/
def tableField : Field String :=
  requiredText "table_name" "Table name to describe"

/- The schema. -/
def schemaField : Field (Option String) :=
  optionalText "schema_name"
    ("Schema name (default: dbo for MSSQL, " ++
      "public for PostgreSQL)")

/- The model of the parameters. -/
def model : Model DescribeParams where
  name := "DescribeTableInput"
  fields := [tableField.describe, schemaField.describe]
  required := [tableField.name]
  read given :=
    DescribeParams.mk <$> tableField.read given <*>
      schemaField.read given

/- An empty name of a schema counts as none. -/
def schemaName (p : DescribeParams) : Option String :=
  p.schema.filter (· != "")

end DescribeParams

/- The parameters of executing a statement. -/
structure QueryParams where
  query : String
  limit : Int
  format : ResponseFormat
deriving Repr, DecidableEq

namespace QueryParams

/- The statement, which is not trimmed. -/
def queryField : Field String where
  name := "query"
  kind := .text { trimmed := false, most := some 50000 }
  description := some "SQL query to execute"

/- The most rows to return. -/
def limitField : Field Int where
  name := "limit"
  kind := .whole [.atLeast 1, .atMost 1000]
  description :=
    some ("Maximum rows to return for SELECT queries " ++
      "(1-1000)")
  default := some ⟨100, .int 100⟩

/- The names of the forms of an answer. -/
def formatNames : List String :=
  ResponseFormat.all.map ResponseFormat.name

/- The form of the answer. -/
def formatField : Field ResponseFormat where
  name := "response_format"
  kind :=
    .choice "ResponseFormat" formatNames
      ResponseFormat.ofName?
  default := some ⟨.json, .text "json"⟩

/- The model of the parameters. -/
def model : Model QueryParams where
  name := "ExecuteQueryInput"
  fields :=
    [queryField.describe, limitField.describe,
     formatField.describe]
  required := [queryField.name]
  definitions :=
    [("ResponseFormat",
      .object (describeChoice "ResponseFormat" formatNames))]
  read given :=
    QueryParams.mk <$> queryField.read given <*>
      limitField.read given <*> formatField.read given

end QueryParams

end SqlGateway
