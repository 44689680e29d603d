import SqlGateway.Connection.Config

/-
  This file defines the connection strings of ODBC: named
  attributes separated by semicolons, where a value in
  braces may hold any character.

  Key definitions include:
    * `Attribute`
    * `braced`
    * `write`
    * `sessionAttributes`
    * `sessionString`
-/

namespace SqlGateway

open Text

namespace AttributeString

/- A named attribute, its value in braces or not. -/
structure Attribute where
  name : String
  value : List Code
  inBraces : Bool
deriving Repr, DecidableEq

/- An attribute whose value is written as it is. -/
def plain
    (name : String)
    (value : List Code) : Attribute :=
  ⟨name, value, false⟩

/- An attribute whose value may hold any character. -/
def free
    (name : String)
    (value : List Code) : Attribute :=
  ⟨name, value, true⟩

/- A closing brace inside braces is written twice. -/
def bracedCode (code : Code) : List Code :=
  if code = .char '\x7d' then [code, code] else [code]

/- A value in braces. -/
def braced (value : List Code) : List Code :=
  .char '\x7b' ::
    (value.flatMap bracedCode ++ [.char '\x7d'])

/- An attribute: the name, an equals sign, the value. -/
def writeAttribute (a : Attribute) : List Code :=
  Code.ofText a.name ++ .char '=' ::
    (if a.inBraces then braced a.value else a.value)

/- Attributes separated by semicolons. -/
def write (attributes : List Attribute) : List Code :=
  List.intercalate [.char ';']
    (attributes.map writeAttribute)

/- The word for a switch. -/
def yesNo (b : Bool) : List Code :=
  Code.ofText (if b then "yes" else "no")

/- The server and its port, as one value. -/
def serverAndPort (config : ConnectionConfig) : List Code :=
  config.server.codes ++ .char ',' ::
    (config.portFor .sqlServer).codes

/- An attribute, where there is a value for it. -/
def optional
    (name : String) : Value → List Attribute
  | .null => []
  | value => [free name value.codes]

/-
  How the session logs in: by the account of the process, or
  with those credentials that are given.
-/
def loginAttributes
    (config : ConnectionConfig) : List Attribute :=
  if config.windowsAuth then
    [plain "Trusted_Connection" (yesNo true)]
  else
    optional "UID" config.user ++
      optional "PWD" config.password

/- The attributes of a session, in their order. -/
def sessionAttributes
    (odbcDriver : String)
    (config : ConnectionConfig)
    (database : Value) : List Attribute :=
  [free "Driver" (Code.ofText odbcDriver),
   plain "Server" (serverAndPort config),
   free "Database" database.codes,
   plain "Encrypt" (yesNo config.encrypt),
   plain "TrustServerCertificate"
     (yesNo config.trustServerCertificate),
   plain "APP" (Code.ofText "sql_mcp")] ++
    loginAttributes config

/- The connection string of a session. -/
def sessionString
    (odbcDriver : String)
    (config : ConnectionConfig)
    (database : Value) : List Code :=
  write (sessionAttributes odbcDriver config database)

end AttributeString

end SqlGateway
