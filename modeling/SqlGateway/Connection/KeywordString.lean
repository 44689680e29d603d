import SqlGateway.Connection.Config
import SqlGateway.Failure.Basic

/-
  This file defines the connection strings of PostgreSQL:
  keywords with values, separated by spaces, where a value
  with blanks stands in single quotes.

  Key definitions include:
    * `writeValue`
    * `write`
    * `accept`
    * `tlsParameters`
    * `sessionParameters`
    * `sessionString`
-/

namespace SqlGateway

open Text

namespace KeywordString

------------------------------------------------------------
-- Written Form
------------------------------------------------------------

/- A keyword with its value, or with null. -/
abbrev Parameter := String × Value

/- The codes of the value of a parameter that has one. -/
def valueCodes? : Parameter → Option (List Code)
  | (_, .null) => none
  | (_, value) => some value.codes

/- A code is a blank. -/
def isBlankCode : Code → Bool
  | .char c => isBlank c
  | .half _ => false

/- A backslash and a quote are marked with a backslash. -/
def escapeCode (code : Code) : List Code :=
  if code = .char '\\' ∨ code = .char '\x27' then
    [.char '\\', code]
  else
    [code]

/- A value in single quotes. -/
def inQuotes (value : List Code) : List Code :=
  .char '\x27' ::
    (value.flatMap escapeCode ++ [.char '\x27'])

/- A value, in quotes where it has blanks or is empty. -/
def writeValue (value : List Code) : List Code :=
  if value.isEmpty || value.any isBlankCode then
    inQuotes value
  else
    value.flatMap escapeCode

/- A keyword, an equals sign, and the value, if any. -/
def writeParameter?
    (parameter : Parameter) : Option (List Code) :=
  (valueCodes? parameter).map fun value =>
    Code.ofText parameter.1 ++ .char '=' :: writeValue value

/- The parameters that have a value. -/
def write (parameters : List Parameter) : List Code :=
  List.intercalate [.char ' ']
    (parameters.filterMap writeParameter?)

/-
  The failure on a string with halves of pairs, which tells
  of the first of them and those at its side.
-/
def notEncodable (codes : List Code) : Failure :=
  let before := codes.takeWhile fun c => !c.isHalf
  let behind := codes.drop before.length
  let halves := behind.takeWhile Code.isHalf
  .foreign .system "UnicodeEncodeError"
    [.text "utf-8", .ofCodes codes, .int before.length,
     .int (before.length + halves.length),
     .text "surrogates not allowed"]

/- A value ends early, at a zero character. -/
def isCut (value : List Code) : Bool :=
  value.contains (.char '\x00')

/-
  The string is cut at the first zero character.  Inside a
  quoted value that leaves the quote open.
-/
def leavesQuoteOpen
    (parameters : List Parameter) : Bool :=
  match (parameters.filterMap valueCodes?).find? isCut with
  | some value => value.any isBlankCode
  | none => false

/- The driver's failure on a quote that is left open. -/
def openQuote : Failure :=
  .foreign .postgresDriver "ProgrammingError"
    [.text ("unterminated quoted string in " ++
      "connection info string\n")]

/- The written form of parameters, if it is accepted. -/
def accept
    (parameters : List Parameter) : Except Failure String :=
  let codes := write parameters
  match Code.chars? codes with
  | none => .error (notEncodable codes)
  | some cs =>
      if leavesQuoteOpen parameters then
        .error openQuote
      else
        .ok (String.ofList cs)

------------------------------------------------------------
-- Sessions
------------------------------------------------------------

/- The certificates to verify a server against. -/
def rootCertificate (options : TlsOptions) : List Parameter :=
  if options.ca.isTruthy then
    [("sslrootcert", options.ca)]
  else if options.rejectUnauthorized then
    [("sslrootcert", .text "system")]
  else
    []

/-
  The parameters of transport security: none asked for turns
  it off, a switch turns it on without verification, and
  options verify the server unless they say otherwise.
-/
def tlsParameters : Tls → List Parameter
  | .unset => [("sslmode", .text "disable")]
  | .switch false => [("sslmode", .text "disable")]
  | .switch true => [("sslmode", .text "require")]
  | .options options =>
      let mode :=
        if options.rejectUnauthorized then
          "verify-full"
        else
          "require"
      [("sslmode", .text mode),
       ("sslcert", options.cert),
       ("sslkey", options.key)] ++
        rootCertificate options

/- The parameters of a session, in their order. -/
def sessionParameters
    (config : ConnectionConfig)
    (database : Value) : List Parameter :=
  [("host", config.server),
   ("port", config.portFor .postgres),
   ("dbname", database),
   ("user", config.user),
   ("password", config.password),
   ("connect_timeout", .int 30),
   ("options", .text "-c statement_timeout=30000"),
   ("application_name", .text "sql_mcp")] ++
    tlsParameters config.tls

/- The connection string of a session, if it is accepted. -/
def sessionString
    (config : ConnectionConfig)
    (database : Value) : Except Failure String :=
  accept (sessionParameters config database)

end KeywordString

end SqlGateway
