import SqlGateway.Engine
import SqlGateway.Value.Literal

/-
  This file defines what is needed to open a session.  It is
  taken as it comes: a part may be any value, and shows in
  its display form wherever a text is wanted.

  Key definitions include:
    * `TlsOptions`
    * `Tls`
    * `ConnectionConfig`
-/

namespace SqlGateway

/-
  Options of a verified connection; the certificates are
  paths of files, or null.
-/
structure TlsOptions where
  rejectUnauthorized : Bool := true
  cert : Value := .null
  key : Value := .null
  ca : Value := .null

/- The transport security asked for: nothing, a switch, or
   options. -/
inductive Tls where
  | unset
  | switch (on : Bool)
  | options (options : TlsOptions)

/-
  Everything needed to open a session.  The engine stays a
  name until a session is made for it, and null stands for
  what is not given.
-/
structure ConnectionConfig where
  engine : String
  server : Value
  port : Value := .null
  database : Value := .null
  user : Value := .null
  password : Value := .null
  windowsAuth : Bool := false
  encrypt : Bool := true
  trustServerCertificate : Bool := false
  tls : Tls := .unset

namespace ConnectionConfig

/- The port, where a port of zero counts as none. -/
def portFor
    (config : ConnectionConfig)
    (engine : Engine) : Value :=
  if config.port.isTruthy then
    config.port
  else
    .int engine.defaultPort

/- The database, where an empty name counts as none. -/
def databaseFor
    (config : ConnectionConfig)
    (engine : Engine) : Value :=
  if config.database.isTruthy then
    config.database
  else
    .text engine.defaultDatabase

end ConnectionConfig

end SqlGateway
