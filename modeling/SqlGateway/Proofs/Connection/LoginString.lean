import SqlGateway.Proofs.Connection.AttributeReading

/-
  This file shows where the credentials stand in an ODBC
  connection string: at its end, each in braces, so that
  whoever reads a value in braces gets back what was
  written, whatever characters it has.

  Key definitions include:
    * `Delimited`
    * `frontAttributes`
    * `loginPart`

  Main declarations:
    * `braced_append_inj` and `braced_injective`
    * `delimited`
    * `sessionString_of_login`
-/

namespace SqlGateway

open Text

namespace AttributeString

------------------------------------------------------------
-- Values in Braces
------------------------------------------------------------

/- A value in braces shows where it ends: what is written
   behind it may be anything but another closing brace. -/
theorem braced_append_inj
    {value value' rest rest' : List Code}
    (hRest : rest.head? ≠ some closingBrace)
    (hRest' : rest'.head? ≠ some closingBrace)
    (hSame : braced value ++ rest = braced value' ++ rest') :
    value = value' ∧ rest = rest' := by
  have hRead := readValue_braced_append value hRest
  have hRead' := readValue_braced_append value' hRest'
  rw [hSame, hRead'] at hRead
  cases hRead
  exact ⟨rfl, rfl⟩

/- Different values are written differently. -/
theorem braced_injective :
    Function.Injective braced := by
  intro value value' hSame
  have hEnd :
      ([] : List Code).head? ≠ some closingBrace := nofun
  have hBoth := congrArg (· ++ []) hSame
  exact (braced_append_inj hEnd hEnd hBoth).1

/-
  A value in braces is delimited: a reader gets it back up to
  its end, whatever follows, if that is no closing brace.  So
  it runs into nothing behind it, and is not mistaken for
  another value.
-/
structure Delimited (value : List Code) : Prop where
  readBack :
    ∀ rest : List Code, rest.head? ≠ some closingBrace →
      readValue (braced value ++ rest) = some (value, rest)
  endsApart :
    ∀ value' rest rest' : List Code,
      rest.head? ≠ some closingBrace →
        rest'.head? ≠ some closingBrace →
          braced value ++ rest = braced value' ++ rest' →
            value = value' ∧ rest = rest'
  injective :
    ∀ value' : List Code,
      braced value = braced value' → value = value'

theorem delimited (value : List Code) : Delimited value where
  readBack _ hRest := readValue_braced_append value hRest
  endsApart _ _ _ hRest hRest' hSame :=
    braced_append_inj hRest hRest' hSame
  injective _ hSame := braced_injective hSame

------------------------------------------------------------
-- The End of a Connection String
------------------------------------------------------------

/- What follows the first attribute, attribute by
   attribute. -/
theorem afterFirst_eq (as : List Attribute) :
    afterFirst as =
      as.flatMap fun a => semicolon :: writeAttribute a := by
  induction as with
  | nil => rfl
  | cons a as ih =>
      rw [afterFirst, write_cons, ih, List.flatMap_cons,
        List.cons_append]

/- Attributes that follow others are written behind them,
   each behind a semicolon. -/
theorem write_append
    {as : List Attribute}
    (hSome : as ≠ [])
    (bs : List Attribute) :
    write (as ++ bs) =
      write as ++
        bs.flatMap fun b => semicolon :: writeAttribute b := by
  cases as with
  | nil => exact absurd rfl hSome
  | cons a as =>
      rw [List.cons_append, write_cons, write_cons,
        afterFirst_eq, afterFirst_eq, List.flatMap_append,
        List.append_assoc]

/- The attributes of a session, but for its login. -/
def frontAttributes
    (odbcDriver : String)
    (config : ConnectionConfig)
    (database : Value) : List Attribute :=
  [free "Driver" (Code.ofText odbcDriver),
   plain "Server" (serverAndPort config),
   free "Database" database.codes,
   plain "Encrypt" (yesNo config.encrypt),
   plain "TrustServerCertificate"
     (yesNo config.trustServerCertificate),
   plain "APP" (Code.ofText "sql_mcp")]

/- A credential behind all else: nothing if it is null, or
   else a semicolon, its name and its value in braces. -/
def loginPart
    (name : String) : Value → List Code
  | .null => []
  | value =>
      semicolon :: (Code.ofText name ++
        equalsSign :: braced value.codes)

theorem flatMap_optional
    (name : String)
    (value : Value) :
    ((optional name value).flatMap fun a =>
        semicolon :: writeAttribute a) =
      loginPart name value := by
  cases value with
  | null => rfl
  | _ =>
      simp [optional, loginPart, writeAttribute, free,
        equalsSign]

/- A connection string with credentials ends with those that
   are given, the user first. -/
theorem sessionString_of_login
    {config : ConnectionConfig}
    (hWindows : config.windowsAuth = false)
    (odbcDriver : String)
    (database : Value) :
    sessionString odbcDriver config database =
      write (frontAttributes odbcDriver config database) ++
        (loginPart "UID" config.user ++
          loginPart "PWD" config.password) := by
  have hSplit :
      sessionAttributes odbcDriver config database =
        frontAttributes odbcDriver config database ++
          (optional "UID" config.user ++
            optional "PWD" config.password) := by
    simp [sessionAttributes, frontAttributes,
      loginAttributes, hWindows]
  have hFront :
      frontAttributes odbcDriver config database ≠ [] :=
    List.cons_ne_nil _ _
  unfold sessionString
  rw [hSplit, write_append hFront, List.flatMap_append,
    flatMap_optional, flatMap_optional]

end AttributeString

end SqlGateway
