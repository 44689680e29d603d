import SqlGateway.Proofs.Connection.AttributeReading

/-
  This file shows what a driver reads from the connection
  string of a session.  Every part of the configuration
  comes back under its own name, and no other name appears,
  if and only if the server may stand without braces: it is
  the one free part that is written so.

  Key definitions include:
    * `AttributeString.configured`

  Main declarations:
    * `AttributeString.bare_serverAndPort_iff`
    * `AttributeString.sessionString_reads_back_iff`
    * `AttributeString.server_overrides_encryption`
-/

namespace SqlGateway

open Text

namespace AttributeString

------------------------------------------------------------
-- What a Configuration Says
------------------------------------------------------------

/- A credential under its name, where one is given. -/
def credential
    (name : String) :
    Value → List (List Code × List Code)
  | .null => []
  | value => [(Code.ofText name, value.codes)]

/- How a configuration says to log in. -/
def configuredLogin
    (config : ConnectionConfig) :
    List (List Code × List Code) :=
  if config.windowsAuth then
    [(Code.ofText "Trusted_Connection", Code.ofText "yes")]
  else
    credential "UID" config.user ++
      credential "PWD" config.password

/-
  What a configuration says, by name: the parts of it as
  they are, the server with its port, and the two switches
  as words.
-/
def configured
    (odbcDriver : String)
    (config : ConnectionConfig)
    (database : Value) :
    List (List Code × List Code) :=
  [(Code.ofText "Driver", Code.ofText odbcDriver),
   (Code.ofText "Server",
     config.server.codes ++ .char ',' ::
       (config.portFor .sqlServer).codes),
   (Code.ofText "Database", database.codes),
   (Code.ofText "Encrypt",
     Code.ofText (if config.encrypt then "yes" else "no")),
   (Code.ofText "TrustServerCertificate",
     Code.ofText
       (if config.trustServerCertificate then
         "yes"
       else
         "no")),
   (Code.ofText "APP", Code.ofText "sql_mcp")] ++
    configuredLogin config

------------------------------------------------------------
-- The Attributes of a Session
------------------------------------------------------------

theorem bare_yesNo (b : Bool) :
    Bare (yesNo b) := by
  cases b <;> decide

/- An attribute that is left out or in braces is
   readable. -/
theorem readable_of_mem_optional
    {name : String}
    {value : Value}
    {a : Attribute}
    (hMem : a ∈ optional name value) :
    a.Readable ∧ a.name = name := by
  cases value with
  | null => cases hMem
  | _ =>
      rw [List.mem_singleton.mp hMem]
      exact ⟨.inl rfl, rfl⟩

theorem map_pair_optional
    (name : String)
    (value : Value) :
    (optional name value).map Attribute.pair =
      credential name value := by
  cases value <;> rfl

/- A login is readable, and has one of three names. -/
theorem readable_of_mem_loginAttributes
    {config : ConnectionConfig}
    {a : Attribute}
    (hMem : a ∈ loginAttributes config) :
    a.Readable ∧
      a.name ∈ ["Trusted_Connection", "UID", "PWD"] := by
  unfold loginAttributes at hMem
  split at hMem
  · rw [List.mem_singleton.mp hMem]
    exact ⟨.inr (bare_yesNo true), by simp [plain]⟩
  · rcases List.mem_append.mp hMem with hUser | hPassword
    · rcases readable_of_mem_optional hUser with
        ⟨hReadable, hName⟩
      exact ⟨hReadable, by simp [hName]⟩
    · rcases readable_of_mem_optional hPassword with
        ⟨hReadable, hName⟩
      exact ⟨hReadable, by simp [hName]⟩

/- The names that the attributes of a session have. -/
def sessionNames : List String :=
  ["Driver", "Server", "Database", "Encrypt",
   "TrustServerCertificate", "APP"] ++
    ["Trusted_Connection", "UID", "PWD"]

theorem equalsSign_not_mem_sessionNames :
    ∀ name ∈ sessionNames,
      equalsSign ∉ Code.ofText name := by
  decide

theorem wellNamed_of_mem_sessionAttributes
    {odbcDriver : String}
    {config : ConnectionConfig}
    {database : Value}
    {a : Attribute}
    (hMem :
      a ∈ sessionAttributes odbcDriver config database) :
    a.WellNamed := by
  apply equalsSign_not_mem_sessionNames
  rcases List.mem_append.mp hMem with hFixed | hLogin
  · apply List.mem_append_left
    exact List.mem_map_of_mem hFixed
  · apply List.mem_append_right
    exact (readable_of_mem_loginAttributes hLogin).2

/- The attributes of a session are readable exactly if the
   server is. -/
theorem readable_sessionAttributes_iff
    (odbcDriver : String)
    (config : ConnectionConfig)
    (database : Value) :
    (∀ a ∈ sessionAttributes odbcDriver config database,
        a.Readable) ↔
      Bare (serverAndPort config) := by
  constructor
  · intro hAll
    have hServer :=
      hAll (plain "Server" (serverAndPort config))
        (by simp [sessionAttributes])
    simpa [Attribute.Readable, plain] using hServer
  · intro hBare a hMem
    rcases List.mem_append.mp hMem with hFixed | hLogin
    · simp only [List.mem_cons, List.not_mem_nil, or_false]
        at hFixed
      rcases hFixed with
        rfl | rfl | rfl | rfl | rfl | rfl
      · exact .inl rfl
      · exact .inr hBare
      · exact .inl rfl
      · exact .inr (bare_yesNo _)
      · exact .inr (bare_yesNo _)
      · exact .inr (by decide)
    · exact (readable_of_mem_loginAttributes hLogin).1

/- The attributes say what the configuration says. -/
theorem map_pair_sessionAttributes
    (odbcDriver : String)
    (config : ConnectionConfig)
    (database : Value) :
    (sessionAttributes odbcDriver config database).map
        Attribute.pair =
      configured odbcDriver config database := by
  have hLogin :
      (loginAttributes config).map Attribute.pair =
        configuredLogin config := by
    unfold loginAttributes configuredLogin
    split
    · rfl
    · rw [List.map_append, map_pair_optional,
        map_pair_optional]
  unfold sessionAttributes configured
  rw [List.map_append, hLogin]
  rfl

------------------------------------------------------------
-- Servers and Ports
------------------------------------------------------------

/- A whole number is written with digits and a minus sign
   only. -/
theorem semicolon_not_mem_signed (i : Int) :
    ';' ∉ signed i := by
  have hDigits : ∀ n : Nat, ';' ∉ decimal n := by
    intro n hMem
    have hDigit :=
      Nat.isDigit_of_mem_toDigits (by decide) (by decide) hMem
    cases hDigit
  cases i with
  | ofNat n => exact hDigits n
  | negSucc n =>
      intro hMem
      rcases List.mem_cons.mp hMem with hSign | hDigit
      · cases hSign
      · exact hDigits _ hDigit

/- With a whole number or nothing as the port, the server
   alone decides. -/
theorem bare_serverAndPort_iff
    (config : ConnectionConfig)
    (port : Option Int) :
    Bare (serverAndPort
        { config with port := Value.ofInt? port }) ↔
      Bare config.server.codes := by
  have hPort : ∃ i : Int,
      ({ config with port := Value.ofInt? port } :
          ConnectionConfig).portFor .sqlServer =
        .int i := by
    unfold ConnectionConfig.portFor
    split
    · cases port with
      | none => contradiction
      | some i => exact ⟨i, rfl⟩
    · exact ⟨1433, rfl⟩
  rcases hPort with ⟨i, hPort⟩
  have hDigits :
      semicolon ∉ (Value.int i).codes := by
    intro hMem
    rcases List.mem_map.mp hMem with ⟨c, hDigit, hEq⟩
    cases hEq
    exact semicolon_not_mem_signed i hDigit
  have hComma : semicolon ≠ .char ',' := by decide
  have hBrace : openingBrace ≠ .char ',' := by decide
  unfold Bare serverAndPort
  rw [hPort]
  cases hServer : config.server.codes with
  | nil =>
      simp [hDigits, hComma, hBrace.symm]
  | cons c cs =>
      simp [hDigits, hComma]

------------------------------------------------------------
-- Reading a Session String
------------------------------------------------------------

/-
  A driver reads from the connection string of a session
  what the configuration says, attribute by attribute, if
  and only if the server and port may stand without braces.
  Driver, database, user and password may be any text, and
  so may the port, which decides nothing if it is a number.
-/
theorem sessionString_reads_back_iff
    (odbcDriver : String)
    (config : ConnectionConfig)
    (database : Value) :
    (read (sessionString odbcDriver config database) =
        some (configured odbcDriver config database) ↔
      Bare (serverAndPort config)) ∧
    ∀ port : Option Int,
      Bare (serverAndPort
          { config with port := Value.ofInt? port }) ↔
        Bare config.server.codes := by
  constructor
  · rw [← map_pair_sessionAttributes,
      ← readable_sessionAttributes_iff odbcDriver config
        database]
    apply read_write_iff
    intro a hMem
    exact wellNamed_of_mem_sessionAttributes hMem
  · exact bare_serverAndPort_iff config

/- A configuration that names encryption in its server. -/
def overridingConfig : ConnectionConfig where
  engine := "mssql"
  server := .text "db;Encrypt=no;X=y"

/- The attributes that its connection string is written
   from just as well. -/
def overridingAttributes : List Attribute :=
  [free "Driver"
     (Code.ofText "ODBC Driver 18 for SQL Server"),
   plain "Server" (Code.ofText "db"),
   plain "Encrypt" (Code.ofText "no"),
   plain "X" (Code.ofText "y,1433"),
   free "Database" (Code.ofText "master"),
   plain "Encrypt" (Code.ofText "yes"),
   plain "TrustServerCertificate" (Code.ofText "no"),
   plain "APP" (Code.ofText "sql_mcp")]

theorem read_overridingConfig :
    read
        (sessionString "ODBC Driver 18 for SQL Server"
          overridingConfig (.text "master")) =
      some (overridingAttributes.map Attribute.pair) := by
  have hString :
      sessionString "ODBC Driver 18 for SQL Server"
          overridingConfig (.text "master") =
        write overridingAttributes :=
    rfl
  have hNames : ∀ a ∈ overridingAttributes,
      a.WellNamed := by
    unfold Attribute.WellNamed
    decide
  rw [hString]
  apply (read_write_iff hNames).mpr
  unfold Attribute.Readable Bare
  decide

/-
  A server with semicolons in it puts attributes of its own
  in front of others: here encryption is turned off before
  the switch of the configuration turns it on.
-/
theorem server_overrides_encryption :
    ∃ others : List (List Code × List Code),
      read
          (sessionString "ODBC Driver 18 for SQL Server"
            overridingConfig (.text "master")) =
        some
          ((Code.ofText "Driver",
              Code.ofText "ODBC Driver 18 for SQL Server") ::
            (Code.ofText "Server", Code.ofText "db") ::
            (Code.ofText "Encrypt", Code.ofText "no") ::
            others) ∧
      read
          (sessionString "ODBC Driver 18 for SQL Server"
            overridingConfig (.text "master")) ≠
        some
          (configured "ODBC Driver 18 for SQL Server"
            overridingConfig (.text "master")) := by
  rw [read_overridingConfig]
  refine ⟨_, rfl, ?_⟩
  -- Two attributes more come back than were configured.
  intro hEq
  have hLength := congrArg List.length (Option.some.inj hEq)
  exact absurd hLength (by decide)

end AttributeString

end SqlGateway
