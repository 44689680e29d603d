import SqlGateway.Proofs.Connection.LoginString
import SqlGateway.Proofs.Connections.Asking
import SqlGateway.Proofs.Tool.Checked
import SqlGateway.Proofs.Tool.Credentials
import SqlGateway.Proofs.Tool.Mediation

/-
  This file follows the parameters of a call that connects
  to SQL Server, down to the connection string that the
  driver is given: the credentials come through as they are,
  while the server and the database are trimmed.

  Key definitions include:
    * `stripped`
    * `Fields.orNull`
    * `ConnectParams.namedDatabase`
    * `ConnectParams.TakesCredentials`

  Main declarations:
    * `ConnectParams.check_eq_accepted`
    * `ConnectParams.check_put_credentials`
    * `ConnectParams.sessionString_toConfig`
    * `callTool_connect_events`
    * `credentials_reach_driver`
-/

namespace SqlGateway

open Text

------------------------------------------------------------
-- Fields of Texts
------------------------------------------------------------

/- A text without the white space around it. -/
def stripped (s : String) : String :=
  String.ofList (trim isWhite s.toList)

/- A length that passes the check leaves the text alone. -/
theorem checkLength_eq_ok
    {rule : TextRule}
    {text other : String}
    (hChecked : checkLength rule text = .ok other) :
    other = text := by
  unfold checkLength at hChecked
  split at hChecked
  · cases hChecked
  · split at hChecked
    · split at hChecked
      · cases hChecked
      · exact (Except.ok.inj hChecked).symm
    · exact (Except.ok.inj hChecked).symm

/- A text that was read under the common rule is a text that
   was stripped. -/
theorem readText_eq_ok
    {rule : TextRule}
    (hTrimmed : rule.trimmed = true)
    {v : Value}
    {text : String}
    (hRead : readText rule v = .ok text) :
    ∃ s, v = .text s ∧ text = stripped s := by
  cases v with
  | text s =>
      simp only [readText, hTrimmed, if_true] at hRead
      exact ⟨s, rfl, checkLength_eq_ok hRead⟩
  | _ => cases hRead

/- A required text is given, and stripped. -/
theorem requiredText_read
    {name description text : String}
    {given : Fields}
    (hRead :
      (requiredText name description).read given =
        .accepted text) :
    ∃ s, Fields.get? given name = some (.text s) ∧
      text = stripped s := by
  have hInner := Checked.under_eq_accepted.mp hRead
  cases hGiven : Fields.get? given name with
  | none =>
      simp only [requiredText, hGiven] at hInner
      cases hInner
  | some v =>
      simp only [requiredText, hGiven] at hInner
      have hText := Checked.ofExcept_eq_accepted.mp hInner
      rcases readText_eq_ok rfl hText with ⟨s, rfl, hStripped⟩
      exact ⟨s, rfl, hStripped⟩

/- An optional text is stripped where it is given. -/
theorem optionalText_read
    {name description : String}
    {given : Fields}
    {text? : Option String}
    (hRead :
      (optionalText name description).read given =
        .accepted text?) :
    text? =
      match Fields.get? given name with
      | some (.text s) => some (stripped s)
      | _ => none := by
  have hInner := Checked.under_eq_accepted.mp hRead
  cases hGiven : Fields.get? given name with
  | none =>
      simp only [optionalText, nullDefault, hGiven] at hInner
      exact (Checked.accepted.inj hInner).symm
  | some v =>
      simp only [optionalText, hGiven, Kind.nullable] at hInner
      cases v with
      | null => exact (Checked.accepted.inj hInner).symm
      | text s =>
          rcases Checked.map_eq_accepted.mp hInner with
            ⟨text, hText, rfl⟩
          have hResult :
              Checked.ofExcept (.text s)
                (readText {} (.text s)) = .accepted text :=
            hText
          have hRead := Checked.ofExcept_eq_accepted.mp hResult
          rcases readText_eq_ok rfl hRead with
            ⟨_, hSame, hStripped⟩
          cases hSame
          rw [hStripped]
      | _ => cases hInner

/- What is given under a name, or null. -/
def Fields.orNull
    (fields : Fields)
    (name : String) : Value :=
  (get? fields name).getD .null

/- A text that is taken as it comes is left as it is; it is
   null where it is not given. -/
theorem optionalFreeText_read
    {name description : String}
    {given : Fields}
    {v? : Option Value}
    (hRead :
      (optionalFreeText name description).read given =
        .accepted v?) :
    let v := given.orNull name
    v?.getD .null = v ∧ (v = .null ∨ v.isString = true) := by
  intro v
  have hInner := Checked.under_eq_accepted.mp hRead
  cases hGiven : Fields.get? given name with
  | none =>
      simp only [optionalFreeText, nullDefault, hGiven]
        at hInner
      rw [← Checked.accepted.inj hInner]
      simp [v, Fields.orNull, hGiven]
  | some given =>
      simp only [optionalFreeText, hGiven] at hInner
      cases given with
      | null =>
          rw [← Checked.accepted.inj hInner]
          simp [v, Fields.orNull, hGiven]
      | text s =>
          rw [← Checked.accepted.inj hInner]
          simp [v, Fields.orNull, hGiven, Value.isString]
      | raw codes =>
          rw [← Checked.accepted.inj hInner]
          simp [v, Fields.orNull, hGiven, Value.isString]
      | _ => cases hInner

namespace ConnectParams

------------------------------------------------------------
-- Parameters
------------------------------------------------------------

variable {fields : Fields}
variable {params : ConnectParams}

/- Parameters are accepted if each of their fields is. -/
theorem check_eq_accepted :
    model.check (.object fields) = .accepted params ↔
      engineField.read fields = .accepted params.engine ∧
      serverField.read fields = .accepted params.server ∧
      portField.read fields = .accepted params.port ∧
      databaseField.read fields =
        .accepted params.database ∧
      userField.read fields = .accepted params.user ∧
      passwordField.read fields =
        .accepted params.password ∧
      windowsAuthField.read fields =
        .accepted params.windowsAuth ∧
      encryptField.read fields = .accepted params.encrypt ∧
      trustField.read fields =
        .accepted params.trustServerCertificate ∧
      tlsField.read fields = .accepted params.tls := by
  have hRead :
      model.check (.object fields) =
        (ConnectParams.mk <$> engineField.read fields <*>
          serverField.read fields <*> portField.read fields <*>
          databaseField.read fields <*>
          userField.read fields <*>
          passwordField.read fields <*>
          windowsAuthField.read fields <*>
          encryptField.read fields <*>
          trustField.read fields <*> tlsField.read fields) :=
    rfl
  rw [hRead]
  constructor
  · intro hChecked
    -- The fields come off one by one, the last first.
    rcases Checked.seq_eq_accepted.mp hChecked with
      ⟨_, tls, hNine, hTls, rfl⟩
    rcases Checked.seq_eq_accepted.mp hNine with
      ⟨_, trust, hEight, hTrust, rfl⟩
    rcases Checked.seq_eq_accepted.mp hEight with
      ⟨_, encrypt, hSeven, hEncrypt, rfl⟩
    rcases Checked.seq_eq_accepted.mp hSeven with
      ⟨_, windowsAuth, hSix, hWindowsAuth, rfl⟩
    rcases Checked.seq_eq_accepted.mp hSix with
      ⟨_, password, hFive, hPassword, rfl⟩
    rcases Checked.seq_eq_accepted.mp hFive with
      ⟨_, user, hFour, hUser, rfl⟩
    rcases Checked.seq_eq_accepted.mp hFour with
      ⟨_, database, hThree, hDatabase, rfl⟩
    rcases Checked.seq_eq_accepted.mp hThree with
      ⟨_, port, hTwo, hPort, rfl⟩
    rcases Checked.seq_eq_accepted.mp hTwo with
      ⟨_, server, hOne, hServer, rfl⟩
    rcases Checked.map_eq_accepted.mp hOne with
      ⟨engine, hEngine, rfl⟩
    exact
      ⟨hEngine, hServer, hPort, hDatabase, hUser, hPassword,
        hWindowsAuth, hEncrypt, hTrust, hTls⟩
  · rintro ⟨hEngine, hServer, hPort, hDatabase, hUser,
      hPassword, hWindowsAuth, hEncrypt, hTrust, hTls⟩
    rw [hEngine, hServer, hPort, hDatabase, hUser, hPassword,
      hWindowsAuth, hEncrypt, hTrust, hTls]
    rfl

/- Whatever texts are put in for the credentials, the
   parameters are accepted, and the texts are taken as they
   are. -/
theorem check_put_credentials
    (hChecked :
      model.check (.object fields) = .accepted params)
    {user password : Value}
    (hUser : user.isString = true)
    (hPassword : password.isString = true) :
    model.check
        (.object (Fields.put (Fields.put fields "user" user)
          "password" password)) =
      .accepted { params with
        user := some user
        password := some password } := by
  have hOther :
      ∀ {α : Type} {a : α} (field : Field α),
        field.name ≠ "user" → field.name ≠ "password" →
          field.read fields = .accepted a →
            field.read
                (Fields.put (Fields.put fields "user" user)
                  "password" password) =
              .accepted a := by
    intro α a field hNotUser hNotPassword hRead
    refine Field.read_of_get?_eq ?_ hRead
    rw [Fields.get?_put, if_neg hNotPassword.symm,
      Fields.get?_put, if_neg hNotUser.symm]
  have hRaw :
      ∀ {name description : String} {v : Value}
        {given : Fields},
        Fields.get? given name = some v →
          v.isString = true →
            (optionalFreeText name description).read given =
              .accepted (some v) := by
    intro name description v given hGiven hString
    apply Checked.under_eq_accepted.mpr
    simp only [optionalFreeText, hGiven]
    exact readFreeText_of_isString hString
  rcases check_eq_accepted.mp hChecked with
    ⟨hEngine, hServer, hPort, hDatabase, -, -, hWindowsAuth,
      hEncrypt, hTrust, hTls⟩
  refine check_eq_accepted.mpr
    ⟨hOther engineField (by decide) (by decide) hEngine,
      hOther serverField (by decide) (by decide) hServer,
      hOther portField (by decide) (by decide) hPort,
      hOther databaseField (by decide) (by decide) hDatabase,
      hRaw ?_ hUser, hRaw ?_ hPassword,
      hOther windowsAuthField (by decide) (by decide)
        hWindowsAuth,
      hOther encryptField (by decide) (by decide) hEncrypt,
      hOther trustField (by decide) (by decide) hTrust,
      hOther tlsField (by decide) (by decide) hTls⟩
  · simp [Fields.get?_put]
  · simp [Fields.get?_put]

/- The database that parameters name, without the white space
   around it; one that is empty or not given is the default
   of SQL Server. -/
def namedDatabase (fields : Fields) : String :=
  match Fields.get? fields "database" with
  | some (.text s) =>
      if stripped s = "" then "master" else stripped s
  | _ => "master"

theorem databaseFor_toConfig
    (hRead :
      databaseField.read fields = .accepted params.database) :
    params.toConfig.databaseFor .sqlServer =
      .text (namedDatabase fields) := by
  have hDatabase := optionalText_read hRead
  have hDefault : Engine.sqlServer.defaultDatabase = "master" :=
    rfl
  unfold ConnectionConfig.databaseFor toConfig databaseName
    namedDatabase
  rw [hDatabase, hDefault]
  cases Fields.get? fields "database" with
  | none => rfl
  | some v =>
      cases v with
      | text s =>
          by_cases hEmpty : stripped s = ""
          · simp [hEmpty, Option.filter, Value.ofText?,
              Value.isTruthy]
          · simp [hEmpty, Option.filter, Value.ofText?,
              Value.isTruthy]
      | _ => rfl

/-
  Parameters take the credentials that are given: each is
  null or a text, and any two texts in their place would
  have been taken as they are.  The server is stripped.
-/
structure TakesCredentials
    (params : ConnectParams)
    (fields : Fields) : Prop where
  user :
    fields.orNull "user" = .null ∨
      (fields.orNull "user").isString = true
  password :
    fields.orNull "password" = .null ∨
      (fields.orNull "password").isString = true
  verbatim :
    ∀ user password : Value,
      user.isString = true → password.isString = true →
        model.check
            (.object (Fields.put
              (Fields.put fields "user" user)
                "password" password)) =
          .accepted { params with
            user := some user
            password := some password }
  server :
    ∃ server : String,
      Fields.get? fields "server" = some (.text server) ∧
        params.toConfig.server = .text (stripped server)

theorem takesCredentials_of_check
    (hChecked :
      model.check (.object fields) = .accepted params) :
    params.TakesCredentials fields := by
  rcases check_eq_accepted.mp hChecked with
    ⟨-, hServer, -, -, hUser, hPassword, -⟩
  rcases requiredText_read hServer with
    ⟨server, hGiven, hStripped⟩
  exact
    { user := (optionalFreeText_read hUser).2
      password := (optionalFreeText_read hPassword).2
      verbatim := fun _ _ hUser' hPassword' =>
        check_put_credentials hChecked hUser' hPassword'
      server :=
        ⟨server, hGiven, congrArg Value.text hStripped⟩ }

open AttributeString in
/- The connection string of the configuration ends with the
   credentials that were given. -/
theorem sessionString_toConfig
    (hChecked :
      model.check (.object fields) = .accepted params)
    (hWindows : params.windowsAuth = false)
    (odbcDriver : String) :
    let user := fields.orNull "user"
    let password := fields.orNull "password"
    let config := params.toConfig
    sessionString odbcDriver config
        (config.databaseFor .sqlServer) =
      write (frontAttributes odbcDriver config
          (.text (namedDatabase fields))) ++
        (loginPart "UID" user ++
          loginPart "PWD" password) := by
  intro user password config
  rcases check_eq_accepted.mp hChecked with
    ⟨-, -, -, hDatabase, hUser, hPassword, -⟩
  have hConfigUser : config.user = user :=
    (optionalFreeText_read hUser).1
  have hConfigPassword : config.password = password :=
    (optionalFreeText_read hPassword).1
  rw [databaseFor_toConfig hDatabase,
    sessionString_of_login hWindows, hConfigUser,
    hConfigPassword]

end ConnectParams

------------------------------------------------------------
-- Calls
------------------------------------------------------------

/- The call that connects is taken with its parameters, once
   they are checked. -/
theorem Request.ofCall_connect
    {given fields : Fields}
    {params : ConnectParams}
    (hObject : paramsObject? given = some fields)
    (hChecked :
      ConnectParams.model.check (.object fields) =
        .accepted params) :
    Request.ofCall "connect-database" given =
      .ok (.connect params) := by
  have hParams :
      checkParams .connect ConnectParams.model given =
        .ok params := by
    rw [checkParams_of_object hObject, hChecked]
    rfl
  change Request.connect <$>
    checkParams .connect ConnectParams.model given = _
  rw [hParams]
  rfl

theorem answering_events
    (call : Act Connections String)
    (c : Connections)
    (w : World) :
    ((answering call).run c w).world.events =
      (call.run c w).world.events := by
  unfold answering
  cases hResult : (call.run c w).result with
  | ok text => rw [Act.run_rescue_of_ok hResult]
  | error e =>
      rw [Act.run_rescue_of_error hResult]
      unfold reportFailure
      split
      · rfl
      · split
        · rfl
        · rfl

/- The call that connects does no more with drivers than the
   holder does. -/
theorem callTool_connect_events
    {given : Fields}
    {params : ConnectParams}
    (hCall :
      Request.ofCall "connect-database" given =
        .ok (.connect params))
    (c : Connections)
    (w : World) :
    ((callTool "connect-database" given).run c
        w).world.events =
      ((Connections.connect params.toConfig).run c
        w).world.events := by
  have hWorld := (run_callTool_of_ok hCall c w).2
  have hRun :
      ((Request.connect params).run
          c.settings.queryMode).run c w =
        (Connections.connect params.toConfig >>= fun _ => do
          let shown ← shownState
          return successAnswer
            [("message",
              .text ("Connected to " ++ params.engine.name ++
                " server at " ++ params.server)),
             ("database", shown.database)]).run c w :=
    rfl
  rw [hWorld]
  unfold Request.answer
  rw [answering_events, hRun]
  cases hResult :
      ((Connections.connect params.toConfig).run c
        w).result with
  | ok a =>
      rw [Act.run_bind_of_ok hResult]
      rfl
  | error e => rw [Act.run_bind_of_error hResult]

open AttributeString in
/-
  Whatever texts are given for the user and the password of
  SQL Server: the one connection string that the driver is
  asked to open a pool with ends with them, as they were
  given, each in braces; one that is null is left out.  The
  braces delimit them, and none but the server and the
  database is stripped on the way.
-/
theorem credentials_reach_driver
    {given fields : Fields}
    {params : ConnectParams}
    (hObject : paramsObject? given = some fields)
    (hChecked :
      ConnectParams.model.check (.object fields) =
        .accepted params)
    (hEngine : params.engine = .sqlServer)
    (hWindows : params.windowsAuth = false)
    (c : Connections)
    (w : World) :
    let front :=
      frontAttributes c.settings.odbcDriver params.toConfig
        (.text (ConnectParams.namedDatabase fields))
    let string :=
      write front ++
        (loginPart "UID" (fields.orNull "user") ++
          loginPart "PWD" (fields.orNull "password"))
    let asked : Event :=
      .createOdbcPool string
        (Session.odbcPoolOptions c.settings.poolMaxSize)
    let idle := (Connections.disconnect.run c w).result = .ok ()
    let out := (callTool "connect-database" given).run c w
    (∃ events : List Event,
      out.world.events = w.events ++ events ∧
        asked.OnlyPool idle events) ∧
      params.TakesCredentials fields ∧
      ∀ value : List Code, Delimited value := by
  intro front string asked idle out
  have hCall := Request.ofCall_connect hObject hChecked
  have hString :
      sessionString c.settings.odbcDriver params.toConfig
          (params.toConfig.databaseFor .sqlServer) = string :=
    ConnectParams.sessionString_toConfig hChecked hWindows
      c.settings.odbcDriver
  have hName :
      params.toConfig.engine = Engine.sqlServer.name :=
    congrArg Engine.name hEngine
  have hAsks := Connections.connect_asks hName c w
  rw [hString, ← callTool_connect_events hCall c w] at hAsks
  exact
    ⟨hAsks, ConnectParams.takesCredentials_of_check hChecked,
      delimited⟩

/- Parameters with white space, semicolons and braces. -/
def bracedFields : Fields :=
  [("engine", .text "mssql"),
   ("server", .text " db "),
   ("user", .text " sa;PWD=\x7b\x7d\x7d "),
   ("password", .text "\x7d\x7d\x7d; \t")]

/- What these parameters are read as. -/
def bracedParams : ConnectParams where
  engine := .sqlServer
  server := "db"
  port := none
  database := none
  user := some (.text " sa;PWD=\x7b\x7d\x7d ")
  password := some (.text "\x7d\x7d\x7d; \t")
  windowsAuth := false
  encrypt := true
  trustServerCertificate := false
  tls := none

open AttributeString in
/- A pool is asked for with the credentials as they are
   given. -/
theorem bracedFields_reach_driver :
    let given : Fields := [("params", .object bracedFields)]
    let c : Connections := { settings := .unset }
    let user : Value := .text " sa;PWD=\x7b\x7d\x7d "
    let password : Value := .text "\x7d\x7d\x7d; \t"
    let string :=
      write (frontAttributes c.settings.odbcDriver
          bracedParams.toConfig (.text "master")) ++
        (loginPart "UID" user ++ loginPart "PWD" password)
    paramsObject? given = some bracedFields ∧
      ConnectParams.model.check (.object bracedFields) =
          .accepted bracedParams ∧
        bracedParams.engine = .sqlServer ∧
          bracedParams.windowsAuth = false ∧
            (∃ events : List Event,
              ((callTool "connect-database" given).run c
                  {}).world.events = [] ++ events ∧
                .createOdbcPool string
                    (Session.odbcPoolOptions
                      c.settings.poolMaxSize) ∈ events) := by
  intro given c user password string
  have hObject : paramsObject? given = some bracedFields := rfl
  have hChecked :
      ConnectParams.model.check (.object bracedFields) =
        .accepted bracedParams := by
    rfl
  rcases (credentials_reach_driver hObject hChecked rfl rfl
      c {}).1 with
    ⟨events, hEvents, hPool⟩
  have hIdle :
      (Connections.disconnect.run c {}).result = .ok () := rfl
  exact
    ⟨hObject, hChecked, rfl, rfl, events, hEvents,
      hPool.made hIdle⟩

end SqlGateway
