import SqlGateway.Proofs.Session.Credentials
import SqlGateway.Proofs.Session.Statements
import SqlGateway.Proofs.Tool.Alike
import SqlGateway.Proofs.Value.Fields

/-
  This file shows what the credentials of a login tell.  Of
  the same calls with other credentials, the answers, the
  states and the messages are the same, and the calls of
  drivers too, but for the strings that pools are made with.
  Only where the parameters of a login are turned away, the
  list of what is wrong with them may show them.

  Key definitions include:
    * `CredentialAlike`
    * `Fields.SameButCredentials`
    * `Issue.SameButEcho`
    * `Rejection.SameButEcho`
    * `CheckedAlike`
    * `paramsObject?`
    * `ToolCall.SameButCredentials`
    * `switchedNames`

  Main declarations:
    * `ConnectParams.check_alike`
    * `ToolCall.SameButCredentials.alike`
    * `credentials_do_not_leak`
    * `refused_login_echoes_password`
-/

namespace SqlGateway

open Statement (QueryMode)

------------------------------------------------------------
-- Parameters
------------------------------------------------------------

/- A value is a text of any content. -/
def Value.isString : Value → Bool
  | text _ => true
  | raw _ => true
  | _ => false

/- Two credentials that are the same, or both a text. -/
inductive CredentialAlike :
    Option Value → Option Value → Prop where
  | same (v? : Option Value) : CredentialAlike v? v?
  | strings
      {v v' : Value}
      (hString : v.isString = true)
      (hString' : v'.isString = true) :
      CredentialAlike (some v) (some v')

/- Parameters that differ at most in the texts of the user
   and the password. -/
structure Fields.SameButCredentials
    (given given' : Fields) : Prop where
  user :
    CredentialAlike (get? given "user") (get? given' "user")
  password :
    CredentialAlike (get? given "password")
      (get? given' "password")
  others :
    ∀ name, name ≠ "user" → name ≠ "password" →
      get? given name = get? given' name

/- Whatever else is given, two pairs of texts may be put in
   for the user and the password. -/
theorem Fields.sameButCredentials_put
    (given : Fields)
    (user user' password password' : String) :
    Fields.SameButCredentials
      (put (put given "user" (.text user)) "password"
        (.text password))
      (put (put given "user" (.text user')) "password"
        (.text password')) := by
  constructor
  · simp only [get?_put]
    exact .strings rfl rfl
  · simp only [get?_put]
    exact .strings rfl rfl
  · intro name hUser hPassword
    simp only [get?_put, if_neg hUser.symm,
      if_neg hPassword.symm]

------------------------------------------------------------
-- Issues and Rejections
------------------------------------------------------------

/-
  Two issues that are the same, or both tell that a part is
  missing, from parameters that differ in credentials.  The
  parameters are the input of such an issue.
-/
inductive Issue.SameButEcho : Issue → Issue → Prop where
  | same (issue : Issue) : Issue.SameButEcho issue issue
  | echoed
      {given given' : Fields}
      (location : List String)
      (hGiven : given.SameButCredentials given') :
      Issue.SameButEcho
        ⟨.missing, location, .object given⟩
        ⟨.missing, location, .object given'⟩

namespace Issue.SameButEcho

theorem under
    {issue issue' : Issue}
    (hIssues : issue.SameButEcho issue')
    (name : String) :
    (issue.under name).SameButEcho (issue'.under name) := by
  cases hIssues with
  | same => exact .same _
  | echoed location hGiven =>
      exact .echoed (name :: location) hGiven

theorem refl_all (issues : List Issue) :
    List.Forall₂ Issue.SameButEcho issues issues :=
  List.forall₂_same.mpr fun issue _ => .same issue

end Issue.SameButEcho

/- Two rejections that are the same, or turn the parameters
   of a login away for such issues, one by one. -/
inductive Rejection.SameButEcho :
    Rejection → Rejection → Prop where
  | same (rejection : Rejection) :
      Rejection.SameButEcho rejection rejection
  | echoed
      {issues issues' : List Issue}
      (hIssues :
        List.Forall₂ Issue.SameButEcho issues issues') :
      Rejection.SameButEcho (.invalidParams .connect issues)
        (.invalidParams .connect issues')

------------------------------------------------------------
-- Checked Results
------------------------------------------------------------

/- Two checked results are values that are related, or were
   rejected for issues that differ in what they echo. -/
inductive CheckedAlike
    {α β : Type}
    (V : α → β → Prop) : Checked α → Checked β → Prop where
  | accepted
      {a : α}
      {b : β}
      (hValues : V a b) :
      CheckedAlike V (.accepted a) (.accepted b)
  | rejected
      {issues issues' : List Issue}
      (hIssues :
        List.Forall₂ Issue.SameButEcho issues issues') :
      CheckedAlike V (.rejected issues) (.rejected issues')

namespace CheckedAlike

variable {α β γ δ : Type}
variable {V : α → β → Prop}
variable {U : γ → δ → Prop}

/- A result is like itself if its values are. -/
theorem refl
    {V : α → α → Prop}
    (hValues : ∀ a, V a a)
    (result : Checked α) :
    CheckedAlike V result result := by
  cases result with
  | accepted a => exact .accepted (hValues a)
  | rejected issues => exact .rejected (Issue.SameButEcho.refl_all issues)

/- Accepted values that are changed alike. -/
theorem map
    {f : α → γ}
    {f' : β → δ}
    {result : Checked α}
    {result' : Checked β}
    (hMap : ∀ a b, V a b → U (f a) (f' b))
    (hResult : CheckedAlike V result result') :
    CheckedAlike U (f <$> result) (f' <$> result') := by
  cases hResult with
  | accepted hValues => exact .accepted (hMap _ _ hValues)
  | rejected hIssues => exact .rejected hIssues

/- Two results together, each of which is alike. -/
theorem seq
    {f : Checked (α → γ)}
    {f' : Checked (β → δ)}
    {result : Checked α}
    {result' : Checked β}
    (hFirst :
      CheckedAlike
        (fun g g' => ∀ a b, V a b → U (g a) (g' b)) f f')
    (hResult : CheckedAlike V result result') :
    CheckedAlike U (f <*> result) (f' <*> result') := by
  cases hFirst with
  | accepted hMap =>
      cases hResult with
      | accepted hValues =>
          exact .accepted (hMap _ _ hValues)
      | rejected hIssues => exact .rejected hIssues
  | rejected hIssues =>
      cases hResult with
      | accepted hValues => exact .rejected hIssues
      | rejected hMore =>
          exact .rejected (List.rel_append hIssues hMore)

/- Related values are those that were accepted. -/
theorem attach
    {result : Checked α}
    {result' : Checked β}
    (hResult : CheckedAlike V result result') :
    CheckedAlike
      (fun a b =>
        V a b ∧ result = .accepted a ∧ result' = .accepted b)
      result result' := by
  cases hResult with
  | accepted hValues => exact .accepted ⟨hValues, rfl, rfl⟩
  | rejected hIssues => exact .rejected hIssues

/- The results seen from outside a named part. -/
theorem under
    {result : Checked α}
    {result' : Checked β}
    (hResult : CheckedAlike V result result')
    (name : String) :
    CheckedAlike V (result.under name)
      (result'.under name) := by
  cases hResult with
  | accepted hValues => exact .accepted hValues
  | rejected hIssues =>
      exact .rejected
        (List.rel_map (fun _ _ hIssue => hIssue.under name)
          hIssues)

end CheckedAlike

------------------------------------------------------------
-- Checks of Parameters
------------------------------------------------------------

/- A field other than the credentials is read alike. -/
theorem Field.read_alike
    {α : Type}
    {given given' : Fields}
    (hGiven : given.SameButCredentials given')
    (field : Field α)
    (hUser : field.name ≠ "user")
    (hPassword : field.name ≠ "password") :
    CheckedAlike (· = ·) (field.read given)
      (field.read given') := by
  unfold Field.read
  rw [hGiven.others _ hUser hPassword]
  apply CheckedAlike.under
  cases Fields.get? given' field.name with
  | some v => exact .refl (fun _ => rfl) _
  | none =>
      cases field.default with
      | some d => exact .accepted rfl
      | none =>
          exact .rejected (.cons (.echoed [] hGiven) .nil)

/- A text is accepted as it comes. -/
theorem readFreeText_of_isString
    {v : Value}
    (hString : v.isString = true) :
    Kind.freeText.nullable.check v = .accepted (some v) := by
  cases v with
  | text s => rfl
  | raw codes => rfl
  | _ => cases hString

/- Credentials are accepted both, or rejected for the same
   issues. -/
theorem optionalFreeText_read_alike
    {name description : String}
    {given given' : Fields}
    (hAlike :
      CredentialAlike (Fields.get? given name)
        (Fields.get? given' name)) :
    CheckedAlike (fun _ _ => True)
      ((optionalFreeText name description).read given)
      ((optionalFreeText name description).read given') := by
  unfold Field.read
  dsimp only [optionalFreeText]
  apply CheckedAlike.under
  revert hAlike
  generalize Fields.get? given name = v?,
    Fields.get? given' name = v?'
  rintro (_ | ⟨hString, hString'⟩)
  · -- What is missing is null; no issue is made of it.
    cases v? with
    | none => exact .accepted trivial
    | some v => exact .refl (fun _ => trivial) _
  · have hChecked := readFreeText_of_isString hString
    have hChecked' := readFreeText_of_isString hString'
    dsimp only
    rw [hChecked, hChecked']
    exact .accepted trivial

namespace ConnectParams

/- Two sets of parameters that differ at most in the user and
   the password. -/
def SameButCredentials (params params' : ConnectParams) :
    Prop :=
  params' =
    { params with
      user := params'.user
      password := params'.password }

theorem SameButCredentials.toConfig
    {params params' : ConnectParams}
    (hSame : params.SameButCredentials params') :
    params.toConfig.SameButCredentials params'.toConfig := by
  unfold SameButCredentials at hSame
  rw [hSame]
  rfl

/- Parameters that differ in credentials only are accepted
   both, and then differ in no more, or rejected both. -/
theorem check_alike
    {given given' : Fields}
    (hSame : given.SameButCredentials given') :
    CheckedAlike SameButCredentials
      (model.check (.object given))
      (model.check (.object given')) := by
  have hOthers :
      ∀ {α : Type} (field : Field α),
        field.name ≠ "user" → field.name ≠ "password" →
          CheckedAlike (· = ·) (field.read given)
            (field.read given') :=
    fun field => field.read_alike hSame
  have hUser :
      CheckedAlike (fun _ _ => True)
        (userField.read given) (userField.read given') :=
    optionalFreeText_read_alike hSame.user
  have hPassword :
      CheckedAlike (fun _ _ => True)
        (passwordField.read given)
        (passwordField.read given') :=
    optionalFreeText_read_alike hSame.password
  change CheckedAlike SameButCredentials
    (model.read given) (model.read given')
  dsimp only [model]
  refine .seq ?_ (hOthers tlsField (by decide) (by decide))
  refine .seq ?_ (hOthers trustField (by decide) (by decide))
  refine .seq ?_
    (hOthers encryptField (by decide) (by decide))
  refine .seq ?_
    (hOthers windowsAuthField (by decide) (by decide))
  refine .seq (.seq ?_ hUser) hPassword
  refine .seq ?_
    (hOthers databaseField (by decide) (by decide))
  refine .seq ?_ (hOthers portField (by decide) (by decide))
  refine .seq ?_
    (hOthers serverField (by decide) (by decide))
  refine .map ?_
    (hOthers engineField (by decide) (by decide))
  rintro engine _ rfl server _ rfl port _ rfl database _ rfl
    user user' - password password' - windowsAuth _ rfl
    encrypt _ rfl trust _ rfl tls _ rfl
  rfl

end ConnectParams

------------------------------------------------------------
-- Calls
------------------------------------------------------------

/- The parameters that are given, where they are named
   values or a text that is read as such. -/
def paramsObject? (given : Fields) : Option Fields :=
  match (Fields.get? given "params").map readParams with
  | some (.ok (.object fields)) => some fields
  | _ => none

theorem checkParams_of_object
    {α : Type}
    {tool : Tool}
    {model : Model α}
    {given fields : Fields}
    (hObject : paramsObject? given = some fields) :
    checkParams tool model given =
      match (model.check (.object fields)).under "params" with
      | .accepted params => .ok params
      | .rejected issues =>
          .error (.invalidParams tool issues) := by
  cases hGiven : Fields.get? given "params" with
  | none =>
      simp only [paramsObject?, hGiven] at hObject
      cases hObject
  | some v =>
      simp only [paramsObject?, hGiven, Option.map_some]
        at hObject
      cases hRead : readParams v with
      | error fault =>
          rw [hRead] at hObject
          cases hObject
      | ok read =>
          rw [hRead] at hObject
          cases read with
          | object found =>
              cases hObject
              simp only [checkParams, hGiven, checkGiven, hRead]
              cases model.check (.object fields) with
              | accepted params => rfl
              | rejected issues => rfl
          | _ => cases hObject

/- Parameters of a login whose checks are alike are returned
   alike. -/
theorem checkParams_alike
    {α : Type}
    {V : α → α → Prop}
    {model : Model α}
    {given given' fields fields' : Fields}
    (hObject : paramsObject? given = some fields)
    (hObject' : paramsObject? given' = some fields')
    (hChecked :
      CheckedAlike V (model.check (.object fields))
        (model.check (.object fields'))) :
    ExceptAlike Rejection.SameButEcho V
      (checkParams .connect model given)
      (checkParams .connect model given') := by
  rw [checkParams_of_object hObject,
    checkParams_of_object hObject']
  have hUnder := hChecked.under "params"
  revert hUnder
  generalize
    (model.check (.object fields)).under "params" = result,
    (model.check (.object fields')).under "params" = result'
  rintro (hValues | hIssues)
  · exact .ok hValues
  · exact .error (.echoed hIssues)

/-
  Two calls of a tool that are the same, or connect to a
  server with credentials of their own.  Where PostgreSQL is
  connected to, it takes the strings of both alike, for
  their own database and for those that are named.
-/
inductive ToolCall.SameButCredentials
    (names : List String) : ToolCall → ToolCall → Prop where
  | same (call : ToolCall) :
      ToolCall.SameButCredentials names call call
  | connect
      {script : Script}
      {given given' fields fields' : Fields}
      (hObject : paramsObject? given = some fields)
      (hObject' : paramsObject? given' = some fields')
      (hSame : fields.SameButCredentials fields')
      (hTaken : ∀ params params',
        ConnectParams.model.check (.object fields) =
            .accepted params →
          ConnectParams.model.check (.object fields') =
              .accepted params' →
            params.engine = .postgres →
              params.toConfig.TakenAlikeWith names
                params'.toConfig) :
      ToolCall.SameButCredentials names
        ⟨script, "connect-database", given⟩
        ⟨script, "connect-database", given'⟩

namespace ToolCall

/- The database that a call asks to switch to, if it asks for
   that. -/
def switchedName? (call : ToolCall) : Option String :=
  match Request.ofCall call.tool call.given with
  | .ok (.switchDatabase params) => some params.database
  | _ => none

variable {names : List String}
variable {call call' : ToolCall}

/- Calls that differ in credentials only make requests that
   are alike. -/
theorem SameButCredentials.alike
    (hCalls : call.SameButCredentials names call')
    (hNames : ∀ name ∈ call.switchedName?, name ∈ names)
    (mode : QueryMode) :
    call.Alike (.credentials names) Rejection.SameButEcho
      mode mode call' := by
  cases hCalls with
  | same =>
      refine ⟨rfl, ?_⟩
      cases hCall : Request.ofCall call.tool call.given with
      | error rejection => exact .error (.same rejection)
      | ok request =>
          refine .ok (request.alike_self
            (fun _ => .refl) ?_ (fun _ _ => .inl rfl))
          rintro params rfl
          apply hNames
          unfold switchedName?
          rw [hCall]
          rfl
  | @connect script given given' _ _ hObject hObject' hSame
      hTaken =>
      refine ⟨rfl, ?_⟩
      have hParams :
          ExceptAlike Rejection.SameButEcho _
            (checkParams .connect ConnectParams.model given)
            (checkParams .connect ConnectParams.model given') :=
        checkParams_alike hObject hObject'
          (ConnectParams.check_alike hSame).attach
      refine hParams.map fun params params' hBoth => ?_
      rcases hBoth with ⟨hApart, hFirst, hSecond⟩
      have hEngine : params.engine = params'.engine := by
        unfold ConnectParams.SameButCredentials at hApart
        rw [hApart]
      exact .connect hEngine
        ⟨hApart.toConfig, hTaken _ _ hFirst hSecond⟩

end ToolCall

------------------------------------------------------------
-- Runs
------------------------------------------------------------

/- The databases that calls ask to switch to. -/
def switchedNames (calls : List ToolCall) : List String :=
  calls.filterMap ToolCall.switchedName?

/- Runs of calls that differ in credentials only are
   alike. -/
theorem runCalls_alike_of_sameButCredentials
    {names : List String}
    {mode : QueryMode}
    {calls calls' : List ToolCall}
    {c c' : Connections}
    {w w' : World}
    (hCalls :
      List.Forall₂ (ToolCall.SameButCredentials names)
        calls calls')
    (hNames : ∀ name ∈ switchedNames calls, name ∈ names)
    (hHolders : c.Alike (.credentials names) mode mode c')
    (hWorld : World.Alike Event.SameButStrings w w') :
    CallsRun.Alike Event.SameButStrings
      (Connections.Alike (.credentials names) mode mode)
      Rejection.SameButEcho (AnswerAlike mode mode)
      (runCalls calls c w)
      (runCalls calls' c' w') := by
  induction hCalls generalizing c c' w w' with
  | nil => exact ⟨.nil, rfl, hHolders, hWorld⟩
  | @cons call call' calls calls' hCall hCalls ih =>
      have hHead :
          ∀ name ∈ call.switchedName?, name ∈ names :=
        fun name hName => hNames name
          (List.mem_filterMap.mpr
            ⟨call, List.mem_cons_self, hName⟩)
      have hTail :
          ∀ name ∈ switchedNames calls, name ∈ names := by
        intro name hMem
        rcases List.mem_filterMap.mp hMem with
          ⟨other, hOther, hName⟩
        exact hNames name (List.mem_filterMap.mpr
          ⟨other, List.mem_cons_of_mem _ hOther, hName⟩)
      refine runCalls_cons_alike
        (hCall.alike hHead mode) hHolders hWorld ?_
      intro entry d v d' v' _ hAfter hLater
      exact ih hTail hAfter hLater

/-
  Take the same calls twice, with other texts for the users
  and the passwords in those that connect, and let
  PostgreSQL take the strings of both alike.  Then all calls
  are answered in the same way, leave the same states and
  log the same; and they call the drivers in the same way,
  but for the strings that pools are made with.  Of a login
  that is turned away for its parameters, what is wrong is
  the same, and only the parameters shown with it may
  differ.
-/
theorem credentials_do_not_leak
    {calls calls' : List ToolCall}
    (hCalls :
      List.Forall₂
        (ToolCall.SameButCredentials (switchedNames calls))
        calls calls')
    (c : Connections)
    (w : World) :
    let run := runCalls calls c w
    let run' := runCalls calls' c w
    (List.Forall₂
        (ExceptAlike Rejection.SameButEcho (· = ·))
        (run.answered.map CallRecord.result)
        (run'.answered.map CallRecord.result) ∧
      run.answered.map CallRecord.state =
        run'.answered.map CallRecord.state ∧
      run.answered.map CallRecord.logs =
        run'.answered.map CallRecord.logs ∧
      List.Forall₂ (List.Forall₂ Event.SameButStrings)
        (run.answered.map CallRecord.events)
        (run'.answered.map CallRecord.events)) ∧
      run.cut = run'.cut ∧
      World.Alike Event.SameButStrings run.world
        run'.world := by
  intro run run'
  have hHolders :
      c.Alike (.credentials (switchedNames calls))
        c.settings.queryMode c.settings.queryMode c :=
    c.underMode_alike
      (fun _ => ConnectionConfig.AlikeFor.refl) _ _
  have hRuns :=
    runCalls_alike_of_sameButCredentials hCalls
      (fun _ hName => hName) hHolders (.refl .same w)
  have hResults :
      List.Forall₂
        (ExceptAlike Rejection.SameButEcho (· = ·))
        (run.answered.map CallRecord.result)
        (run'.answered.map CallRecord.result) :=
    hRuns.results.imp fun _ _ hAnswers =>
      hAnswers.mono fun _ _ hTexts => hTexts.eq
  exact
    ⟨⟨hResults, hRuns.states, hRuns.logs, hRuns.events⟩,
      hRuns.cut, hRuns.world⟩

set_option maxRecDepth 4000 in
/- A session of PostgreSQL is opened by two users in turn, and
   moved to another database with the credentials that were
   kept. -/
theorem reopening_hides_credentials :
    let given (user password : String) : Fields :=
      [("params",
        .object
          [("engine", .text "postgres"),
           ("server", .text "db"), ("user", .text user),
           ("password", .text password)])]
    let login (user password : String) : ToolCall :=
      ⟨{}, "connect-database", given user password⟩
    let move : ToolCall :=
      ⟨{}, "switch-database",
        [("params", .object [("database", .text "shop")])]⟩
    let calls := [login "ann" "one", move]
    let calls' := [login "bob" "two words", move]
    let c : Connections := { settings := .unset }
    List.Forall₂
        (ToolCall.SameButCredentials (switchedNames calls))
        calls calls' ∧
      List.Forall₂
        (ExceptAlike Rejection.SameButEcho (· = ·))
        ((runCalls calls c {}).answered.map
          CallRecord.result)
        ((runCalls calls' c {}).answered.map
          CallRecord.result) ∧
      (runCalls calls c {}).answered.map CallRecord.logs =
        (runCalls calls' c {}).answered.map
          CallRecord.logs := by
  intro given login move calls calls' c
  have hNames : switchedNames calls = ["shop"] := rfl
  have hSame :=
    Fields.sameButCredentials_put
      [("engine", .text "postgres"), ("server", .text "db")]
      "ann" "bob" "one" "two words"
  have hLogins :
      ToolCall.SameButCredentials (switchedNames calls)
        (login "ann" "one") (login "bob" "two words") := by
    refine .connect rfl rfl hSame ?_
    intro params params' hParams hParams' _
    cases hParams
    cases hParams'
    rw [hNames]
    constructor
    · exact .of_taken rfl rfl
    · intro name hMem
      rw [List.mem_singleton.mp hMem]
      exact .of_taken rfl rfl
  have hCalls :
      List.Forall₂
        (ToolCall.SameButCredentials (switchedNames calls))
        calls calls' :=
    .cons hLogins (.cons (.same move) .nil)
  have hRuns := credentials_do_not_leak hCalls c {}
  exact ⟨hCalls, hRuns.1.1, hRuns.1.2.2.1⟩

/- A login without a server is turned away, and what is wrong
   is told with the parameters, the password among them. -/
theorem refused_login_echoes_password :
    let given (password : String) : Fields :=
      [("engine", .text "mssql"), ("password", .text password)]
    let calls (password : String) : List ToolCall :=
      [⟨{}, "connect-database",
        [("params", .object (given password))]⟩]
    let c : Connections := { settings := .unset }
    let results (password : String) :=
      (runCalls (calls password) c {}).answered.map
        CallRecord.result
    List.Forall₂
        (ToolCall.SameButCredentials
          (switchedNames (calls "one")))
        (calls "one") (calls "two") ∧
      (∀ password : String,
        results password =
          [.error
            (.invalidParams .connect
              [⟨.missing, ["params", "server"],
                .object (given password)⟩])]) ∧
      results "one" ≠ results "two" := by
  intro given calls c results
  have hGiven :
      ∀ password : String,
        given password =
          Fields.put [("engine", .text "mssql")] "password"
            (.text password) :=
    fun _ => rfl
  have hSame :
      (given "one").SameButCredentials (given "two") := by
    refine ⟨.same _, .strings rfl rfl, ?_⟩
    intro name _ hPassword
    rw [hGiven, hGiven, Fields.get?_put, Fields.get?_put,
      if_neg hPassword.symm, if_neg hPassword.symm]
  have hRefused :
      ConnectParams.model.check (.object (given "one")) =
        .rejected _ :=
    rfl
  have hResults :
      ∀ password : String,
        results password =
          [.error
            (.invalidParams .connect
              [⟨.missing, ["params", "server"],
                .object (given password)⟩])] :=
    fun _ => rfl
  refine ⟨.cons (.connect rfl rfl hSame ?_) .nil, hResults,
    ?_⟩
  · intro params params' hChecked
    rw [hRefused] at hChecked
    cases hChecked
  · rw [hResults, hResults]
    simp [given]

end SqlGateway
