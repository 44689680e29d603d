import SqlGateway.Proofs.Server.Shutdown
import SqlGateway.Proofs.Statement.ModeSetting
import SqlGateway.Proofs.Tool.Modes

/-
  This file shows that a server stays within the query mode
  that its setting gives: a statement that the mode refuses
  reaches no driver.  A setting that spells none of the
  wider modes gives the narrowest, so that such a server
  executes nothing but what that one permits.

  Key definitions include:
    * `CallRecord.Within`
    * `Served.Within`

  Main declarations:
    * `runCalls_within`
    * `runServer_within`
    * `setting_grants_spelled_mode`
-/

namespace SqlGateway

open Statement (QueryMode)

------------------------------------------------------------
-- Calls
------------------------------------------------------------

/-
  The record of a call that stayed within a mode: a call
  whose statement the mode refuses called no driver, and
  whatever a driver was asked to execute is mediated under
  the mode.
-/
structure CallRecord.Within
    (mode : QueryMode)
    (call : ToolCall)
    (entry : CallRecord) : Prop where
  refused : call.RefusedBy mode → entry.events = []
  mediated :
    ∀ text parameters,
      .execute text parameters ∈ entry.events →
        ∃ request engine?,
          Request.ofCall call.tool call.given =
              .ok request ∧
            Mediated mode engine? request text
              (parameters.getD [])

/- An answered call stays within the mode of the settings. -/
theorem within_of_runCall
    {call : ToolCall}
    {c d : Connections}
    {w v : World}
    {entry : CallRecord}
    (hCall : runCall call c w = (.ok entry, d, v)) :
    entry.Within c.settings.queryMode call := by
  have hEvents := events_of_runCall hCall
  constructor
  · rintro ⟨params, refusal, hRequest, hRefused⟩
    have hAnswer :=
      (Request.answer_refused hRefused c
        (w.step call.script)).2.2
    have hWorld :=
      (run_callTool_of_ok hRequest c (w.step call.script)).2
    have hLeft :
        ((callTool call.tool call.given).run c
          (w.step call.script)).world = v :=
      congrArg (fun left => left.2.2) hCall
    rw [hEvents, ← hLeft, hWorld, hAnswer]
    rfl
  · intro text parameters hMem
    have hSends := (runCall_sends call c w).2 text parameters
    rw [hCall, ← hEvents] at hSends
    rcases hSends hMem with ⟨request, hRequest, hMediated⟩
    exact ⟨request, _, hRequest, hMediated⟩

/-
  Answered calls stay within the mode of the settings, one
  by one.  The call that cuts the others short, if one does,
  is none that the mode refuses.
-/
theorem runCalls_within
    (calls : List ToolCall)
    (c : Connections)
    (w : World) :
    let answered := (runCalls calls c w).answered
    List.Forall₂ (CallRecord.Within c.settings.queryMode)
        (calls.take answered.length) answered ∧
      ∀ call, calls[answered.length]? = some call →
        ¬ call.RefusedBy c.settings.queryMode := by
  induction calls generalizing c w with
  | nil => exact ⟨.nil, nofun⟩
  | cons call calls ih =>
      intro answered
      cases hCall : runCall call c w with
      | mk result left =>
          rcases left with ⟨d, v⟩
          cases result with
          | ok entry =>
              have hSettings := (runCall_sends call c w).1
              rw [hCall] at hSettings
              have hRest := ih d v
              rw [hSettings] at hRest
              have hAnswered : answered = _ :=
                runCalls_cons_of_ok hCall calls
              rw [hAnswered]
              exact
                ⟨.cons (within_of_runCall hCall) hRest.1,
                  hRest.2⟩
          | error e =>
              have hAnswered : answered = [] := by
                unfold answered runCalls
                rw [hCall]
              rw [hAnswered]
              refine ⟨.nil, ?_⟩
              rintro _ ⟨⟩ hRefused
              rcases exists_runCall_of_refused hRefused w with
                ⟨entry, d', v', hAnswer⟩
              rw [hCall] at hAnswer
              cases hAnswer

------------------------------------------------------------
-- Servers
------------------------------------------------------------

/-
  What serving calls left, if all of it stayed within a
  mode: the answered calls did, and once the server had
  started, the first call that was not answered is none that
  the mode refuses.
-/
structure Served.Within
    (mode : QueryMode)
    (calls : List ToolCall)
    (served : Served) : Prop where
  answered :
    List.Forall₂ (CallRecord.Within mode)
      (calls.take served.calls.length) served.calls
  unanswered :
    served.transport.isSome = true →
      ∀ call, calls[served.calls.length]? = some call →
        ¬ call.RefusedBy mode

/- A server stays within the mode of its settings. -/
theorem serve_within
    (visit : Visit)
    (c : Connections)
    (w : World) :
    (serve visit c w).Within c.settings.queryMode
      visit.calls := by
  cases hTransport :
      Transport.ofName? c.settings.transport with
  | none =>
      rw [serve_of_unknown visit hTransport w]
      exact ⟨.nil, nofun⟩
  | some transport =>
      rcases run_startUp hTransport w with
        ⟨hResult, hState, -⟩
      have hCalls :=
        runCalls_within visit.calls c
          (startUp.run c w).world
      unfold serve
      simp only [hResult, hState]
      exact ⟨hCalls.1, fun _ => hCalls.2⟩

/- The mode of the settings is the one that the environment
   gives. -/
theorem Settings.queryMode_of_load
    {env : Environment}
    {settings : Settings}
    (hLoad : Settings.load env = .ok settings) :
    settings.queryMode =
      .ofSetting (env.get? "SQL_MCP_MODE") := by
  unfold Settings.load at hLoad
  cases hPort : env.wholeD "SQL_MCP_PORT" 8000 with
  | error e =>
      rw [hPort] at hLoad
      cases hLoad
  | ok httpPort =>
      cases hPool : env.wholeD "SQL_MCP_POOL_MAX" 10 with
      | error e =>
          rw [hPort, hPool] at hLoad
          cases hLoad
      | ok poolMaxSize =>
          rw [hPort, hPool] at hLoad
          rw [← Except.ok.inj hLoad]

/- What is served stays within the mode that the environment
   gives. -/
theorem runServer_within
    {env : Environment}
    {visit : Visit}
    {served : Served}
    (hServed : (runServer env visit).served = some served) :
    served.Within
      (.ofSetting (env.get? "SQL_MCP_MODE")) visit.calls := by
  unfold runServer at hServed
  cases hLoad : Settings.load env with
  | error e =>
      rw [hLoad] at hServed
      cases hServed
  | ok settings =>
      cases hLevel : levelNumber settings.logLevel with
      | error e =>
          simp only [hLoad, bind, Except.bind, hLevel]
            at hServed
          cases hServed
      | ok level =>
          simp only [hLoad, bind, Except.bind, hLevel]
            at hServed
          have hSame :
              serve visit { settings } {} = served :=
            Option.some.inj hServed
          rw [← hSame, ← Settings.queryMode_of_load hLoad]
          exact serve_within visit { settings } {}

------------------------------------------------------------
-- What a Setting Grants
------------------------------------------------------------

/-
  Whatever the setting is: it gives a wider mode if and only
  if it spells the name of that mode, but for blanks around
  it and the case of ASCII letters.  Every other setting, and
  none at all, gives the narrowest mode; so does any with a
  character in it that is not in ASCII, whatever its small
  form.  And whatever calls come in, a server whose setting
  spells neither name stays within the narrowest mode.
-/
theorem setting_grants_spelled_mode
    (value? : Option String) :
    (QueryMode.ofSetting value? = .write ↔
        QueryMode.Spells value? "write") ∧
      (QueryMode.ofSetting value? = .full ↔
        QueryMode.Spells value? "full") ∧
      (¬ QueryMode.Spells value? "write" →
        ¬ QueryMode.Spells value? "full" →
          QueryMode.ofSetting value? = .safe) ∧
      (∀ text : String, value? = some text →
        ∀ c ∈ Text.trim Text.isBlank text.toList,
          128 ≤ c.toNat →
            QueryMode.ofSetting value? = .safe) ∧
      ∀ (env : Environment) (visit : Visit)
          (served : Served),
        env.get? "SQL_MCP_MODE" = value? →
          ¬ QueryMode.Spells value? "write" →
            ¬ QueryMode.Spells value? "full" →
              (runServer env visit).served = some served →
                served.Within .safe visit.calls := by
  refine
    ⟨QueryMode.ofSetting_eq_iff (by decide),
      QueryMode.ofSetting_eq_iff (by decide),
      QueryMode.ofSetting_eq_safe, ?_, ?_⟩
  · rintro text rfl c hMem hBeyond
    exact QueryMode.ofSetting_of_not_ascii hMem hBeyond
  · intro env visit served hValue hWrite hFull hServed
    have hWithin := runServer_within hServed
    rw [hValue, QueryMode.ofSetting_eq_safe hWrite hFull]
      at hWithin
    exact hWithin

/- A name of a mode, but for a dot on its letter I. -/
def dottedSetting : String :=
  " WR\u0130TE\n"

/- An environment with this setting. -/
def dottedEnvironment : Environment :=
  [("SQL_MCP_MODE", dottedSetting)]

/- A call that asks for a deletion. -/
def deletingCall : ToolCall where
  tool := "execute-query"
  given :=
    [("params",
      .object [("query", .text "DELETE FROM users")])]

/- A session is opened, and a deletion is asked for. -/
def deletingVisit : Visit where
  calls := [openingCall, deletingCall]

/- There is a letter i in the small form of the setting, but
   a dot behind it: the server reads only, and does not
   delete.  With a plain letter the mode is given. -/
theorem dottedSetting_reads_only :
    (dottedEnvironment.get? "SQL_MCP_MODE" =
          some dottedSetting ∧
        ¬ QueryMode.Spells (some dottedSetting) "write" ∧
        ¬ QueryMode.Spells (some dottedSetting) "full" ∧
        '\u0130' ∈
          Text.trim Text.isBlank dottedSetting.toList) ∧
      QueryMode.ofSetting (some dottedSetting) = .safe ∧
      (∃ served,
        (runServer dottedEnvironment deletingVisit).served =
            some served ∧
          served.Within .safe deletingVisit.calls) ∧
      deletingCall.RefusedBy .safe ∧
      QueryMode.ofSetting (some " WRITE\n") = .write ∧
      QueryMode.ofSetting none = .safe := by
  have hWrite :
      ¬ QueryMode.Spells (some dottedSetting) "write" := by
    rw [QueryMode.spells_some_iff]
    decide
  have hFull :
      ¬ QueryMode.Spells (some dottedSetting) "full" := by
    rw [QueryMode.spells_some_iff]
    decide
  have hMem :
      '\u0130' ∈
        Text.trim Text.isBlank dottedSetting.toList := by
    decide
  have hStarts :
      (runServer dottedEnvironment
        deletingVisit).served.isSome = true := by
    rfl
  have hSpelled :
      QueryMode.Spells (some " WRITE\n") "write" := by
    rw [QueryMode.spells_some_iff]
    decide
  have hNone : ∀ word, ¬ QueryMode.Spells none word := by
    rintro word ⟨text, ⟨⟩, -⟩
  rcases setting_grants_spelled_mode (some dottedSetting) with
    ⟨-, -, -, hBeyond, hServers⟩
  rcases Option.isSome_iff_exists.mp hStarts with
    ⟨served, hServed⟩
  refine
    ⟨⟨rfl, hWrite, hFull, hMem⟩,
      hBeyond dottedSetting rfl _ hMem (by decide),
      ⟨served, hServed,
        hServers _ _ served rfl hWrite hFull hServed⟩,
      ⟨_, .readOnly, rfl, by decide⟩,
      (setting_grants_spelled_mode _).1.mpr hSpelled,
      (setting_grants_spelled_mode none).2.2.1 (hNone _)
        (hNone _)⟩

end SqlGateway
