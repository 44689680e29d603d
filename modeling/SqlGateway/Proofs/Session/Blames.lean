import SqlGateway.Failure.Message
import SqlGateway.Proofs.Driver.Blames
import SqlGateway.Proofs.Session.Statements

/-
  This file tells for every operation of a session how its
  failure relates to what the drivers raised.  As a rule the
  failure is one of the gateway's own, with what was raised
  as its cause.  The exceptions are: the making of a
  PostgreSQL pool, a failure that ends the run, and a second
  failure while a pool is closed whose trial failed.

  Key definitions include:
    * `Handled`
    * `OpeningBlame`
    * `FailedOnce` and `Escapes`

  Main declarations:
    * `Session.connect_blames`
    * `Session.disconnect_blames`
    * `Session.switchInPlace_blames`, `Session.reopen_blames`
    * `Session.fetch_blames`, `Session.executeQuery_blames`
-/

namespace SqlGateway

------------------------------------------------------------
-- Blame
------------------------------------------------------------

/- The calls by which a new pool is tried. -/
def trialCalls : List DriverCall :=
  [.openPool, .acquire, .execute]

/- The calls by which a pool is closed. -/
def releaseCalls : List DriverCall :=
  [.closePool, .waitClosed]

/- The calls by which a statement is sent and read. -/
def statementCalls : List DriverCall :=
  [.acquire, .execute, .fetchAll]

/-
  How the failure of an operation relates to what the
  drivers raised, where `category` is the category that the
  operation puts failures of drivers in: nothing was raised;
  or it was wrapped with its cause; or it ends the run, and
  is passed on as it is.
-/
inductive Handled
    (category : Category) :
    List Raised → Failure → Prop where
  | own (e : Failure) : Handled category [] e
  | wrapped
      {call : DriverCall}
      {cause e : Failure}
      (hCall : call ≠ .makePool .postgres)
      (hEnds : cause.endsRun = false)
      (hCategory : e.category? = some category)
      (hCause : e.cause? = some cause) :
      Handled category [⟨call, cause⟩] e
  | ending
      {call : DriverCall}
      {e : Failure}
      (hEnds : e.endsRun = true) :
      Handled category [⟨call, e⟩] e

/-
  How the failure to open a session relates to what the
  drivers raised.  It is handled as elsewhere, but for two
  cases in which a failure escapes as it is: a PostgreSQL
  pool could not be made; or a pool failed its trial and
  then failed to close, which leaves the second failure
  only.
-/
inductive OpeningBlame :
    List Raised → Failure → Prop where
  | handled
      {raised : List Raised}
      {e : Failure}
      (hHandled : Handled .connection raised e) :
      OpeningBlame raised e
  | unmade (e : Failure) :
      OpeningBlame [⟨.makePool .postgres, e⟩] e
  | replaced
      {call closing : DriverCall}
      {cause e : Failure}
      (hCall : call ∈ trialCalls)
      (hEnds : cause.endsRun = false)
      (hClosing : closing ∈ releaseCalls) :
      OpeningBlame [⟨call, cause⟩, ⟨closing, e⟩] e

namespace Handled

variable {category : Category}
variable {calls : List DriverCall}
variable {wrap : Failure → Failure}

/- What a driver raised is wrapped with its cause, or ends
   the run. -/
theorem ofThrown
    {raised : List Raised}
    {e : Failure}
    (hCalls : .makePool .postgres ∉ calls)
    (hCategory : ∀ e, (wrap e).category? = some category)
    (hCause : ∀ e, (wrap e).cause? = some e)
    (hThrown : Thrown calls raised e) :
    Handled category raised (e.wrappedBy wrap) := by
  cases hThrown with
  | @mk call hCall e =>
      cases hEnds : e.endsRun with
      | true =>
          rw [Failure.wrappedBy_of_endsRun wrap hEnds]
          exact .ending hEnds
      | false =>
          rw [Failure.wrappedBy_of_not_endsRun wrap hEnds]
          refine .wrapped ?_ hEnds (hCategory e) (hCause e)
          intro hEq
          exact hCalls (hEq ▸ hCall)

theorem ofOwnOrThrown
    {raised : List Raised}
    {e : Failure}
    (hCalls : .makePool .postgres ∉ calls)
    (hCategory : ∀ e, (wrap e).category? = some category)
    (hCause : ∀ e, (wrap e).cause? = some e)
    (hBlame : OwnOrThrown calls raised e) :
    Handled category raised (e.wrappedBy wrap) := by
  cases hBlame with
  | own e => exact .own _
  | thrown hThrown =>
      exact ofThrown hCalls hCategory hCause hThrown

end Handled

------------------------------------------------------------
-- Wrapped and Escaped Failures
------------------------------------------------------------

/-
  A driver raised one failure only, in another call than the
  making of a PostgreSQL pool, and the failure does not end
  the run.
-/
structure FailedOnce
    (first : Raised)
    (rest : List Raised) : Prop where
  alone : rest = []
  elsewhere : first.call ≠ .makePool .postgres
  goesOn : first.failure.endsRun = false

/-
  The failure of an operation is just what a driver raised:
  in the making of a PostgreSQL pool, or to end the run, or
  second, while a pool was closed that had failed its trial.
-/
inductive Escapes :
    Raised → List Raised → Failure → Prop where
  | unmade
      {first : Raised}
      (hCall : first.call = .makePool .postgres) :
      Escapes first [] first.failure
  | ending
      {first : Raised}
      (hEnds : first.failure.endsRun = true) :
      Escapes first [] first.failure
  | replaced
      {first second : Raised}
      (hCall : first.call ∈ trialCalls)
      (hEnds : first.failure.endsRun = false)
      (hClosing : second.call ∈ releaseCalls) :
      Escapes first [second] second.failure

/- What escapes is none of the failures that are wrapped. -/
theorem Escapes.not_failedOnce
    {first : Raised}
    {rest : List Raised}
    {e : Failure}
    (hEscapes : Escapes first rest e) :
    ¬ FailedOnce first rest := by
  intro hOnce
  cases hEscapes with
  | unmade hCall => exact hOnce.elsewhere hCall
  | ending hEnds =>
      have hFalse := hEnds.symm.trans hOnce.goesOn
      cases hFalse
  | replaced hCall hEnds hClosing => cases hOnce.alone

/- A failure that is handled is wrapped or ends the run. -/
theorem Handled.wrapped_or_escapes
    {category : Category}
    {first : Raised}
    {rest : List Raised}
    {e : Failure}
    (hHandled : Handled category (first :: rest) e) :
    (FailedOnce first rest ∧
        e.category? = some category ∧
        e.cause? = some first.failure) ∨
      Escapes first rest e := by
  cases hHandled with
  | wrapped hCall hEnds hCategory hCause =>
      exact .inl ⟨⟨rfl, hCall, hEnds⟩, hCategory, hCause⟩
  | ending hEnds => exact .inr (.ending hEnds)

theorem OpeningBlame.wrapped_or_escapes
    {first : Raised}
    {rest : List Raised}
    {e : Failure}
    (hBlame : OpeningBlame (first :: rest) e) :
    (FailedOnce first rest ∧
        e.category? = some .connection ∧
        e.cause? = some first.failure) ∨
      Escapes first rest e := by
  cases hBlame with
  | handled hHandled => exact hHandled.wrapped_or_escapes
  | unmade e => exact .inr (.unmade rfl)
  | replaced hCall hEnds hClosing =>
      exact .inr (.replaced hCall hEnds hClosing)

namespace Session

open Act (Blames)

variable {blame : List Raised → Failure → Prop}

------------------------------------------------------------
-- Statements
------------------------------------------------------------

theorem requireConnected_blames
    (hOwn : ∀ e, blame [] e) :
    Blames blame requireConnected := by
  unfold requireConnected
  refine .state_bind fun session => ?_
  exact .ite (.pure _) (.fail (hOwn _))

theorem poolNumber_blames
    (hOwn : ∀ e, blame [] e) :
    Blames blame poolNumber := by
  unfold poolNumber
  refine .state_bind fun session => ?_
  cases session.pool with
  | some pool => exact .pure pool
  | none => exact .fail (hOwn _)

theorem execute_ownOrThrown
    {statement : String}
    {parameters : Option (List Value)} :
    Blames (OwnOrThrown statementCalls)
      (Driver.execute statement parameters :
        Act Session Reply) :=
  (Driver.execute_blames (by decide)).mono
    fun _ _ => .thrown

theorem acquire_ownOrThrown
    {engine : Engine}
    {pool : Nat} :
    Blames (OwnOrThrown statementCalls)
      (Driver.acquire engine pool : Act Session Unit) :=
  (Driver.acquire_blames (by decide)).mono
    fun _ _ => .thrown

theorem fetchAll_ownOrThrown
    {engine : Engine}
    {reply : Reply} :
    Blames (OwnOrThrown statementCalls)
      (Driver.fetchAll engine reply :
        Act Session (List Fields)) :=
  (Driver.fetchAll_blames (by decide)).mono
    fun _ _ => .thrown

/- Taking a connection that is pointed at the database. -/
theorem takeConnection_blames :
    Blames (OwnOrThrown statementCalls) takeConnection := by
  unfold takeConnection
  refine .state_bind fun session => ?_
  refine .bind (poolNumber_blames .own) fun pool => ?_
  refine .bind acquire_ownOrThrown fun _ => ?_
  unfold repoint
  refine .state_bind fun session => .ite ?_ (.pure _)
  refine .bind (.ofExcept fun e _ => .own e)
    fun statement => ?_
  exact .discard execute_ownOrThrown

theorem fetch_blames
    (statement : String)
    (parameters : List Value) :
    Blames (OwnOrThrown statementCalls)
      (fetch statement parameters) := by
  unfold fetch
  refine .state_bind fun session => ?_
  refine .bind takeConnection_blames fun _ => ?_
  refine .bind execute_ownOrThrown fun reply => ?_
  cases session.engine with
  | postgres => exact fetchAll_ownOrThrown
  | sqlServer =>
      refine .bind (.discard (.ofExcept fun e _ => .own e))
        fun _ => ?_
      exact fetchAll_ownOrThrown

theorem sendStatement_blames
    (engine : Engine)
    (statement : String) :
    Blames (OwnOrThrown statementCalls)
      (sendStatement engine statement) := by
  unfold sendStatement
  refine .bind takeConnection_blames fun _ => ?_
  refine .bind execute_ownOrThrown fun reply => ?_
  unfold resultOf
  cases reply.columns with
  | none => exact .pure _
  | some columns =>
      exact .bind fetchAll_ownOrThrown fun rows => .pure _

theorem sendOnly_blames
    (engine : Engine)
    (statement : String) :
    Blames (OwnOrThrown statementCalls)
      (sendOnly engine statement) := by
  unfold sendOnly
  refine .bind (poolNumber_blames .own) fun pool => ?_
  refine .bind acquire_ownOrThrown fun _ => ?_
  exact .discard execute_ownOrThrown

theorem wrapping_blames
    {α : Type}
    (operation : Operation)
    {act : Act Session α}
    (hAct : Blames (OwnOrThrown statementCalls) act) :
    Blames (Handled .query)
      (Act.wrapping (.operationFailed operation) act) :=
  .wrapping hAct fun _ _ =>
    .ofOwnOrThrown (by decide) (fun _ => rfl) fun _ => rfl

theorem catalog_blames
    {α : Type}
    (operation : Operation)
    (statement : String)
    (parameters : List Value)
    (read : List Fields → Except Failure α) :
    Blames (Handled .query) (do
      let rows ← Act.wrapping (.operationFailed operation)
        (fetch statement parameters)
      Act.ofExcept (read rows)) := by
  refine .bind ?_ fun rows => .ofExcept fun e _ => .own e
  exact wrapping_blames operation
    (fetch_blames statement parameters)

theorem listDatabases_blames :
    Blames (Handled .query) listDatabases := by
  unfold listDatabases
  refine .bind (requireConnected_blames .own) fun _ => ?_
  exact .state_bind fun session => catalog_blames _ _ _ _

theorem listTables_blames :
    Blames (Handled .query) listTables := by
  unfold listTables
  refine .bind (requireConnected_blames .own) fun _ => ?_
  exact .state_bind fun session => catalog_blames _ _ _ _

theorem describeTable_blames
    (table : String)
    (schema? : Option String) :
    Blames (Handled .query)
      (describeTable table schema?) := by
  unfold describeTable
  refine .bind (requireConnected_blames .own) fun _ => ?_
  exact .state_bind fun session => catalog_blames _ _ _ _

theorem executeQuery_blames
    (sql : String)
    (limit : Value) :
    Blames (Handled .query) (executeQuery sql limit) := by
  unfold executeQuery
  refine .bind (requireConnected_blames .own) fun _ => ?_
  refine .state_bind fun session => ?_
  refine .bind (.ofExcept fun e _ => .own e)
    fun statement => ?_
  have hSend :=
    wrapping_blames .executeQuery
      (sendStatement_blames session.engine statement)
  exact .ite (.bind (.log _ _) fun _ => hSend) hSend

theorem switchInPlace_blames (database : String) :
    Blames (Handled .query) (switchInPlace database) := by
  unfold switchInPlace
  refine .state_bind fun session => ?_
  refine .bind (.ofExcept fun e _ => .own e)
    fun statement => ?_
  refine .bind (wrapping_blames _ (sendOnly_blames _ _))
    fun _ => ?_
  exact .bind (.update _) fun _ => .log _ _

------------------------------------------------------------
-- Opening and Closing
------------------------------------------------------------

/- Making a pool: a failure to make one for PostgreSQL is
   reported as it is. -/
theorem makePool_blames
    (engine : Engine)
    (config : ConnectionConfig)
    (database : Value) :
    Blames OpeningBlame
      (makePool engine config database) := by
  unfold makePool
  refine .state_bind fun session => ?_
  cases engine with
  | postgres =>
      have hEscaped :
          ∀ raised e, Thrown [.makePool .postgres] raised e →
            OpeningBlame raised e := by
        intro raised e hThrown
        cases hThrown with
        | mk hCall e =>
            rw [List.mem_singleton.mp hCall]
            exact .unmade e
      refine Blames.mono ?_ hEscaped
      refine .bind (.ofDriver (.mk (by decide)))
        fun connectionString => ?_
      exact Driver.createPostgresPool_blames (by decide)
  | sqlServer =>
      have hPool :
          Blames (Thrown [.makePool .sqlServer])
            (Driver.createOdbcPool
              (AttributeString.sessionString
                session.settings.odbcDriver config database)
              (odbcPoolOptions session.settings.poolMaxSize) :
                Act Session Nat) :=
        Driver.createOdbcPool_blames (by decide)
      refine .wrapping hPool fun _ _ hThrown => .handled ?_
      exact .ofThrown (by decide) (fun _ => rfl)
        (fun _ => rfl) hThrown

/- Trying a pool fails only with what a driver raised. -/
theorem tryPool_blames
    (engine : Engine)
    (pool : Nat) :
    Blames (Thrown trialCalls) (tryPool engine pool) := by
  unfold tryPool
  cases engine with
  | postgres =>
      refine .bind (Driver.openPool_blames (by decide))
        fun _ => ?_
      refine .bind (Driver.acquire_blames (by decide))
        fun _ => ?_
      exact .discard (Driver.execute_blames (by decide))
  | sqlServer =>
      refine .bind (Driver.acquire_blames (by decide))
        fun _ => ?_
      exact .discard (Driver.execute_blames (by decide))

/- Closing a pool in order to fail then: the failure is the
   one meant, unless closing meets another. -/
theorem releaseThenFail_raises
    (engine : Engine)
    (pool : Nat)
    (e : Failure)
    (s : Session)
    (w : World) :
    let out :=
      (Driver.releasePool engine pool >>= fun _ =>
        (Act.fail e : Act Session Unit)).run s w
    ∃ more e',
      out.result = .error e' ∧
        out.world.raised = w.raised ++ more ∧
          ((more = [] ∧ e' = e) ∨
            Thrown releaseCalls more e') := by
  intro out
  have hRelease :
      Blames (Thrown releaseCalls)
        (Driver.releasePool engine pool :
          Act Session Unit) :=
    Driver.releasePool_blames (by decide) (by decide)
  have hClose := hRelease s w
  cases hReleased :
      ((Driver.releasePool engine pool).run s w).result with
  | ok a =>
      have hNone := hClose.raised_of_ok hReleased
      simp only [out, Act.run_bind_of_ok hReleased,
        Act.run_fail]
      refine ⟨[], e, rfl, ?_, .inl ⟨rfl, rfl⟩⟩
      rw [hNone, List.append_nil]
  | error e' =>
      rcases hClose.exists_of_error hReleased with
        ⟨more, hMore, hClosed⟩
      simp only [out, Act.run_bind_of_error hReleased]
      exact ⟨more, e', rfl, hMore, .inr hClosed⟩

/-
  Trying a pool and closing it on failure.  What the trial
  met is wrapped, unless closing meets a failure too: that
  one is raised in its place.
-/
theorem tryOrRelease_blames
    (engine : Engine)
    (pool : Nat) :
    Blames OpeningBlame
      (tryOrRelease engine pool) := by
  refine .rescue (tryPool_blames engine pool) ?_ ?_
  · rintro raised e ⟨hCall, e⟩ hEnds
    exact .handled (.ending hEnds)
  · rintro raised e ⟨hCall, e⟩ hEnds s w
    rcases releaseThenFail_raises engine pool
        (.openingFailed engine e) s w with
      ⟨more, e', hError, hRaised, hCase⟩
    refine ⟨more, e', hError, hRaised, ?_⟩
    rcases hCase with ⟨rfl, rfl⟩ | hClosing
    · refine .handled (.wrapped ?_ hEnds rfl rfl)
      intro hEq
      rw [hEq] at hCall
      revert hCall
      decide
    · cases hClosing with
      | mk hClosing e' => exact .replaced hCall hEnds hClosing

theorem connect_blames (config : ConnectionConfig) :
    Blames OpeningBlame (connect config) := by
  unfold connect
  refine .state_bind fun session => ?_
  refine .bind (makePool_blames _ _ _) fun pool => ?_
  refine .bind (tryOrRelease_blames _ pool) fun _ => ?_
  exact .bind (.update _) fun _ => .log _ _

theorem disconnect_blames :
    Blames (Handled .connection) disconnect := by
  unfold disconnect
  refine .state_bind fun session => ?_
  refine .bind (.update _) fun _ => ?_
  cases session.pool with
  | none => exact .pure _
  | some pool =>
      have hRelease :
          Blames (Thrown releaseCalls) (do
            Driver.releasePool session.engine pool
            Act.log .info
              (session.engine.title ++
                " connection pool closed") :
            Act Session Unit) :=
        .bind (Driver.releasePool_blames (by decide)
          (by decide)) fun _ => .log _ _
      exact .wrapping hRelease fun _ _ =>
        .ofThrown (by decide) (fun _ => rfl) fun _ => rfl

theorem reopen_blames (database : String) :
    Blames OpeningBlame (reopen database) := by
  unfold reopen
  refine .state_bind fun session => ?_
  cases session.config with
  | none => exact .fail (.handled (.own _))
  | some config =>
      refine .bind ?_ fun _ => ?_
      · exact disconnect_blames.mono fun _ _ => .handled
      · exact .bind (connect_blames _) fun _ => .log _ _

end Session

end SqlGateway
