import SqlGateway.Connections
import SqlGateway.Proofs.Session.Blames

/-
  This file tells for the holder of the session how the
  failures of its operations relate to what the drivers
  raised: as for the session itself.

  Key definitions include:
    * `OperationBlame`

  Main declarations:
    * `Connections.disconnect_blames`
    * `Connections.connect_blames`
    * `Connections.active_blames`
-/

namespace SqlGateway

------------------------------------------------------------
-- Blame
------------------------------------------------------------

/- A failure is one of opening a session, or of sending
   statements. -/
def OperationBlame
    (raised : List Raised)
    (e : Failure) : Prop :=
  OpeningBlame raised e ∨ Handled .query raised e

namespace OperationBlame

theorem own (e : Failure) : OperationBlame [] e :=
  .inr (.own e)

theorem ofOpening
    {raised : List Raised}
    {e : Failure}
    (hOpening : OpeningBlame raised e) :
    OperationBlame raised e :=
  .inl hOpening

theorem ofClosing
    {raised : List Raised}
    {e : Failure}
    (hHandled : Handled .connection raised e) :
    OperationBlame raised e :=
  .inl (.handled hHandled)

theorem ofQuery
    {raised : List Raised}
    {e : Failure}
    (hHandled : Handled .query raised e) :
    OperationBlame raised e :=
  .inr hHandled

/-
  A failure that is wrapped has the first that was raised as
  its cause, and a code of its own; any other escapes.
-/
theorem coded_or_escapes
    {first : Raised}
    {rest : List Raised}
    {e : Failure}
    (hBlame : OperationBlame (first :: rest) e) :
    (FailedOnce first rest ∧
        e.cause? = some first.failure ∧
        (e.code? = some "CONNECTION_ERROR" ∨
          e.code? = some "QUERY_ERROR")) ∨
      Escapes first rest e := by
  rcases hBlame with hOpening | hQuery
  · rcases hOpening.wrapped_or_escapes with
      ⟨hOnce, hCategory, hCause⟩ | hEscapes
    · refine .inl ⟨hOnce, hCause, .inl ?_⟩
      rw [Failure.code?, hCategory]
      rfl
    · exact .inr hEscapes
  · rcases hQuery.wrapped_or_escapes with
      ⟨hOnce, hCategory, hCause⟩ | hEscapes
    · refine .inl ⟨hOnce, hCause, .inr ?_⟩
      rw [Failure.code?, hCategory]
      rfl
    · exact .inr hEscapes

end OperationBlame

open Act (Blames)

/- Switching is opening on PostgreSQL, and sending a
   statement on SQL Server. -/
theorem Session.switchDatabase_blames (database : String) :
    Blames OperationBlame
      (Session.switchDatabase database) := by
  unfold Session.switchDatabase
  refine .bind (requireConnected_blames .own) fun _ => ?_
  refine .state_bind fun session => ?_
  cases session.engine with
  | sqlServer =>
      exact (switchInPlace_blames database).mono
        fun _ _ => .ofQuery
  | postgres =>
      exact (reopen_blames database).mono
        fun _ _ => .ofOpening

namespace Connections

variable {blame : List Raised → Failure → Prop}

------------------------------------------------------------
-- Operations
------------------------------------------------------------

/- A failure of the teardown that is handled stays so. -/
theorem teardownFailure_handled
    {raised : List Raised}
    {e : Failure}
    (hHandled : Handled .connection raised e) :
    Handled .connection raised (teardownFailure e) := by
  cases hHandled with
  | own e => exact .own _
  | wrapped hCall hEnds hCategory hCause =>
      have hSame : teardownFailure e = e := by
        simp [teardownFailure, Failure.isConnection,
          hCategory]
      rw [hSame]
      exact .wrapped hCall hEnds hCategory hCause
  | ending hEnds =>
      have hSame : teardownFailure e = e := by
        simp [teardownFailure, hEnds]
      rw [hSame]
      exact .ending hEnds

theorem disconnect_blames :
    Blames (Handled .connection) disconnect := by
  unfold disconnect
  refine .state_bind fun c => ?_
  cases c.session with
  | none => exact .pure _
  | some session =>
      intro c w
      have hTear := Session.disconnect_blames session w
      simp only [Act.run_update_bind, Act.run_attempt_bind,
        Act.run_apart, Act.run_log_bind]
      cases hTorn :
          (Session.disconnect.run session w).result with
      | ok a => exact .ofOk rfl (hTear.raised_of_ok hTorn)
      | error e =>
          rcases hTear.exists_of_error hTorn with
            ⟨raised, hRaised, hHandled⟩
          exact .ofError rfl hRaised
            (teardownFailure_handled hHandled)

theorem connect_blames (config : ConnectionConfig) :
    Blames OpeningBlame (connect config) := by
  unfold connect
  refine .bind ?_ fun _ => ?_
  · exact disconnect_blames.mono fun _ _ => .handled
  · refine .state_bind fun c => ?_
    refine .bind (.ofExcept fun e _ => .handled (.own e))
      fun fresh => ?_
    refine .bind (.apart (Session.connect_blames config))
      fun opened => ?_
    exact .update _

theorem active_blames
    {α : Type}
    {operation : Act Session α}
    (hOwn : ∀ e, blame [] e)
    (hOperation : Blames blame operation) :
    Blames blame (active operation) := by
  unfold active
  refine .bind ?_ fun session => .within hOperation
  unfold activeSession
  refine .state_bind fun c => ?_
  cases c.session with
  | none => exact .fail (hOwn _)
  | some session =>
      exact .ite (.pure _) (.fail (hOwn _))

end Connections

end SqlGateway
