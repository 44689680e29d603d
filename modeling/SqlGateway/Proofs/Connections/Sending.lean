import SqlGateway.Proofs.Connections.Lifecycle
import SqlGateway.Proofs.Session.Sending

/-
  This file shows which statements the holder of the session
  sends, and that the settings it was made with stay.

  Main declarations:
    * `Connections.disconnect_keeps`
    * `Connections.disconnect_sends`
    * `Connections.connect_sends`
    * `Connections.active_sends`
-/

namespace SqlGateway

open Act (Keeps)

variable {kind : String → List Value → Prop}

namespace Connections

variable {settings : Settings}

/- Letting the session go releases its pool, and no more. -/
theorem disconnect_keeps
    {inv : Connections → Prop}
    {progress : Progress}
    (hReleases : progress.Releases)
    (hCleared : ∀ c, inv c → inv c.cleared) :
    Keeps inv progress disconnect := by
  unfold disconnect
  refine .state_bind fun c _ => ?_
  cases c.session with
  | none => exact .pure ()
  | some session =>
      have hTeardown :
          Keeps (fun _ => True) progress Session.disconnect :=
        Session.disconnect_keeps hReleases
          fun _ _ => trivial
      refine .bind (.update hCleared) fun _ => ?_
      refine .bind (.attempt ?_) fun result => ?_
      · exact .apart trivial hTeardown
      · refine .bind (.log _ _) fun _ => ?_
        cases result with
        | ok _ => exact .pure ()
        | error e => exact .fail _

theorem disconnect_sends :
    Keeps (fun c => c.settings = settings)
      (Progress.sending kind) disconnect :=
  disconnect_keeps Progress.sending_releases
    fun _ hSettings => hSettings

theorem connect_sends
    (hUse :
      ∀ statement, Session.IsUse statement →
        kind statement [])
    (hProbe : kind CatalogQuery.probe [])
    (config : ConnectionConfig) :
    Keeps (fun c => c.settings = settings)
      (Progress.sending kind) (connect config) := by
  unfold connect
  refine .bind disconnect_sends fun _ => ?_
  refine .state_bind fun c _ => ?_
  refine .bind (.ofExcept _) fun fresh => ?_
  refine .bind ?_ fun opened => ?_
  · exact .apart trivial
      (Session.connect_sends hUse hProbe config)
  · exact .update fun _ hSettings => hSettings

/- An operation on the session sends what it sends. -/
theorem active_sends
    {α : Type}
    {operation : Act Session α}
    (hOperation :
      Keeps (fun _ => True) (Progress.sending kind)
        operation) :
    Keeps (fun c => c.settings = settings)
      (Progress.sending kind) (active operation) := by
  have hSession :
      Keeps (fun c => c.settings = settings)
        (Progress.sending kind) activeSession := by
    unfold activeSession
    refine .state_bind fun c _ => ?_
    cases c.session with
    | none => exact .fail _
    | some session => exact .ite (.pure _) (.fail _)
  unfold active
  refine .bind hSession fun session => ?_
  exact .within trivial
    (fun _ _ _ hSettings => hSettings) hOperation

end Connections

end SqlGateway
