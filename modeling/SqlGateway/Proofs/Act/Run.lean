import SqlGateway.Driver.Act

/-
  This file shows what running an action leaves, form by
  form, so that nothing else has to open the definitions of
  the forms.

  Main declarations:
    * `run_bind_of_ok` and `run_bind_of_error`
    * `run_discard`
    * `Failure.wrappedBy` and `run_wrapping`
    * `run_emit` and `run_raise`
-/

namespace SqlGateway

------------------------------------------------------------
-- Failures and Calls
------------------------------------------------------------

/- A failure put into a larger one, unless it ends the
   run. -/
def Failure.wrappedBy
    (wrap : Failure → Failure)
    (e : Failure) : Failure :=
  if e.endsRun then e else wrap e

/- A failure that ends the run is never put into another. -/
theorem Failure.wrappedBy_of_endsRun
    (wrap : Failure → Failure)
    {e : Failure}
    (hEnds : e.endsRun = true) :
    e.wrappedBy wrap = e := by
  unfold Failure.wrappedBy
  rw [if_pos hEnds]

theorem Failure.wrappedBy_of_not_endsRun
    (wrap : Failure → Failure)
    {e : Failure}
    (hEnds : e.endsRun = false) :
    e.wrappedBy wrap = wrap e := by
  unfold Failure.wrappedBy
  rw [if_neg (by simp [hEnds])]

namespace World

/- The world after one more call of a driver. -/
def emitted
    (w : World)
    (event : Event) : World :=
  { w with events := w.events ++ [event] }

@[simp]
theorem emitted_script
    (w : World)
    (event : Event) :
    (w.emitted event).script = w.script :=
  rfl

@[simp]
theorem emitted_nextPool
    (w : World)
    (event : Event) :
    (w.emitted event).nextPool = w.nextPool :=
  rfl

/- The world after a call of a driver failed. -/
def raising
    (w : World)
    (call : DriverCall)
    (e : Failure) : World :=
  { w with raised := w.raised ++ [⟨call, e⟩] }

end World

namespace Act

variable {σ τ α β : Type}

------------------------------------------------------------
-- Sequences and States
------------------------------------------------------------

@[simp]
theorem run_pure
    (a : α)
    (s : σ)
    (w : World) :
    (pure a : Act σ α).run s w = ⟨.ok a, s, w⟩ :=
  rfl

@[simp]
theorem run_fail
    (e : Failure)
    (s : σ)
    (w : World) :
    (fail e : Act σ α).run s w = ⟨.error e, s, w⟩ :=
  rfl

/- After a success the next action starts where the first
   one ended. -/
theorem run_bind_of_ok
    {act : Act σ α}
    {next : α → Act σ β}
    {s : σ}
    {w : World}
    {a : α}
    (hOk : (act.run s w).result = .ok a) :
    (act >>= next).run s w =
      (next a).run (act.run s w).state
        (act.run s w).world := by
  change Act.bind act next s w = _
  unfold run at hOk
  simp only [Act.bind, hOk]
  rfl

theorem run_bind_of_error
    {act : Act σ α}
    {next : α → Act σ β}
    {s : σ}
    {w : World}
    {e : Failure}
    (hError : (act.run s w).result = .error e) :
    (act >>= next).run s w =
      ⟨.error e, (act.run s w).state,
        (act.run s w).world⟩ := by
  change Act.bind act next s w = _
  unfold run at hError
  simp only [Act.bind, hError]
  rfl

theorem exists_of_run_bind_ok
    {act : Act σ α}
    {next : α → Act σ β}
    {s : σ}
    {w : World}
    {b : β}
    (hOk : ((act >>= next).run s w).result = .ok b) :
    ∃ a,
      (act.run s w).result = .ok a ∧
        ((next a).run (act.run s w).state
          (act.run s w).world).result = .ok b := by
  cases hFirst : (act.run s w).result with
  | ok a =>
      rw [run_bind_of_ok hFirst] at hOk
      exact ⟨a, rfl, hOk⟩
  | error e =>
      rw [run_bind_of_error hFirst] at hOk
      cases hOk

@[simp]
theorem run_discard
    (act : Act σ α)
    (s : σ)
    (w : World) :
    (discard act).run s w =
      ⟨(act.run s w).result.map fun _ => PUnit.unit,
        (act.run s w).state, (act.run s w).world⟩ := by
  change (act >>= fun _ => pure PUnit.unit).run s w = _
  cases hResult : (act.run s w).result with
  | ok a =>
      rw [run_bind_of_ok hResult]
      rfl
  | error e =>
      rw [run_bind_of_error hResult]
      rfl

@[simp]
theorem run_ofExcept
    (result : Except Failure α)
    (s : σ)
    (w : World) :
    (ofExcept result).run s w = ⟨result, s, w⟩ := by
  cases result with
  | ok a => rfl
  | error e => rfl

@[simp]
theorem run_ofExcept_ok_bind
    (a : α)
    (next : α → Act σ β)
    (s : σ)
    (w : World) :
    (ofExcept (.ok a) >>= next).run s w =
      (next a).run s w :=
  rfl

@[simp]
theorem run_ofExcept_error_bind
    (e : Failure)
    (next : α → Act σ β)
    (s : σ)
    (w : World) :
    (ofExcept (.error e) >>= next).run s w =
      ⟨.error e, s, w⟩ :=
  rfl

@[simp]
theorem run_state_bind
    (next : σ → Act σ β)
    (s : σ)
    (w : World) :
    (state >>= next).run s w = (next s).run s w :=
  rfl

@[simp]
theorem run_update
    (f : σ → σ)
    (s : σ)
    (w : World) :
    (update f).run s w = ⟨.ok (), f s, w⟩ :=
  rfl

@[simp]
theorem run_update_bind
    (f : σ → σ)
    (next : Unit → Act σ β)
    (s : σ)
    (w : World) :
    (update f >>= next).run s w = (next ()).run (f s) w :=
  rfl

@[simp]
theorem run_within
    (part : τ)
    (put : τ → σ → σ)
    (act : Act τ α)
    (s : σ)
    (w : World) :
    (within part put act).run s w =
      ⟨(act.run part w).result,
        put (act.run part w).state s,
        (act.run part w).world⟩ :=
  rfl

@[simp]
theorem run_apart
    (own : τ)
    (act : Act τ α)
    (s : σ)
    (w : World) :
    (apart own act).run s w =
      ⟨(act.run own w).result.map fun a =>
          (a, (act.run own w).state),
        s, (act.run own w).world⟩ :=
  rfl

theorem run_apart_bind_of_ok
    {own : τ}
    {act : Act τ α}
    {next : α × τ → Act σ β}
    {s : σ}
    {w : World}
    {a : α}
    (hOk : (act.run own w).result = .ok a) :
    (apart own act >>= next).run s w =
      (next (a, (act.run own w).state)).run s
        (act.run own w).world := by
  have hApart := run_apart own act s w
  rw [hOk] at hApart
  rw [run_bind_of_ok (by rw [hApart]; rfl), hApart]

/- Nothing follows a failure on a state of its own. -/
theorem run_apart_bind_of_error
    {own : τ}
    {act : Act τ α}
    {next : α × τ → Act σ β}
    {s : σ}
    {w : World}
    {e : Failure}
    (hError : (act.run own w).result = .error e) :
    (apart own act >>= next).run s w =
      ⟨.error e, s, (act.run own w).world⟩ := by
  have hApart := run_apart own act s w
  rw [hError] at hApart
  rw [run_bind_of_error (by rw [hApart]; rfl), hApart]

------------------------------------------------------------
-- Failures
------------------------------------------------------------

@[simp]
theorem run_attempt
    (act : Act σ α)
    (s : σ)
    (w : World) :
    (attempt act).run s w =
      ⟨.ok (act.run s w).result, (act.run s w).state,
        (act.run s w).world⟩ :=
  rfl

@[simp]
theorem run_attempt_bind
    (act : Act σ α)
    (next : Except Failure α → Act σ β)
    (s : σ)
    (w : World) :
    (attempt act >>= next).run s w =
      (next (act.run s w).result).run (act.run s w).state
        (act.run s w).world :=
  rfl

theorem run_rescue_of_ok
    {act : Act σ α}
    {handle : Failure → Act σ α}
    {s : σ}
    {w : World}
    {a : α}
    (hOk : (act.run s w).result = .ok a) :
    (rescue act handle).run s w = act.run s w := by
  unfold run at hOk
  simp only [run, rescue, hOk]

theorem run_rescue_of_error
    {act : Act σ α}
    {handle : Failure → Act σ α}
    {s : σ}
    {w : World}
    {e : Failure}
    (hError : (act.run s w).result = .error e) :
    (rescue act handle).run s w =
      if e.endsRun then
        act.run s w
      else
        (handle e).run (act.run s w).state
          (act.run s w).world := by
  unfold run at hError
  simp only [run, rescue, hError]

@[simp]
theorem run_wrapping
    (wrap : Failure → Failure)
    (act : Act σ α)
    (s : σ)
    (w : World) :
    (wrapping wrap act).run s w =
      ⟨(act.run s w).result.mapError
          (Failure.wrappedBy wrap),
        (act.run s w).state, (act.run s w).world⟩ := by
  unfold wrapping
  cases hOut : act.run s w with
  | mk result state world =>
      cases result with
      | ok a =>
          rw [run_rescue_of_ok (by rw [hOut]), hOut]
          rfl
      | error e =>
          rw [run_rescue_of_error (by rw [hOut]), hOut]
          change _ =
            (⟨.error (e.wrappedBy wrap), state, world⟩ :
              Outcome σ α)
          cases hEnds : e.endsRun with
          | true =>
              rw [Failure.wrappedBy_of_endsRun wrap hEnds]
              rfl
          | false =>
              rw [Failure.wrappedBy_of_not_endsRun wrap hEnds]
              rfl

theorem run_wrapping_bind_of_ok
    {wrap : Failure → Failure}
    {act : Act σ α}
    {next : α → Act σ β}
    {s : σ}
    {w : World}
    {a : α}
    (hOk : (act.run s w).result = .ok a) :
    (wrapping wrap act >>= next).run s w =
      (next a).run (act.run s w).state
        (act.run s w).world := by
  have hWrapped := run_wrapping wrap act s w
  rw [hOk] at hWrapped
  rw [run_bind_of_ok (by rw [hWrapped]; rfl), hWrapped]

theorem run_wrapping_bind_of_error
    {wrap : Failure → Failure}
    {act : Act σ α}
    {next : α → Act σ β}
    {s : σ}
    {w : World}
    {e : Failure}
    (hError : (act.run s w).result = .error e) :
    (wrapping wrap act >>= next).run s w =
      ⟨.error (e.wrappedBy wrap), (act.run s w).state,
        (act.run s w).world⟩ := by
  have hWrapped := run_wrapping wrap act s w
  rw [hError] at hWrapped
  rw [run_bind_of_error (by rw [hWrapped]; rfl), hWrapped]

------------------------------------------------------------
-- Records and Scripts
------------------------------------------------------------

@[simp]
theorem run_emit
    (event : Event)
    (s : σ)
    (w : World) :
    (emit event).run s w = ⟨.ok (), s, w.emitted event⟩ :=
  rfl

@[simp]
theorem run_emit_bind
    (event : Event)
    (next : Unit → Act σ β)
    (s : σ)
    (w : World) :
    (emit event >>= next).run s w =
      (next ()).run s (w.emitted event) :=
  rfl

@[simp]
theorem run_script_bind
    (next : Script → Act σ β)
    (s : σ)
    (w : World) :
    (script >>= next).run s w = (next w.script).run s w :=
  rfl

@[simp]
theorem run_newPool_bind
    (next : Nat → Act σ β)
    (s : σ)
    (w : World) :
    (newPool >>= next).run s w =
      (next w.nextPool).run s
        { w with nextPool := w.nextPool + 1 } :=
  rfl

@[simp]
theorem run_raise
    (call : DriverCall)
    (e : Failure)
    (s : σ)
    (w : World) :
    (raise call e : Act σ α).run s w =
      ⟨.error e, s, w.raising call e⟩ :=
  rfl

@[simp]
theorem run_failIf_none
    (call : DriverCall)
    (s : σ)
    (w : World) :
    (failIf call none).run s w = ⟨.ok (), s, w⟩ :=
  rfl

@[simp]
theorem run_failIf_some
    (call : DriverCall)
    (e : Failure)
    (s : σ)
    (w : World) :
    (failIf call (some e)).run s w =
      ⟨.error e, s, w.raising call e⟩ :=
  rfl

@[simp]
theorem run_failIf_none_bind
    (call : DriverCall)
    (next : Unit → Act σ β)
    (s : σ)
    (w : World) :
    (failIf call none >>= next).run s w =
      (next ()).run s w :=
  rfl

@[simp]
theorem run_failIf_some_bind
    (call : DriverCall)
    (e : Failure)
    (next : Unit → Act σ β)
    (s : σ)
    (w : World) :
    (failIf call (some e) >>= next).run s w =
      ⟨.error e, s, w.raising call e⟩ :=
  rfl

@[simp]
theorem run_log
    (level : LogLevel)
    (message : String)
    (s : σ)
    (w : World) :
    (log level message).run s w =
      ⟨.ok (), s,
        { w with logs := w.logs ++ [⟨level, message⟩] }⟩ :=
  rfl

@[simp]
theorem run_log_bind
    (level : LogLevel)
    (message : String)
    (next : Unit → Act σ β)
    (s : σ)
    (w : World) :
    (log level message >>= next).run s w =
      (next ()).run s
        { w with logs := w.logs ++ [⟨level, message⟩] } :=
  rfl

end Act

end SqlGateway
