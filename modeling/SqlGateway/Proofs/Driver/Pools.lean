import SqlGateway.Proofs.Driver.Calls
import SqlGateway.Proofs.Driver.Ledger
import SqlGateway.Proofs.Driver.Run

/-
  This file follows the pool that an action holds: from a
  world in which one pool is held, or none, an action leads
  to a later one.  All other calls leave the pool alone.

  Key definitions include:
    * `WaitsAfterClose`
    * `World.Leads` and `World.Strands`
    * `Progress.poolless`

  Main declarations:
    * `createPostgresPool_leads`, `createOdbcPool_leads`
    * `releasePool_leads`
-/

namespace SqlGateway

------------------------------------------------------------
-- Waiting
------------------------------------------------------------

/- Each ODBC pool that is closed is waited for at once,
   unless closing it raises. -/
def WaitsAfterClose
    (closeError : PoolFailures)
    (events : List Event) : Prop :=
  ∀ (before after : List Event) (pool : Nat),
    events = before ++ .closePool .sqlServer pool :: after →
      closeError pool = none →
        after.head? = some (.waitClosed pool)

namespace WaitsAfterClose

variable {closeError : PoolFailures}

theorem nil : WaitsAfterClose closeError [] := by
  intro before after pool hSplit
  simp at hSplit

theorem singleton
    {event : Event}
    (hOther : ∀ pool, event ≠ .closePool .sqlServer pool) :
    WaitsAfterClose closeError [event] := by
  intro before after pool hSplit
  rcases List.singleton_eq_append_iff.mp hSplit with
    ⟨-, hEq⟩ | ⟨-, hEq⟩
  · exact absurd (List.cons_eq_cons.mp hEq).1.symm
      (hOther pool)
  · simp at hEq

theorem raised
    {engine : Engine}
    {pool : Nat}
    {e : Failure}
    (hRaises : closeError pool = some e) :
    WaitsAfterClose closeError [.closePool engine pool] := by
  intro before after other hSplit hNone
  rcases List.singleton_eq_append_iff.mp hSplit with
    ⟨-, hEq⟩ | ⟨-, hEq⟩
  · have hSame := (List.cons_eq_cons.mp hEq).1
    rw [(Event.closePool.inj hSame).2, hRaises] at hNone
    cases hNone
  · simp at hEq

theorem closed (pool : Nat) :
    WaitsAfterClose closeError
      [.closePool .sqlServer pool, .waitClosed pool] := by
  intro before after other hSplit _
  rcases before with - | ⟨first, - | ⟨second, before⟩⟩
  · simp only [List.nil_append, List.cons.injEq,
      Event.closePool.injEq, true_and] at hSplit
    rw [← hSplit.2, hSplit.1]
    rfl
  · simp at hSplit
  · simp at hSplit

theorem append
    {events more : List Event}
    (hFirst : WaitsAfterClose closeError events)
    (hSecond : WaitsAfterClose closeError more) :
    WaitsAfterClose closeError (events ++ more) := by
  intro before after pool hSplit hNone
  rcases List.append_eq_append_iff.mp hSplit with
    ⟨middle, -, hMore⟩ | ⟨middle, hEvents, hAfter⟩
  · exact hSecond middle after pool hMore hNone
  · cases middle with
    | nil => exact hSecond [] after pool hAfter.symm hNone
    | cons event middle =>
        rw [List.cons_append] at hAfter
        rcases List.cons_eq_cons.mp hAfter with ⟨hSame, hRest⟩
        rw [← hSame] at hEvents
        have hHead := hFirst before middle pool hEvents hNone
        rw [hRest]
        cases middle with
        | nil => simp at hHead
        | cons next middle => simpa using hHead

end WaitsAfterClose

------------------------------------------------------------
-- Worlds and the Pool That Is Held
------------------------------------------------------------

/-
  From a world in which a pool is held, or none, the calls
  of drivers led to a later world in which another is held,
  or none.  No pool was made or closed but in turn, and a
  closed ODBC pool was waited for, unless closing raised.
-/
def World.Leads
    (w : World)
    (held : Option Nat)
    (w' : World)
    (held' : Option Nat) : Prop :=
  ∃ events : List Event,
    w'.events = w.events ++ events ∧
      (∀ lost : List Nat,
        Ledger.Steps ⟨lost, held, w.nextPool⟩ events
          ⟨lost, held', w'.nextPool⟩) ∧
      WaitsAfterClose w.script.closeError events ∧
      w.script.Leaves w'.script

namespace World.Leads

theorem ofSameCalls
    {w w' : World}
    (hSame : w.SameCalls w')
    (held : Option Nat) :
    w.Leads held w' held := by
  refine ⟨[], ?_, ?_, ?_, hSame.script⟩
  · rw [List.append_nil]
    exact hSame.events
  · intro lost
    rw [hSame.nextPool]
    exact .nil _
  · exact .nil

theorem trans
    {w w' w'' : World}
    {held held' held'' : Option Nat}
    (hFirst : w.Leads held w' held')
    (hSecond : w'.Leads held' w'' held'') :
    w.Leads held w'' held'' := by
  rcases hFirst with
    ⟨events, hEvents, hSteps, hWaits, hScript⟩
  rcases hSecond with ⟨more, hMore, hOn, hLater, hKept⟩
  refine ⟨events ++ more, ?_, ?_, ?_, ?_⟩
  · rw [hMore, hEvents, List.append_assoc]
  · intro lost
    exact (hSteps lost).append (hOn lost)
  · rw [hScript.closeError] at hLater
    exact hWaits.append hLater
  · exact hScript.trans hKept

theorem nextPool_le
    {w w' : World}
    {held held' : Option Nat}
    (hLeads : w.Leads held w' held') :
    w.nextPool ≤ w'.nextPool := by
  rcases hLeads with ⟨events, -, hSteps, -⟩
  exact (hSteps []).next_le

theorem script
    {w w' : World}
    {held held' : Option Nat}
    (hLeads : w.Leads held w' held') :
    w.script.Leaves w'.script := by
  rcases hLeads with ⟨events, -, -, -, hScript⟩
  exact hScript

theorem emitted
    {w : World}
    {event : Event}
    {held held' : Option Nat}
    (hStep : ∀ lost : List Nat,
      Ledger.Step ⟨lost, held, w.nextPool⟩ event
        ⟨lost, held', w.nextPool⟩)
    (hWaits : WaitsAfterClose w.script.closeError [event]) :
    w.Leads held (w.emitted event) held' :=
  ⟨[event], rfl, fun lost => (hStep lost).steps, hWaits,
    .refl _⟩

end World.Leads

/-
  A failure that the script tells of ended the run while a
  new pool was tried, and the pool was left open.
-/
structure World.Strands
    (w : World)
    (held : Option Nat)
    (w' : World)
    (e : Failure) : Prop where
  endsRun : e.endsRun = true
  raises : w.script.Raises e
  leads :
    ∃ pool, w.nextPool ≤ pool ∧ w.Leads held w' (some pool)

namespace World.Strands

variable {w w' w'' : World}
variable {held : Option Nat}
variable {e : Failure}

theorem after
    (hStrands : w'.Strands none w'' e)
    (hLeads : w.Leads held w' none) :
    w.Strands held w'' e := by
  rcases hStrands with ⟨hEnds, hRaises, pool, hNew, hOpen⟩
  have hLater := Nat.le_trans hLeads.nextPool_le hNew
  exact
    ⟨hEnds, .of_leaves hLeads.script hRaises, pool, hLater,
      hLeads.trans hOpen⟩

/- No failure of an ordinary script strands a pool. -/
theorem not_ordinary
    (hStrands : w.Strands held w' e) :
    ¬ w.script.Ordinary := by
  intro hOrdinary
  have hGoesOn := hOrdinary e hStrands.raises
  rw [hStrands.endsRun] at hGoesOn
  cases hGoesOn

end World.Strands

/- The calls neither made nor closed a pool. -/
def Progress.poolless : Progress where
  Rel w w' := ∀ held : Option Nat, w.Leads held w' held
  ofSameCalls hSame held := .ofSameCalls hSame held
  trans hFirst hSecond held :=
    (hFirst held).trans (hSecond held)

theorem Progress.poolless_admits
    {event : Event}
    (hMade : event.made? = none)
    (hClosed : event.closed? = none) :
    Progress.poolless.Admits event := by
  intro w held
  refine .emitted (fun lost => .other hMade hClosed) ?_
  refine .singleton fun pool hEq => ?_
  rw [hEq] at hClosed
  simp [Event.closed?] at hClosed

namespace Driver

open Act (Keeps)

variable {σ : Type}

------------------------------------------------------------
-- Making and Releasing Pools
------------------------------------------------------------

/-
  Making a PostgreSQL pool fails without one, or holds the
  next one.
-/
theorem createPostgresPool_leads
    (connectionString : String)
    (options : PostgresPoolOptions)
    (s : σ)
    (w : World) :
    let out :=
      (createPostgresPool connectionString options).run s w
    out.state = s ∧
      ((∃ e, out.result = .error e ∧
          w.Leads none out.world none) ∨
        (out.result = .ok w.nextPool ∧
          w.Leads none out.world (some w.nextPool))) := by
  intro out
  have hOut : out = _ :=
    run_createPostgresPool connectionString options s w
  by_cases hSmall : options.maxSize < options.minSize
  · rw [hOut, if_pos hSmall]
    refine ⟨rfl, .inl ⟨_, rfl, ?_⟩⟩
    exact .ofSameCalls ⟨rfl, rfl, .refl _⟩ none
  · rw [if_neg hSmall] at hOut
    cases hScript : w.script.constructError with
    | some e =>
        rw [hOut, hScript]
        refine ⟨rfl, .inl ⟨e, rfl, ?_⟩⟩
        exact .ofSameCalls ⟨rfl, rfl, .refl _⟩ none
    | none =>
        rw [hOut, hScript]
        refine ⟨rfl, .inr ⟨rfl, [_], rfl, ?_, ?_, .refl _⟩⟩
        · intro lost
          exact (Ledger.Step.make rfl).steps
        · exact .singleton (by simp)

/- Making an ODBC pool fails without one, or holds the next
   one. -/
theorem createOdbcPool_leads
    (connectionString : List Text.Code)
    (options : OdbcPoolOptions)
    (s : σ)
    (w : World) :
    let out :=
      (createOdbcPool connectionString options).run s w
    out.state = s ∧
      ((∃ e, out.result = .error e ∧
          w.Leads none out.world none) ∨
        (out.result = .ok w.nextPool ∧
          w.Leads none out.world (some w.nextPool))) := by
  intro out
  have hAsked :
      w.Leads none
        (w.emitted (.createOdbcPool connectionString options))
        none :=
    Progress.poolless_admits rfl rfl w none
  have hOut : out = _ :=
    run_createOdbcPool connectionString options s w
  cases hScript : w.script.createError with
  | some e =>
      rw [hOut, hScript]
      refine ⟨rfl, .inl ⟨e, rfl, ?_⟩⟩
      exact hAsked.trans (.ofSameCalls ⟨rfl, rfl, .refl _⟩ none)
  | none =>
      have hMade :
          w.created connectionString options =
            ({ w.emitted (.createOdbcPool connectionString
                options) with
              nextPool := w.nextPool + 1 } : World).emitted
                (.poolReady w.nextPool
                  options.statementTimeout) := by
        simp [World.created, World.emitted]
      rw [hOut, hScript, hMade]
      refine ⟨rfl, .inr ⟨rfl, hAsked.trans ?_⟩⟩
      refine ⟨[_], rfl, ?_, ?_, .refl _⟩
      · intro lost
        exact (Ledger.Step.make rfl).steps
      · exact .singleton (by simp)

private theorem waitClosed_sameCalls
    (pool : Nat)
    (s : σ)
    (w : World) :
    let out := (waitClosed pool).run s w
    out.state = s ∧
      (w.emitted (.waitClosed pool)).SameCalls out.world := by
  intro out
  cases hScript : w.script.waitClosedError pool with
  | some e =>
      have hOut :
          out = ⟨.error e, s,
            (w.emitted (.waitClosed pool)).raising
              .waitClosed e⟩ := by
        simp [out, waitClosed, hScript]
      rw [hOut]
      exact ⟨rfl, rfl, rfl, .refl _⟩
  | none =>
      have hOut :
          out =
            ⟨.ok (), s, w.emitted (.waitClosed pool)⟩ := by
        simp [out, waitClosed, hScript]
      rw [hOut]
      exact ⟨rfl, rfl, rfl, .refl _⟩

/-
  Releasing the pool that is held leaves none, even if that
  fails; an ODBC pool is waited for unless closing it
  raised.
-/
theorem releasePool_leads
    (engine : Engine)
    (pool : Nat)
    (s : σ)
    (w : World) :
    let out := (releasePool engine pool).run s w
    out.state = s ∧
      w.Leads (some pool) out.world none := by
  intro out
  cases hScript : w.script.closeError pool with
  | some e =>
      have hClose :
          (closePool engine pool).run s w = ⟨.error e, s,
            (w.emitted (.closePool engine pool)).raising
              .closePool e⟩ := by
        simp [closePool, hScript]
      simp only [out, releasePool]
      rw [Act.run_bind_of_error (by rw [hClose]), hClose]
      refine ⟨rfl, [_], rfl, ?_, ?_, .refl _⟩
      · intro lost
        exact (Ledger.Step.close rfl).steps
      · exact .raised hScript
  | none =>
      have hClose :
          (closePool engine pool).run s w = ⟨.ok (), s,
            w.emitted (.closePool engine pool)⟩ := by
        simp [closePool, hScript]
      simp only [out, releasePool]
      rw [Act.run_bind_of_ok (by rw [hClose]), hClose]
      cases engine with
      | postgres =>
          refine ⟨rfl, .emitted ?_ ?_⟩
          · intro lost
            exact .close rfl
          · exact .singleton (by simp)
      | sqlServer =>
          rcases waitClosed_sameCalls pool s
              (w.emitted (.closePool .sqlServer pool)) with
            ⟨hState, hSame⟩
          refine ⟨hState, .trans ?_ (.ofSameCalls hSame none)⟩
          refine ⟨[_, _], List.append_assoc _ _ _, ?_, ?_,
            .refl _⟩
          · intro lost
            exact .cons (.close rfl)
              (Ledger.Step.other rfl rfl).steps
          · exact .closed pool

end Driver

end SqlGateway
