import SqlGateway.Connections
import SqlGateway.Proofs.Session.Lifecycle

/-
  This file shows what the holder of the session is left
  with when a session is opened or closed, or an operation
  is run on it.

  Key definitions include:
    * `Connections.Sound`
    * `Connections.activePool`

  Main declarations:
    * `Connections.disconnect_leads`
    * `Connections.connect_leads`
    * `Connections.run_active_of_connected`
    * `Connections.run_active_of_idle`
-/

namespace SqlGateway

namespace Connections

------------------------------------------------------------
-- Holders in Use
------------------------------------------------------------

/- The session that is held, if any, is sound. -/
def Sound (c : Connections) : Prop :=
  ∀ session, c.session = some session → session.Sound

/- The pool of the session that is held, if it is open. -/
def activePool (c : Connections) : Option Nat :=
  match c.session with
  | some session =>
      if session.connected then session.pool else none
  | none => none

theorem sound_of_none
    {c : Connections}
    (hSession : c.session = none) :
    c.Sound := by
  intro session hSome
  rw [hSession] at hSome
  cases hSome

/- A holder of a sound session is sound. -/
theorem sound_of_some
    {c : Connections}
    {session : Session}
    (hSession : c.session = some session)
    (hSound : session.Sound) :
    c.Sound := by
  intro other hSome
  rw [hSession] at hSome
  cases hSome
  exact hSound

/- What is connected holds an open session. -/
theorem exists_of_isConnected
    {c : Connections}
    (hConnected : c.isConnected = true) :
    ∃ session, c.session = some session ∧
      session.connected = true := by
  cases hSession : c.session with
  | none => simp [isConnected, hSession] at hConnected
  | some session =>
      simp only [isConnected, hSession] at hConnected
      exact ⟨session, rfl, hConnected⟩

theorem activePool_of_none
    {c : Connections}
    (hSession : c.session = none) :
    c.activePool = none := by
  simp only [activePool, hSession]

/- A sound session has a pool only while it is open. -/
theorem activePool_of_some
    {c : Connections}
    {session : Session}
    (hSession : c.session = some session)
    (hSound : session.Sound) :
    c.activePool = session.pool := by
  simp only [activePool, hSession]
  have hPool := hSound.pool_isSome
  cases hConnected : session.connected with
  | true => rfl
  | false =>
      rw [hConnected] at hPool
      simp at hPool
      simp [hPool]

/- A sound holder has an active pool while it is connected,
   and only then. -/
theorem activePool_isSome
    {c : Connections}
    (hSound : c.Sound) :
    c.activePool.isSome = c.isConnected := by
  cases hSession : c.session with
  | none =>
      simp only [isConnected, hSession, activePool,
        Option.isSome_none]
  | some session =>
      have hInner := hSound session hSession
      rw [activePool_of_some hSession hInner,
        hInner.pool_isSome]
      simp only [isConnected, hSession]

------------------------------------------------------------
-- Opening and Closing
------------------------------------------------------------

/- Disconnecting leaves nothing held, and no pool, whether it
   fails or not. -/
theorem disconnect_leads
    {c : Connections}
    (hSound : c.Sound)
    (w : World) :
    let out := disconnect.run c w
    out.state.session = none ∧
      out.state.settings = c.settings ∧
      w.Leads c.activePool out.world none := by
  intro out
  cases hSession : c.session with
  | none =>
      simp only [out, disconnect, Act.run_state_bind,
        hSession, activePool]
      exact
        ⟨hSession, rfl, .ofSameCalls ⟨rfl, rfl, .refl _⟩ none⟩
  | some session =>
      have hInner := hSound session hSession
      rcases Session.disconnect_leads session w with
        ⟨-, hLeads⟩
      rw [activePool_of_some hSession hInner]
      simp only [out, disconnect, Act.run_state_bind,
        hSession, Act.run_update_bind, Act.run_attempt_bind,
        Act.run_apart, Act.run_log_bind]
      have hLogged := hLeads.trans
        (.ofSameCalls ⟨rfl, rfl, .refl _⟩ none)
      cases (Session.disconnect.run session w).result with
      | ok a => exact ⟨rfl, rfl, hLogged⟩
      | error e => exact ⟨rfl, rfl, hLogged⟩

/-
  Connecting holds a session with a new pool, or leaves
  nothing held.  A new pool is left open without being held
  only if the failure ends the run.
-/
theorem connect_leads
    {c : Connections}
    (hSound : c.Sound)
    (config : ConnectionConfig)
    (w : World) :
    let out := (connect config).run c w
    out.state.settings = c.settings ∧
      ((out.result = .ok () ∧
          ∃ engine pool,
            Engine.ofName? config.engine = some engine ∧
            out.state.session =
              some (Session.opened
                { engine, settings := c.settings } pool
                (config.databaseFor engine) config) ∧
            out.state.server = config.server ∧
            w.Leads c.activePool out.world (some pool)) ∨
        ∃ e, out.result = .error e ∧
          out.state.session = none ∧
          (w.Leads c.activePool out.world none ∨
            w.Strands c.activePool out.world e)) := by
  intro out
  rcases disconnect_leads hSound w with
    ⟨hNone, hSettings, hLeads⟩
  cases hResult : (disconnect.run c w).result with
  | error e =>
      simp only [out, connect, Act.run_bind_of_error hResult]
      exact
        ⟨hSettings, .inr ⟨e, rfl, hNone, .inl hLeads⟩⟩
  | ok a =>
      simp only [out, connect, Act.run_bind_of_ok hResult,
        Act.run_state_bind, hSettings]
      cases hEngine : Engine.ofName? config.engine with
      | none =>
          simp only [Session.create, hEngine,
            Act.run_ofExcept_error_bind]
          exact
            ⟨hSettings,
              .inr ⟨_, rfl, hNone, .inl hLeads⟩⟩
      | some engine =>
          simp only [Session.create, hEngine,
            Act.run_ofExcept_ok_bind]
          rcases Session.connect_leads config
              { engine, settings := c.settings }
              (disconnect.run c w).world with
            ⟨hOk, hOpened, hHeld⟩ | ⟨e, hError, -, hAfter⟩
          · rw [Act.run_apart_bind_of_ok hOk, hOpened]
            exact
              ⟨hSettings,
                .inl ⟨rfl, engine, _, rfl, rfl, rfl,
                  hLeads.trans hHeld⟩⟩
          · rw [Act.run_apart_bind_of_error hError]
            refine ⟨hSettings, .inr ⟨e, rfl, hNone, ?_⟩⟩
            rcases hAfter with hClosed | hStrands
            · exact .inl (hLeads.trans hClosed)
            · exact .inr (hStrands.after hLeads)

------------------------------------------------------------
-- Operations
------------------------------------------------------------

/- An operation runs on the session that is held. -/
theorem run_active_of_connected
    {α : Type}
    {c : Connections}
    {session : Session}
    (hSession : c.session = some session)
    (hConnected : session.connected = true)
    (operation : Act Session α)
    (w : World) :
    (active operation).run c w =
      ⟨(operation.run session w).result,
        keep (operation.run session w).state c,
        (operation.run session w).world⟩ := by
  have hActive :
      activeSession.run c w = ⟨.ok session, c, w⟩ := by
    simp [activeSession, hSession, hConnected]
  unfold active
  rw [Act.run_bind_of_ok (by rw [hActive]), hActive]
  rfl

/- Without an open session an operation fails, and nothing
   is called. -/
theorem run_active_of_idle
    {α : Type}
    {c : Connections}
    (hConnected : c.isConnected = false)
    (operation : Act Session α)
    (w : World) :
    (active operation).run c w =
      ⟨.error .notConnected, c, w⟩ := by
  have hActive :
      activeSession.run c w =
        ⟨.error .notConnected, c, w⟩ := by
    cases hSession : c.session with
    | none => simp [activeSession, hSession]
    | some session =>
        simp only [isConnected, hSession] at hConnected
        simp [activeSession, hSession, hConnected]
  unfold active
  rw [Act.run_bind_of_error (by rw [hActive]), hActive]

/- It makes no difference whether the value of an operation
   is dropped on the session or by the holder. -/
theorem discard_active
    {α : Type}
    (operation : Act Session α) :
    discard (active operation) = active (discard operation) := by
  funext c w
  change
    (discard (active operation)).run c w =
      (active (discard operation)).run c w
  rw [Act.run_discard]
  cases hConnected : c.isConnected with
  | false =>
      rw [run_active_of_idle hConnected,
        run_active_of_idle hConnected]
      rfl
  | true =>
      rcases exists_of_isConnected hConnected with
        ⟨session, hSession, hOpen⟩
      rw [run_active_of_connected hSession hOpen,
        run_active_of_connected hSession hOpen,
        Act.run_discard]

/- An operation that leaves the session alone leaves the
   holder alone, and keeps what it keeps on the session. -/
theorem active_keeps
    {α : Type}
    {operation : Act Session α}
    {progress : Progress}
    {c : Connections}
    (hKeeps : ∀ session, c.session = some session →
      session.connected = true →
        Act.Keeps (· = session) progress operation) :
    Act.Keeps (· = c) progress (active operation) := by
  rintro _ w rfl
  cases hConnected : Connections.isConnected _ with
  | false =>
      rw [run_active_of_idle hConnected operation w]
      exact ⟨rfl, progress.refl w⟩
  | true =>
      rcases exists_of_isConnected hConnected with
        ⟨session, hSession, hOpen⟩
      have hOut := hKeeps session hSession hOpen session w rfl
      rw [run_active_of_connected hSession hOpen]
      refine ⟨?_, hOut.2⟩
      rw [hOut.1, keep, ← hSession]

/- The same, where the engine of the session is known from
   what is shown. -/
theorem active_keeps_of_engine
    {α : Type}
    {operation : Act Session α}
    {progress : Progress}
    {c : Connections}
    (hKeeps : ∀ session,
      c.connectionState.engine = some session.engine →
        Act.Keeps (· = session) progress operation) :
    Act.Keeps (· = c) progress (active operation) := by
  apply active_keeps
  intro session hSession hOpen
  apply hKeeps
  simp only [connectionState, hSession]
  rw [if_pos hOpen]

end Connections

end SqlGateway
