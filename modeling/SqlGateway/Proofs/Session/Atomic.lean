import SqlGateway.Proofs.Connections.History

/-
  This file shows that an operation on a session which fails
  either leaves the session as it was, or leaves nothing of
  it: no failure, of a driver or of what is done after one,
  leaves a part of what opening, switching and closing set.

  Key definitions include:
    * `Session.fresh`
    * `Session.Reachable`
    * `Session.Whole`
    * `Command.resets`
    * `Command.Leaves`

  Main declarations:
    * `Command.onSession_leaves`
    * `Session.Reachable.whole`
    * `Session.Reachable.failure_keeps_or_resets`
-/

namespace SqlGateway

------------------------------------------------------------
-- Reachable Sessions
------------------------------------------------------------

namespace Session

/- A session that was not opened yet. -/
def fresh
    (engine : Engine)
    (settings : Settings) : Session :=
  { engine, settings }

/-
  The sessions that commands lead to, from one that was
  created, each command in any world of drivers and however
  it ends.
-/
inductive Reachable : Session → Prop where
  | created
      {engineName : String}
      {settings : Settings}
      {s : Session}
      (hCreated : create engineName settings = .ok s) :
      Reachable s
  | after
      {s : Session}
      (hReachable : Reachable s)
      (command : Command)
      (w : World) :
      Reachable (command.onSession.run s w).state

/-
  A session as a whole: it is sound, and closed only if
  nothing was left by what was done with it before.
-/
structure Whole (s : Session) : Prop where
  sound : s.Sound
  fresh_of_closed :
    s.connected = false → s = fresh s.engine s.settings

theorem exists_fresh_of_create
    {engineName : String}
    {settings : Settings}
    {s : Session}
    (hCreated : create engineName settings = .ok s) :
    ∃ engine, s = fresh engine settings := by
  unfold create at hCreated
  cases hEngine : Engine.ofName? engineName with
  | none =>
      rw [hEngine] at hCreated
      cases hCreated
  | some engine =>
      rw [hEngine] at hCreated
      cases hCreated
      exact ⟨engine, rfl⟩

theorem whole_of_create
    {engineName : String}
    {settings : Settings}
    {s : Session}
    (hCreated : create engineName settings = .ok s) :
    s.Whole := by
  rcases exists_fresh_of_create hCreated with ⟨engine, rfl⟩
  exact ⟨⟨rfl, rfl⟩, fun _ => rfl⟩

theorem closed_eq_fresh (s : Session) :
    s.closed = fresh s.engine s.settings :=
  rfl

end Session

------------------------------------------------------------
-- What One Command Leaves
------------------------------------------------------------

namespace Command

variable {s : Session}

/- The commands that close the session before all else, on
   an engine. -/
def resets (engine : Engine) : Command → Bool
  | disconnect => true
  | switchDatabase _ =>
      match engine with
      | .postgres => true
      | .sqlServer => false
  | _ => false

theorem resets_of_isQuery
    {command : Command}
    (hQuery : command.isQuery = true)
    (engine : Engine) :
    command.resets engine = false := by
  cases command with
  | disconnect => cases hQuery
  | switchDatabase database => cases hQuery
  | _ => rfl

/-
  All ways in which a command may leave a session.  A
  command that succeeds may open it, or point it at another
  database; one that fails keeps it or closes it, of which
  the second is left to the commands that reset.
-/
inductive Leaves
    (command : Command)
    (s : Session) : Except Failure Unit → Session → Prop where
  | kept
      {result : Except Failure Unit}
      (hKeeps :
        command.resets s.engine = false ∨
          (command.needsSession = true ∧
            s.connected = false)) :
      Leaves command s result s
  | opened
      {pool : Nat}
      {config : ConnectionConfig} :
      Leaves command s (.ok ())
        (s.opened pool (config.databaseFor s.engine) config)
  | moved
      {database : String}
      (hEngine : s.engine = .sqlServer)
      (hConnected : s.connected = true) :
      Leaves command s (.ok ())
        { s with
          database := .text database
          switched := true }
  | closed
      {result : Except Failure Unit}
      (hResets : command.resets s.engine = true) :
      Leaves command s result s.closed

theorem switchDatabase_leaves
    {database : String}
    {w : World}
    {out : Outcome Session Unit}
    (hConnected : s.connected = true)
    (hSwitched : Session.Switched database s w out) :
    Leaves (.switchDatabase database) s out.result
      out.state := by
  cases hSwitched with
  | moved hEngine _ => exact .moved hEngine hConnected
  | unmoved hEngine _ =>
      refine .kept (.inl ?_)
      rw [hEngine]
      rfl
  | @reopened w' pool config hEngine _ _ =>
      -- Opening sets all that closing unset before.
      have hOpened :
          s.closed.opened pool (config.databaseFor .postgres)
              config =
            s.opened pool (config.databaseFor s.engine)
              config := by
        rw [hEngine]
        rfl
      rw [hOpened]
      exact .opened
  | lost hEngine _ =>
      refine .closed ?_
      rw [hEngine]
      rfl

/- A command leaves a sound session in one of these ways,
   whatever the drivers do. -/
theorem onSession_leaves
    (command : Command)
    (hSound : s.Sound)
    (w : World) :
    let out := command.onSession.run s w
    Leaves command s out.result out.state := by
  intro out
  by_cases hQuery : command.isQuery = true
  · have hKeeps := onSession_keeps hQuery (· = s) s w rfl
    have hState : out.state = s := hKeeps.1
    rw [hState]
    exact .kept (.inl (resets_of_isQuery hQuery s.engine))
  · cases command with
    | connect config =>
        rcases Session.connect_leads config s w with
          ⟨hOk, hState, -⟩ | ⟨e, hError, hState, -⟩
        · simp only [out, onSession, hOk, hState]
          exact .opened
        · simp only [out, onSession, hError, hState]
          exact .kept (.inl rfl)
    | disconnect =>
        have hState := (Session.disconnect_leads s w).1
        simp only [out, onSession, hState]
        exact .closed rfl
    | switchDatabase database =>
        cases hConnected : s.connected with
        | false =>
            have hOut :
                out = ⟨.error .notConnected, s, w⟩ :=
              onSession_of_closed rfl hConnected w
            rw [hOut]
            exact .kept (.inr ⟨rfl, hConnected⟩)
        | true =>
            exact switchDatabase_leaves hConnected
              (Session.switchDatabase_switched database hSound
                hConnected w)
    | _ => exact absurd rfl hQuery

/- Whichever it is, it leaves a whole session whole. -/
theorem Leaves.whole
    {command : Command}
    {result : Except Failure Unit}
    {s' : Session}
    (hLeaves : Leaves command s result s')
    (hWhole : s.Whole) :
    s'.Whole := by
  have hSound := hWhole.sound
  cases hLeaves with
  | kept _ => exact hWhole
  | opened =>
      refine ⟨s.opened_sound _ _ _, ?_⟩
      intro hClosed
      cases hClosed
  | moved _ hConnected =>
      refine
        ⟨⟨hSound.pool_isSome, hSound.config_isSome⟩, ?_⟩
      intro hClosed
      rw [hConnected] at hClosed
      cases hClosed
  | closed _ =>
      exact ⟨s.closed_sound, fun _ => s.closed_eq_fresh⟩

/- Where it fails, the session is kept, or it is reset by a
   command that does so. -/
theorem Leaves.kept_or_reset
    {command : Command}
    {e : Failure}
    {s' : Session}
    (hLeaves : Leaves command s (.error e) s')
    (hWhole : s.Whole) :
    (command.resets s.engine = false → s' = s) ∧
      (command.resets s.engine = true →
        s' = Session.fresh s.engine s.settings) := by
  cases hLeaves with
  | kept hKeeps =>
      refine ⟨fun _ => rfl, fun hResets => ?_⟩
      rcases hKeeps with hNot | ⟨-, hClosed⟩
      · rw [hNot] at hResets
        cases hResets
      · exact hWhole.fresh_of_closed hClosed
  | closed hResets =>
      refine ⟨fun hNot => ?_, fun _ => s.closed_eq_fresh⟩
      rw [hNot] at hResets
      cases hResets

end Command

------------------------------------------------------------
-- What Any Commands Leave
------------------------------------------------------------

namespace Session

/- Every reachable session is whole. -/
theorem Reachable.whole
    {s : Session}
    (hReachable : s.Reachable) :
    s.Whole := by
  induction hReachable with
  | created hCreated => exact whole_of_create hCreated
  | after _ command w ih =>
      exact (command.onSession_leaves ih.sound w).whole ih

/-
  Whatever was done with a session and however the drivers
  behave, now and before: if disconnecting fails, or
  switching the database on PostgreSQL, then nothing is left
  of the session; if any other command fails, then all of it
  is as it was.
-/
theorem Reachable.failure_keeps_or_resets
    {s : Session}
    (hReachable : s.Reachable)
    (command : Command)
    (w : World)
    {e : Failure}
    (hError :
      (command.onSession.run s w).result = .error e) :
    let after := (command.onSession.run s w).state
    (command.resets s.engine = false → after = s) ∧
      (command.resets s.engine = true →
        after = fresh s.engine s.settings) := by
  have hWhole := hReachable.whole
  have hLeaves :
      command.Leaves s (command.onSession.run s w).result
        (command.onSession.run s w).state :=
    command.onSession_leaves hWhole.sound w
  rw [hError] at hLeaves
  exact hLeaves.kept_or_reset hWhole

/- A PostgreSQL session after it was opened. -/
def openedOnce : Session :=
  ((Command.connect
    { engine := "postgres", server := .text "db" }).onSession.run
      (fresh .postgres .unset) {}).state

/- Drivers with which a statement fails, no pool opens, and
   of the pools only the first is closed without a
   failure. -/
def failingWorld : World :=
  let failure : Failure :=
    .foreign .postgresDriver "OperationalError" [.text "gone"]
  { script :=
      { openError := .everywhere (some failure)
        closeError := fun pool =>
          if pool = 1 then none else some failure
        replies := [{ error := some failure }] } }

/- A query of it that fails leaves it open as it was; a
   switch that fails, with the new pool failing to close
   too, leaves nothing of it. -/
theorem openedOnce_kept_or_reset :
    let query :=
      (Command.executeQuery "SELECT 1" (.int 5)).onSession.run
        openedOnce failingWorld
    let switch :=
      (Command.switchDatabase "sales").onSession.run
        openedOnce failingWorld
    openedOnce.Reachable ∧ openedOnce.connected = true ∧
      openedOnce.engine = .postgres ∧
      ((∃ e, query.result = .error e) ∧
        query.state = openedOnce) ∧
      ((∃ e, switch.result = .error e) ∧
        switch.state =
          fresh openedOnce.engine openedOnce.settings) := by
  intro query switch
  have hFails : ∀ result : Except Failure Unit,
      result.isOk = false → ∃ e, result = .error e := by
    rintro (e | a) hNot
    · exact ⟨e, rfl⟩
    · cases hNot
  have hCreated : (fresh .postgres .unset).Reachable :=
    .created (rfl : create "postgres" .unset = _)
  have hReachable : openedOnce.Reachable := hCreated.after _ _
  have hEngine : openedOnce.engine = .postgres := by
    decide +kernel
  have hResets :
      (Command.switchDatabase "sales").resets
        openedOnce.engine = true := by
    rw [hEngine]
    rfl
  rcases hFails query.result (by decide +kernel) with
    ⟨e, hQuery⟩
  rcases hFails switch.result (by decide +kernel) with
    ⟨e', hSwitch⟩
  have hKept :=
    (hReachable.failure_keeps_or_resets _ _ hQuery).1 rfl
  have hReset :=
    (hReachable.failure_keeps_or_resets _ _ hSwitch).2
      hResets
  exact
    ⟨hReachable, by decide +kernel, hEngine,
      ⟨⟨e, hQuery⟩, hKept⟩, ⟨⟨e', hSwitch⟩, hReset⟩⟩

end Session

end SqlGateway
