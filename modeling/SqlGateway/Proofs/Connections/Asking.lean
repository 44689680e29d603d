import SqlGateway.Proofs.Connections.Sending
import SqlGateway.Proofs.Driver.Run

/-
  This file shows which pool the driver is asked for when
  the holder connects to SQL Server: one with the connection
  string of the configuration, and no other.

  Key definitions include:
    * `Progress.emitting`
    * `Event.AsksNothing`
    * `Event.OnlyPool`

  Main declarations:
    * `Session.connect_asks`
    * `Connections.connect_asks`
-/

namespace SqlGateway

------------------------------------------------------------
-- What Drivers Are Asked
------------------------------------------------------------

namespace Progress

/- All calls of drivers since have a property. -/
def emitting (P : Event → Prop) : Progress where
  Rel w w' :=
    ∃ events : List Event,
      w'.events = w.events ++ events ∧ ∀ e ∈ events, P e
  ofSameCalls hSame := by
    refine ⟨[], ?_, nofun⟩
    rw [List.append_nil]
    exact hSame.events
  trans := by
    rintro w w' w'' ⟨events, hEvents, hFirst⟩
      ⟨more, hMore, hSecond⟩
    refine ⟨events ++ more, ?_, ?_⟩
    · rw [hMore, hEvents, List.append_assoc]
    · intro e hMem
      rcases List.mem_append.mp hMem with hOld | hNew
      · exact hFirst e hOld
      · exact hSecond e hNew

variable {P : Event → Prop}

theorem emitting_admits
    {event : Event}
    (hEvent : P event) :
    (emitting P).Admits event := by
  intro w
  refine ⟨[event], rfl, ?_⟩
  intro e hMem
  rw [List.mem_singleton.mp hMem]
  exact hEvent

end Progress

/- A call does not ask for an ODBC pool. -/
def Event.AsksNothing (event : Event) : Prop :=
  ∀ string options,
    event ≠ .createOdbcPool string options

/- Of some calls, only one may ask for an ODBC pool, and it is
   made if nothing stands in its way. -/
structure Event.OnlyPool
    (asked : Event)
    (clear : Prop)
    (events : List Event) : Prop where
  only : ∀ e ∈ events, e = asked ∨ e.AsksNothing
  made : clear → asked ∈ events

theorem Event.asksNothing_openPool
    (pool : Nat)
    (waits : Bool)
    (timeout : Nat) :
    (openPool pool waits timeout).AsksNothing :=
  fun _ _ => nofun

theorem Event.asksNothing_poolReady (pool timeout : Nat) :
    (poolReady pool timeout).AsksNothing :=
  fun _ _ => nofun

theorem Progress.asksNothing_carries :
    (emitting Event.AsksNothing).Carries
      fun _ _ => True where
  acquire _ _ := emitting_admits fun _ _ => nofun
  execute _ _ _ := emitting_admits fun _ _ => nofun
  fetchAll := emitting_admits fun _ _ => nofun
  use _ _ := trivial

theorem Progress.asksNothing_releases :
    (emitting Event.AsksNothing).Releases where
  closePool _ _ := emitting_admits fun _ _ => nofun
  waitClosed _ := emitting_admits fun _ _ => nofun

open Act (Keeps)

/- Opening a session with SQL Server asks for one pool, with
   the connection string of the configuration. -/
theorem Session.connect_asks
    {s : Session}
    (hEngine : s.engine = .sqlServer)
    (config : ConnectionConfig)
    (w : World) :
    ∃ rest : List Event,
      ((connect config).run s w).world.events =
        w.events ++
          .createOdbcPool
            (AttributeString.sessionString
              s.settings.odbcDriver config
              (config.databaseFor .sqlServer))
            (odbcPoolOptions
              s.settings.poolMaxSize) :: rest ∧
        ∀ e ∈ rest, e.AsksNothing := by
  let string :=
    AttributeString.sessionString s.settings.odbcDriver config
      (config.databaseFor .sqlServer)
  let options := odbcPoolOptions s.settings.poolMaxSize
  have hMake :
      (makePool .sqlServer config
          (config.databaseFor .sqlServer)).run s w =
        (Act.wrapping (.openingFailed .sqlServer)
          (Driver.createOdbcPool string options)).run s w :=
    rfl
  have hPool := Driver.run_createOdbcPool string options s w
  rw [run_connect hEngine]
  cases hScript : w.script.createError with
  | some e =>
      rw [hScript] at hPool
      rw [Act.run_wrapping, hPool] at hMake
      rw [Act.run_bind_of_error (by rw [hMake]; rfl), hMake]
      exact ⟨[], rfl, List.forall_mem_nil _⟩
  | none =>
      rw [hScript] at hPool
      rw [Act.run_wrapping, hPool] at hMake
      rw [Act.run_bind_of_ok (by rw [hMake]; rfl), hMake]
      have hRest :
          Keeps (fun _ => True)
            (Progress.emitting Event.AsksNothing) (do
              tryOrRelease .sqlServer w.nextPool
              Act.update fun session =>
                session.opened w.nextPool
                  (config.databaseFor .sqlServer) config
              Act.log .info
                (connectedText .sqlServer config
                  (config.databaseFor .sqlServer))) := by
        refine .bind (.rescue ?_ fun e => ?_) fun _ => ?_
        · exact tryPool_keeps Progress.asksNothing_carries
            (Progress.emitting_admits
              (Event.asksNothing_openPool _ _ _))
            trivial
        · refine .bind ?_ fun _ => .fail _
          exact releasePool_keeps
            Progress.asksNothing_releases _ _
        · exact .bind (.update fun _ _ => trivial)
            fun _ => .log _ _
      rcases (hRest s (w.created string options) trivial).2
        with ⟨more, hMore, hNothing⟩
      refine ⟨.poolReady w.nextPool options.statementTimeout ::
        more, ?_, ?_⟩
      · exact hMore.trans
          (by simp [World.created, string, options])
      · intro e hMem
        rcases List.mem_cons.mp hMem with rfl | hLater
        · exact Event.asksNothing_poolReady _ _
        · exact hNothing e hLater

namespace Connections

/-
  Connecting the holder to SQL Server asks for no other pool
  than with the connection string of the configuration, and
  for that one unless the session before fails to close.
-/
theorem connect_asks
    {config : ConnectionConfig}
    (hEngine : config.engine = Engine.sqlServer.name)
    (c : Connections)
    (w : World) :
    let asked : Event :=
      .createOdbcPool
        (AttributeString.sessionString c.settings.odbcDriver
          config (config.databaseFor .sqlServer))
        (Session.odbcPoolOptions c.settings.poolMaxSize)
    ∃ events : List Event,
      ((connect config).run c w).world.events =
          w.events ++ events ∧
        asked.OnlyPool ((disconnect.run c w).result = .ok ())
          events := by
  intro asked
  have hDisconnect :
      Keeps (fun other => other.settings = c.settings)
        (Progress.emitting Event.AsksNothing) disconnect :=
    disconnect_keeps Progress.asksNothing_releases
      fun _ hSettings => hSettings
  rcases hDisconnect c w rfl with
    ⟨hSettings, before, hBefore, hNothing⟩
  unfold connect
  cases hResult : (disconnect.run c w).result with
  | error e =>
      rw [Act.run_bind_of_error hResult]
      refine ⟨before, hBefore, ?_, nofun⟩
      intro e hMem
      exact .inr (hNothing e hMem)
  | ok a =>
      let fresh : Session :=
        { engine := .sqlServer, settings := c.settings }
      have hFresh :
          Session.create config.engine c.settings =
            .ok fresh := by
        rw [hEngine]
        rfl
      rw [Act.run_bind_of_ok hResult, Act.run_state_bind,
        hSettings, hFresh, Act.run_ofExcept_ok_bind]
      have hEngine : fresh.engine = .sqlServer := rfl
      rcases Session.connect_asks hEngine config
          (disconnect.run c w).world with
        ⟨rest, hRest, hLater⟩
      have hAll :
          ∀ e ∈ before ++ asked :: rest,
            e = asked ∨ e.AsksNothing := by
        intro e hMem
        rcases List.mem_append.mp hMem with hEarly | hMem
        · exact .inr (hNothing e hEarly)
        · rcases List.mem_cons.mp hMem with hAsked | hMem
          · exact .inl hAsked
          · exact .inr (hLater e hMem)
      rw [hBefore, List.append_assoc] at hRest
      refine ⟨before ++ asked :: rest, ?_, hAll, fun _ => ?_⟩
      · cases hOpened :
            ((Session.connect config).run fresh
              (disconnect.run c w).world).result with
        | ok a =>
            rw [Act.run_apart_bind_of_ok hOpened]
            exact hRest
        | error e =>
            rw [Act.run_apart_bind_of_error hOpened]
            exact hRest
      · exact List.mem_append_right _ List.mem_cons_self

end Connections

end SqlGateway
