import SqlGateway.Driver.Calls
import SqlGateway.Proofs.Act.Run

/-
  This file shows what the calls of the drivers leave, as
  the script of the step has it.

  Key definitions include:
    * `Script.reply` and `Script.played`
    * `World.executed`
    * `World.constructed` and `World.created`

  Main declarations:
    * `Driver.run_createPostgresPool`
    * `Driver.run_openPool`
    * `Driver.run_createOdbcPool`
    * `Driver.run_acquire`
    * `Driver.run_execute`
    * `Driver.run_fetchAll`
-/

namespace SqlGateway

namespace Script

/- The reply to the next statement. -/
def reply (script : Script) : Reply :=
  script.replies.headD {}

/- The script after one more statement. -/
def played (script : Script) : Script :=
  { script with replies := script.replies.tail }

end Script

namespace World

/- The world after one more statement. -/
def executed
    (w : World)
    (statement : String)
    (parameters : Option (List Value)) : World :=
  { w.emitted (.execute statement parameters) with
    script := w.script.played }

/- The world after a PostgreSQL pool was made. -/
def constructed
    (w : World)
    (connectionString : String)
    (options : PostgresPoolOptions) : World :=
  { w with
    events := w.events ++
      [.createPostgresPool w.nextPool connectionString options]
    nextPool := w.nextPool + 1 }

/- The world after an ODBC pool was made. -/
def created
    (w : World)
    (connectionString : List Text.Code)
    (options : OdbcPoolOptions) : World :=
  { w with
    events := w.events ++
      [.createOdbcPool connectionString options,
       .poolReady w.nextPool options.statementTimeout]
    nextPool := w.nextPool + 1 }

end World

namespace Driver

variable {σ : Type}

theorem run_createPostgresPool
    (connectionString : String)
    (options : PostgresPoolOptions)
    (s : σ)
    (w : World) :
    (createPostgresPool connectionString options).run s w =
      if options.maxSize < options.minSize then
        ⟨.error .poolTooSmall, s,
          w.raising (.makePool .postgres) .poolTooSmall⟩
      else
        match w.script.constructError with
        | none =>
            ⟨.ok w.nextPool, s,
              w.constructed connectionString options⟩
        | some e =>
            ⟨.error e, s,
              w.raising (.makePool .postgres) e⟩ := by
  by_cases hSmall : options.maxSize < options.minSize
  · simp [createPostgresPool, hSmall]
  · cases hScript : w.script.constructError with
    | some e => simp [createPostgresPool, hSmall, hScript]
    | none =>
        simp [createPostgresPool, hSmall, hScript,
          World.constructed, World.emitted]

theorem run_openPool
    (pool : Nat)
    (waits : Bool)
    (timeout : Nat)
    (s : σ)
    (w : World) :
    (openPool pool waits timeout).run s w =
      match w.script.openError pool with
      | none =>
          ⟨.ok (), s,
            w.emitted (.openPool pool waits timeout)⟩
      | some e =>
          ⟨.error e, s,
            (w.emitted
              (.openPool pool waits timeout)).raising
                .openPool e⟩ := by
  cases hScript : w.script.openError pool with
  | none => simp [openPool, hScript]
  | some e => simp [openPool, hScript]

theorem run_releasePool_postgres
    (pool : Nat)
    (s : σ)
    (w : World) :
    (releasePool .postgres pool).run s w =
      match w.script.closeError pool with
      | none =>
          ⟨.ok (), s,
            w.emitted (.closePool .postgres pool)⟩
      | some e =>
          ⟨.error e, s,
            (w.emitted (.closePool .postgres pool)).raising
              .closePool e⟩ := by
  have hRun :
      (releasePool .postgres pool).run s w =
        (Act.failIf .closePool (w.script.closeError pool) >>=
          fun _ => (pure () : Act σ Unit)).run s
            (w.emitted (.closePool .postgres pool)) :=
    rfl
  rw [hRun]
  cases hScript : w.script.closeError pool with
  | none => simp
  | some e => simp

theorem run_createOdbcPool
    (connectionString : List Text.Code)
    (options : OdbcPoolOptions)
    (s : σ)
    (w : World) :
    (createOdbcPool connectionString options).run s w =
      match w.script.createError with
      | none =>
          ⟨.ok w.nextPool, s,
            w.created connectionString options⟩
      | some e =>
          ⟨.error e, s,
            (w.emitted (.createOdbcPool connectionString
              options)).raising (.makePool .sqlServer) e⟩ := by
  cases hScript : w.script.createError with
  | some e => simp [createOdbcPool, hScript]
  | none =>
      simp [createOdbcPool, hScript, World.created,
        World.emitted]

theorem run_acquire
    (engine : Engine)
    (pool : Nat)
    (s : σ)
    (w : World) :
    (acquire engine pool).run s w =
      match w.script.acquireError pool with
      | none => ⟨.ok (), s, w.emitted (.acquire engine pool)⟩
      | some e =>
          ⟨.error e, s,
            (w.emitted (.acquire engine pool)).raising
              .acquire e⟩ := by
  cases hScript : w.script.acquireError pool with
  | none => simp [acquire, hScript]
  | some e => simp [acquire, hScript]

theorem run_execute
    (statement : String)
    (parameters : Option (List Value))
    (s : σ)
    (w : World) :
    (execute statement parameters).run s w =
      match w.script.reply.error with
      | none =>
          ⟨.ok w.script.reply, s, w.executed statement parameters⟩
      | some e =>
          ⟨.error e, s,
            (w.executed statement parameters).raising
              .execute e⟩ := by
  have hRun :
      (execute statement parameters).run s w =
        (Act.failIf .execute w.script.reply.error >>= fun _ =>
          (pure w.script.reply : Act σ Reply)).run s
            (w.executed statement parameters) :=
    rfl
  rw [hRun]
  cases hError : w.script.reply.error with
  | none => simp
  | some e => simp

theorem run_fetchAll
    {engine : Engine}
    {reply : Reply}
    {columns : List String}
    (hColumns : reply.columns = some columns)
    (hFetch : reply.fetchError = none)
    (s : σ)
    (w : World) :
    (fetchAll engine reply).run s w =
      ⟨.ok (reply.rows.map (Fields.ofColumns columns)), s,
        w.emitted .fetchAll⟩ := by
  have hKnown : columnsOf engine reply = .ok columns := by
    simp [columnsOf, hColumns]
  unfold fetchAll
  rw [Act.run_emit_bind, hFetch, Act.run_failIf_none_bind,
    hKnown]
  rfl

end Driver

end SqlGateway
