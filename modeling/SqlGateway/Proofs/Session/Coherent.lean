import SqlGateway.Proofs.Session.Atomic

/-
  This file shows that the parts of a session agree.  The
  flag that guards every operation speaks for four others:
  the pool, the configuration, the database, and whether the
  session was switched.  Whatever is done with a session, and
  however that ends, it has one of three shapes.

  Key definitions include:
    * `Value.isName` and `ConnectionConfig.NamesDatabase`
    * `Session.Shape`
    * `Session.Coherent`

  Main declarations:
    * `Command.onSession_shape`
    * `Session.Reachable.shape`
    * `Session.Shape.coherent`
-/

namespace SqlGateway

------------------------------------------------------------
-- Names of Databases
------------------------------------------------------------

/- A value is a text that is not empty. -/
def Value.isName : Value → Bool
  | text s => s != ""
  | raw codes => !codes.isEmpty
  | _ => false

namespace ConnectionConfig

/- The database of a configuration is a text, or is not
   given. -/
def NamesDatabase (config : ConnectionConfig) : Prop :=
  config.database = .null ∨ config.database = .text "" ∨
    config.database.isName = true

/- The database that a session is opened with counts as
   true. -/
theorem databaseFor_isTruthy
    (config : ConnectionConfig)
    (engine : Engine) :
    (config.databaseFor engine).isTruthy = true := by
  unfold databaseFor
  cases hGiven : config.database.isTruthy with
  | true =>
      rw [if_pos rfl]
      exact hGiven
  | false =>
      rw [if_neg Bool.false_ne_true]
      cases engine with
      | sqlServer => rfl
      | postgres => rfl

theorem NamesDatabase.databaseFor_isName
    {config : ConnectionConfig}
    (hNames : config.NamesDatabase)
    (engine : Engine) :
    (config.databaseFor engine).isName = true := by
  have hDefault :
      (Value.text engine.defaultDatabase).isName = true := by
    cases engine with
    | sqlServer => rfl
    | postgres => rfl
  unfold databaseFor
  rcases hNames with hNull | hEmpty | hName
  · rw [hNull]
    exact hDefault
  · rw [hEmpty]
    exact hDefault
  · split
    · exact hName
    · exact hDefault

end ConnectionConfig

namespace Session

------------------------------------------------------------
-- Shapes
------------------------------------------------------------

/-
  The shapes of a session: it is as new, or was opened and
  is where its configuration leads, or was pointed at another
  database afterwards, whose name is usable in a statement.
  The last is a matter of SQL Server only.
-/
inductive Shape
    (engine : Engine)
    (settings : Settings) : Session → Prop where
  | closed : Shape engine settings (fresh engine settings)
  | opened
      (pool : Nat)
      (config : ConnectionConfig) :
      Shape engine settings
        ((fresh engine settings).opened pool
          (config.databaseFor engine) config)
  | moved
      (pool : Nat)
      (config : ConnectionConfig)
      {database : String}
      (hEngine : engine = .sqlServer)
      (hName :
        (Identifier.sanitize? database.toList).isSome) :
      Shape engine settings
        { (fresh engine settings).opened pool
            (config.databaseFor engine) config with
          database := .text database
          switched := true }

namespace Shape

variable {engine : Engine}
variable {settings : Settings}
variable {s : Session}

/- The engine of a session never changes. -/
theorem engine_eq (hShape : Shape engine settings s) :
    s.engine = engine := by
  cases hShape with
  | closed => rfl
  | opened pool config => rfl
  | moved pool config hEngine hName => rfl

/- A session of any shape is sound. -/
theorem sound (hShape : Shape engine settings s) :
    s.Sound := by
  cases hShape with
  | closed => exact ⟨rfl, rfl⟩
  | opened pool config => exact ⟨rfl, rfl⟩
  | moved pool config hEngine hName => exact ⟨rfl, rfl⟩

theorem closed_eq (hShape : Shape engine settings s) :
    s.closed = fresh engine settings := by
  cases hShape with
  | closed => rfl
  | opened pool config => rfl
  | moved pool config hEngine hName => rfl

/- Opening sets all its parts anew. -/
theorem opened_eq
    (hShape : Shape engine settings s)
    (pool : Nat)
    (database : Value)
    (config : ConnectionConfig) :
    s.opened pool database config =
      (fresh engine settings).opened pool database
        config := by
  cases hShape with
  | closed => rfl
  | opened _ _ => rfl
  | moved _ _ _ _ => rfl

/- An open session that is pointed elsewhere. -/
theorem pointed
    (hShape : Shape engine settings s)
    (hConnected : s.connected = true)
    (hEngine : engine = .sqlServer)
    {database : String}
    (hName :
      (Identifier.sanitize? database.toList).isSome) :
    Shape engine settings
      { s with
        database := .text database
        switched := true } := by
  cases hShape with
  | closed => cases hConnected
  | opened pool config => exact .moved pool config hEngine hName
  | moved pool config _ _ =>
      exact .moved pool config hEngine hName

end Shape

/- A database has a statement that points there if and only
   if its name is usable. -/
theorem isUsable_iff (database : String) :
    (∃ statement,
        useStatement database = .ok statement) ↔
      (Identifier.sanitize? database.toList).isSome := by
  unfold useStatement Identifier.escape?
  cases Identifier.sanitize? database.toList with
  | none => simp
  | some name => simp

/- Switching in place ends well only with a usable name. -/
theorem isUsable_of_switchInPlace
    {database : String}
    {s : Session}
    {w : World}
    (hOk :
      ((switchInPlace database).run s w).result = .ok ()) :
    ∃ statement, useStatement database = .ok statement := by
  cases hUse : useStatement database with
  | ok statement => exact ⟨statement, rfl⟩
  | error e =>
      simp only [switchInPlace, Act.run_state_bind, hUse]
        at hOk
      cases hOk

end Session

------------------------------------------------------------
-- What Commands Do to Shapes
------------------------------------------------------------

namespace Command

open Session (Shape)

variable {engine : Engine}
variable {settings : Settings}
variable {s : Session}

theorem switchDatabase_shape
    (database : String)
    (hShape : Shape engine settings s)
    (hConnected : s.connected = true)
    (w : World) :
    Shape engine settings
      ((Session.switchDatabase database).run s w).state := by
  have hRun :=
    Session.run_switchDatabase database hConnected w
  have hSwitched :=
    Session.switchDatabase_switched database hShape.sound
      hConnected w
  generalize hOut :
    (Session.switchDatabase database).run s w = out
      at hRun hSwitched ⊢
  cases hSwitched with
  | @moved w' hEngine hLeads =>
      rw [hEngine] at hRun
      have hOk := congrArg Outcome.result hRun
      have hUsable := (Session.isUsable_iff database).mp
        (Session.isUsable_of_switchInPlace hOk.symm)
      exact hShape.pointed hConnected
        (hShape.engine_eq.symm.trans hEngine) hUsable
  | unmoved hEngine hLeads => exact hShape
  | @reopened w' pool config hEngine hDatabase hLeads =>
      rw [hShape.closed_eq, ← hEngine, hShape.engine_eq]
      exact .opened pool config
  | lost hEngine hLeads =>
      rw [hShape.closed_eq]
      exact .closed

theorem onSession_shape
    (command : Command)
    (hShape : Shape engine settings s)
    (w : World) :
    Shape engine settings
      (command.onSession.run s w).state := by
  by_cases hQuery : command.isQuery = true
  · exact (onSession_keeps hQuery _ s w hShape).1
  · cases command with
    | connect config =>
        simp only [onSession]
        rcases Session.connect_leads config s w with
          ⟨-, hState, -⟩ | ⟨e, -, hState, -⟩
        · rw [hState, hShape.engine_eq, hShape.opened_eq]
          exact .opened _ config
        · rw [hState]
          exact hShape
    | disconnect =>
        simp only [onSession]
        rw [(Session.disconnect_leads s w).1,
          hShape.closed_eq]
        exact .closed
    | switchDatabase database =>
        cases hConnected : s.connected with
        | false =>
            rw [onSession_of_closed rfl hConnected w]
            exact hShape
        | true =>
            exact switchDatabase_shape database hShape
              hConnected w
    | _ => exact absurd rfl hQuery

end Command

namespace Session

/- Every reachable session has one of the shapes. -/
theorem Reachable.shape
    {s : Session}
    (hReachable : s.Reachable) :
    Shape s.engine s.settings s := by
  have hShape :
      ∃ engine settings, Shape engine settings s := by
    induction hReachable with
    | created hCreated =>
        rcases exists_fresh_of_create hCreated with
          ⟨engine, rfl⟩
        exact ⟨engine, _, .closed⟩
    | after _ command w ih =>
        rcases ih with ⟨engine, settings, hShape⟩
        exact
          ⟨engine, settings, command.onSession_shape hShape w⟩
  rcases hShape with ⟨engine, settings, hShape⟩
  cases hShape with
  | closed => exact .closed
  | opened pool config => exact .opened pool config
  | moved pool config hEngine hName =>
      exact .moved pool config hEngine hName

------------------------------------------------------------
-- Agreement
------------------------------------------------------------

/-
  The parts of a session agree: it is open if and only if it
  has a pool, has a configuration, and reports a database,
  which is a text where the configuration names it so; and
  if it was switched, it is open, with SQL Server, and what
  it reports is a name that is usable in a statement.
-/
structure Coherent (s : Session) : Prop where
  pool_isSome : s.pool.isSome = s.connected
  config_isSome : s.config.isSome = s.connected
  database_isTruthy : s.database.isTruthy = s.connected
  database_isName :
    (∀ config ∈ s.config, config.NamesDatabase) →
      s.database.isName = s.connected
  switched :
    s.switched = true →
      s.engine = .sqlServer ∧ s.connected = true ∧
        ∃ database : String,
          s.database = .text database ∧
            (Identifier.sanitize? database.toList).isSome

theorem isName_of_sanitize?
    {database : String}
    (hName :
      (Identifier.sanitize? database.toList).isSome) :
    (Value.text database).isName = true := by
  by_cases hEmpty : database = ""
  · rw [hEmpty] at hName
    cases hName
  · exact bne_iff_ne.mpr hEmpty

theorem Shape.coherent
    {engine : Engine}
    {settings : Settings}
    {s : Session}
    (hShape : Shape engine settings s) :
    s.Coherent := by
  cases hShape with
  | closed =>
      exact
        { pool_isSome := rfl
          config_isSome := rfl
          database_isTruthy := rfl
          database_isName := fun _ => rfl
          switched := fun hSwitched => nomatch hSwitched }
  | opened pool config =>
      exact
        { pool_isSome := rfl
          config_isSome := rfl
          database_isTruthy :=
            config.databaseFor_isTruthy engine
          database_isName := fun hNames =>
            (hNames config rfl).databaseFor_isName engine
          switched := fun hSwitched => nomatch hSwitched }
  | moved pool config hEngine hName =>
      have hIsName := isName_of_sanitize? hName
      exact
        { pool_isSome := rfl
          config_isSome := rfl
          database_isTruthy := hIsName
          database_isName := fun _ => hIsName
          switched := fun _ =>
            ⟨hEngine, rfl, _, rfl, hName⟩ }

end Session

end SqlGateway
