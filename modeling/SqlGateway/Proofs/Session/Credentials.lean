import SqlGateway.Proofs.Session.Alike

/-
  This file shows what becomes of the credentials in a
  configuration: they go into the string that a pool is made
  with, and are looked at nowhere else.  So sessions with
  other credentials are alike, while PostgreSQL takes their
  strings alike.

  Key definitions include:
    * `Event.SameButStrings`
    * `ConnectionConfig.SameButCredentials`
    * `ConnectionConfig.TakenAlike`
    * `Likeness.credentials`
-/

namespace SqlGateway

------------------------------------------------------------
-- Calls of Drivers
------------------------------------------------------------

/- Two calls of drivers that are the same, or make pools and
   differ in the string that they are made with. -/
inductive Event.SameButStrings : Event → Event → Prop where
  | same (event : Event) : Event.SameButStrings event event
  | postgresPool
      (pool : Nat)
      (s s' : String)
      (options : PostgresPoolOptions) :
      Event.SameButStrings
        (.createPostgresPool pool s options)
        (.createPostgresPool pool s' options)
  | odbcPool
      (codes codes' : List Text.Code)
      (options : OdbcPoolOptions) :
      Event.SameButStrings (.createOdbcPool codes options)
        (.createOdbcPool codes' options)

------------------------------------------------------------
-- Configurations
------------------------------------------------------------

namespace ConnectionConfig

/- Two configurations that differ at most in the name of the
   user and the password. -/
def SameButCredentials
    (config config' : ConnectionConfig) : Prop :=
  config' =
    { config with
      user := config'.user
      password := config'.password }

/- PostgreSQL takes the strings of two configurations, or
   both fail alike. -/
def TakenAlike
    (config config' : ConnectionConfig) : Prop :=
  ResultAlike (fun _ _ => True)
    (KeywordString.sessionString config
      (config.databaseFor .postgres))
    (KeywordString.sessionString config'
      (config'.databaseFor .postgres))

/- A configuration with another database put in. -/
def movedTo
    (name : String)
    (config : ConnectionConfig) : ConnectionConfig :=
  { config with database := .text name }

/- The strings of two configurations are taken alike with
   their own databases, and with each of the databases that
   are named. -/
structure TakenAlikeWith
    (names : List String)
    (config config' : ConnectionConfig) : Prop where
  own : config.TakenAlike config'
  moved :
    ∀ name ∈ names,
      (config.movedTo name).TakenAlike (config'.movedTo name)

/-
  Two configurations for an engine that differ at most in
  their credentials.  If the engine is PostgreSQL, their
  strings are taken alike.
-/
structure AlikeFor
    (names : List String)
    (engine : Engine)
    (config config' : ConnectionConfig) : Prop where
  same : config.SameButCredentials config'
  taken :
    engine = .postgres →
      config.TakenAlikeWith names config'

variable {names : List String}
variable {engine : Engine}
variable {config config' : ConnectionConfig}

/- Strings that are taken are taken alike. -/
theorem TakenAlike.of_taken
    {s s' : String}
    (hTaken :
      KeywordString.sessionString config
        (config.databaseFor .postgres) = .ok s)
    (hTaken' :
      KeywordString.sessionString config'
        (config'.databaseFor .postgres) = .ok s') :
    config.TakenAlike config' := by
  unfold TakenAlike
  rw [hTaken, hTaken']
  exact .ok trivial

/- A configuration is taken like itself. -/
theorem AlikeFor.refl (config : ConnectionConfig) :
    config.AlikeFor names engine config :=
  ⟨rfl, fun _ =>
    ⟨.refl (fun _ => trivial) _,
      fun _ _ => .refl (fun _ => trivial) _⟩⟩

/- Configurations stay alike when they are moved to a named
   database. -/
theorem AlikeFor.movedTo
    {name : String}
    (hConfigs : config.AlikeFor names engine config')
    (hName : name ∈ names) :
    (config.movedTo name).AlikeFor names engine
      (config'.movedTo name) := by
  constructor
  · have hSame := hConfigs.same
    unfold SameButCredentials at hSame ⊢
    rw [hSame]
    rfl
  · intro hEngine
    have hTaken := hConfigs.taken hEngine
    exact ⟨hTaken.moved name hName, hTaken.moved⟩

end ConnectionConfig

------------------------------------------------------------
-- Sessions
------------------------------------------------------------

/- Two runs that differ in credentials only, and switch to
   no database but those that are named. -/
def Likeness.credentials (names : List String) : Likeness where
  Calls := Event.SameButStrings
  Configs := ConnectionConfig.AlikeFor names
  Names name := name ∈ names
  calls_refl := .same
  server hConfigs := by
    rw [hConfigs.same]
  windowsAuth hConfigs := by
    rw [hConfigs.same]
  database hConfigs := by
    rw [hConfigs.same]
    rfl
  moved hConfigs hName := hConfigs.movedTo hName
  postgres hConfigs := by
    have hMade : ∀ s s' : String,
        SameMaking Event.SameButStrings s s' :=
      fun s s' pool options => .postgresPool pool s s' options
    exact (hConfigs.taken rfl).own.mono fun s s' _ =>
      hMade s s'
  sqlServer driver options _ := .odbcPool _ _ options

end SqlGateway
