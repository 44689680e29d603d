import SqlGateway.Proofs.Driver.Calls
import SqlGateway.Proofs.Driver.Run

/-
  This file defines the physical connections behind the
  pools of SQL Server.  Each connection is in a database of
  its own; a pool hands out any of its connections; and a
  statement that points at a database moves the connection
  that it runs on and no other.

  A fleet replays the calls of drivers under a script, and
  notes where each statement ran.

  Key definitions include:
    * `Place` and `Execution`
    * `Server`
    * `Fleet` and `Fleet.replay`
    * `Fleet.Becomes`
    * `Progress.unmoved`

  Main declarations:
    * `Fleet.Becomes.trans`
    * `Fleet.statements_replay`
    * `Fleet.current?_executing`
    * `Progress.unmoved_admits`
-/

namespace SqlGateway

------------------------------------------------------------
-- Connections and Servers
------------------------------------------------------------

/-
  The database that a connection is in: the one that its
  connection string opens, or one that a statement named.
-/
inductive Place where
  | opened (connectionString : List Text.Code)
  | named (name : String)

/- A statement that was sent: where the connection was that
   it ran on, if there was one, and how it failed. -/
structure Execution where
  statement : String
  place : Option Place
  error : Option Failure

/- The statement that a call sends, if it sends one. -/
def Event.statement? : Event → Option String
  | .execute statement _ => some statement
  | _ => none

/-
  What a server does that the drivers do not tell: to which
  database a statement moves its connection when it does not
  fail, if to any, and which connection of the pool is
  handed out, time by time.
-/
structure Server where
  movesTo? : String → Option String
  chosen : Nat → Nat

/-
  All physical connections, by pool and by number within
  it.  `opening` is the connection string of the pool that
  is being made, `inUse` the connection that was taken last,
  and `script` what is left of the script of the drivers.
-/
structure Fleet where
  script : Script := {}
  opening : List Text.Code := []
  place : Nat → Nat → Place := fun _ _ => .opened []
  inUse : Option (Nat × Nat) := none
  taken : Nat := 0
  executions : List Execution := []

namespace Fleet

------------------------------------------------------------
-- Calls of Drivers
------------------------------------------------------------

/- Where the connection is that was taken last. -/
def current? (f : Fleet) : Option Place :=
  f.inUse.map fun connection =>
    f.place connection.1 connection.2

/- All connections of a new pool are where its connection
   string opens. -/
def withPool
    (f : Fleet)
    (pool : Nat) : Fleet :=
  { f with
    place := fun p c =>
      if p = pool then
        .opened f.opening
      else
        f.place p c }

/- A pool hands out one of its connections, unless that
   fails. -/
def taking
    (server : Server)
    (f : Fleet)
    (pool : Nat) : Fleet :=
  match f.script.acquireError pool with
  | none =>
      { f with
        inUse := some (pool, server.chosen f.taken)
        taken := f.taken + 1 }
  | some _ => { f with inUse := none }

/- The connection in use is moved to a database. -/
def movedTo
    (f : Fleet)
    (name : String) : Fleet :=
  { f with
    place := fun p c =>
      if f.inUse = some (p, c) then
        .named name
      else
        f.place p c }

/- A statement runs on the connection in use and takes the
   next reply. -/
def noting
    (f : Fleet)
    (statement : String) : Fleet :=
  { f with
    script := f.script.played
    executions := f.executions ++
      [⟨statement, f.current?,
        f.script.reply.error⟩] }

/- A statement runs, and moves its connection if it does not
   fail and points at a database. -/
def executing
    (server : Server)
    (f : Fleet)
    (statement : String) : Fleet :=
  match f.script.reply.error,
      server.movesTo? statement with
  | none, some name => (f.noting statement).movedTo name
  | _, _ => f.noting statement

/- What one call of a driver does. -/
def step
    (server : Server)
    (f : Fleet) : Event → Fleet
  | .createOdbcPool connectionString _ =>
      { f with opening := connectionString }
  | .poolReady pool _ => f.withPool pool
  | .acquire _ pool => f.taking server pool
  | .execute statement _ => f.executing server statement
  | _ => f

/- What calls do, one after the other. -/
def replay
    (server : Server)
    (f : Fleet)
    (events : List Event) : Fleet :=
  events.foldl (step server) f

/- A step of the gateway begins, with a new script. -/
def playing
    (f : Fleet)
    (script : Script) : Fleet :=
  { f with script, executions := [] }

/-
  Between a world and a later one the calls of drivers make
  one fleet from another.
-/
def Becomes
    (server : Server)
    (f : Fleet)
    (w w' : World)
    (f' : Fleet) : Prop :=
  ∃ events : List Event,
    w'.events = w.events ++ events ∧
      f.replay server events = f'

namespace Becomes

variable {server : Server}
variable {f f' f'' : Fleet}
variable {w w' w'' : World}

theorem ofSameEvents
    (hEvents : w'.events = w.events) :
    f.Becomes server w w' f := by
  refine ⟨[], ?_, rfl⟩
  rw [List.append_nil]
  exact hEvents

theorem ofEmitted
    (event : Event)
    (hEvents : w'.events = w.events ++ [event]) :
    f.Becomes server w w' (f.step server event) :=
  ⟨[event], hEvents, rfl⟩

theorem trans
    (hFirst : f.Becomes server w w' f')
    (hSecond : f'.Becomes server w' w'' f'') :
    f.Becomes server w w'' f'' := by
  rcases hFirst with ⟨events, hEvents, hReplay⟩
  rcases hSecond with ⟨more, hMore, hLater⟩
  refine ⟨events ++ more, ?_, ?_⟩
  · rw [hMore, hEvents, List.append_assoc]
  · unfold replay at *
    rw [List.foldl_append, hReplay, hLater]

theorem replay_eq
    (hBecomes : f.Becomes server w w' f')
    (hStart : w.events = []) :
    f.replay server w'.events = f' := by
  rcases hBecomes with ⟨events, hEvents, hReplay⟩
  rw [hStart, List.nil_append] at hEvents
  rw [hEvents]
  exact hReplay

end Becomes

------------------------------------------------------------
-- What a Call Changes
------------------------------------------------------------

section

variable (server : Server)
variable (f : Fleet)

@[simp]
theorem place_taking (pool : Nat) :
    (f.taking server pool).place = f.place := by
  unfold taking
  split <;> rfl

@[simp]
theorem script_taking (pool : Nat) :
    (f.taking server pool).script = f.script := by
  unfold taking
  split <;> rfl

@[simp]
theorem executions_taking (pool : Nat) :
    (f.taking server pool).executions = f.executions := by
  unfold taking
  split <;> rfl

theorem current?_taking
    {pool : Nat}
    (hScript : f.script.acquireError pool = none) :
    (f.taking server pool).current? =
      some (f.place pool (server.chosen f.taken)) := by
  simp [taking, hScript, current?]

@[simp]
theorem script_executing (statement : String) :
    (f.executing server statement).script =
      f.script.played := by
  unfold executing
  split <;> rfl

@[simp]
theorem executions_executing (statement : String) :
    (f.executing server statement).executions =
      f.executions ++
        [⟨statement, f.current?,
          f.script.reply.error⟩] := by
  unfold executing
  split <;> rfl

theorem statements_replay (events : List Event) :
    (f.replay server events).executions.map
        Execution.statement =
      f.executions.map Execution.statement ++
        events.filterMap Event.statement? := by
  unfold replay
  induction events generalizing f with
  | nil => simp
  | cons event events ih =>
      rw [List.foldl_cons, ih, List.filterMap_cons]
      cases event with
      | execute statement parameters =>
          simp [step, Event.statement?]
      | acquire engine pool =>
          simp [step, Event.statement?]
      | _ => rfl

theorem place_executing_of_stays
    {statement : String}
    (hStays : server.movesTo? statement = none) :
    (f.executing server statement).place = f.place := by
  simp [executing, hStays, noting]

theorem place_executing_of_error
    (statement : String)
    {e : Failure}
    (hError : f.script.reply.error = some e) :
    (f.executing server statement).place = f.place := by
  simp [executing, hError, noting]

/- A statement that points at a database leaves the
   connection in use there, if it does not fail. -/
theorem current?_executing
    {statement name : String}
    (hMoves : server.movesTo? statement = some name)
    (hError : f.script.reply.error = none)
    (hInUse : f.inUse.isSome = true) :
    (f.executing server statement).current? =
      some (.named name) := by
  rcases Option.isSome_iff_exists.mp hInUse with
    ⟨connection, hConnection⟩
  simp [executing, hMoves, hError, noting, movedTo, current?,
    hConnection]

end

end Fleet

------------------------------------------------------------
-- Calls That Move Nothing
------------------------------------------------------------

/- No pool was made, and no connection was moved, wherever
   the connections were before. -/
def Progress.unmoved (server : Server) : Progress where
  Rel w w' :=
    w'.nextPool = w.nextPool ∧
      ∀ f : Fleet, ∃ f',
        f.Becomes server w w' f' ∧ f'.place = f.place
  ofSameCalls hSame := by
    refine ⟨hSame.nextPool, ?_⟩
    intro f
    exact ⟨f, .ofSameEvents hSame.events, rfl⟩
  trans := by
    rintro w w' w'' ⟨hNext, hFirst⟩ ⟨hLater, hSecond⟩
    refine ⟨hLater.trans hNext, ?_⟩
    intro f
    rcases hFirst f with ⟨f', hBecomes, hPlace⟩
    rcases hSecond f' with ⟨f'', hOn, hSame⟩
    exact ⟨f'', hBecomes.trans hOn, hSame.trans hPlace⟩

theorem Progress.unmoved_admits
    {server : Server}
    {event : Event}
    (hPlace : ∀ f : Fleet,
      (f.step server event).place = f.place) :
    (Progress.unmoved server).Admits event := by
  intro w
  refine ⟨rfl, ?_⟩
  intro f
  exact ⟨_, .ofEmitted event rfl, hPlace f⟩

/- The calls did nothing to the connections, and took no
   note. -/
def Progress.idle (server : Server) : Progress where
  Rel w w' :=
    w'.nextPool = w.nextPool ∧
      ∀ f : Fleet, f.Becomes server w w' f
  ofSameCalls hSame :=
    ⟨hSame.nextPool, fun _ => .ofSameEvents hSame.events⟩
  trans := by
    rintro w w' w'' ⟨hNext, hFirst⟩ ⟨hLater, hSecond⟩
    refine ⟨hLater.trans hNext, ?_⟩
    intro f
    exact (hFirst f).trans (hSecond f)

/- A call that has nothing to do with the connections. -/
theorem Progress.idle_admits
    {server : Server}
    {event : Event}
    (hSame : ∀ f : Fleet, f.step server event = f) :
    (Progress.idle server).Admits event := by
  intro w
  refine ⟨rfl, ?_⟩
  intro f
  have hStep :
      f.Becomes server w (w.emitted event)
        (f.step server event) :=
    .ofEmitted event rfl
  rw [hSame f] at hStep
  exact hStep

end SqlGateway
