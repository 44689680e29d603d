import SqlGateway.Driver.World

/-
  This file defines the actions of the gateway: they read
  and change a state, call drivers, log, and may fail.  A
  failure keeps what was changed before it.

  Key definitions include:
    * `Outcome`
    * `Act`
    * `Act.within`
    * `Act.apart`
-/

namespace SqlGateway

/- What an action leaves: its result, and the state and
   world after it. -/
structure Outcome (σ α : Type) where
  result : Except Failure α
  state : σ
  world : World

/- An action over a state. -/
def Act (σ α : Type) : Type :=
  σ → World → Outcome σ α

namespace Act

variable {σ τ α β : Type}

/- Run an action. -/
def run
    (act : Act σ α)
    (state : σ)
    (world : World) : Outcome σ α :=
  act state world

/- Give a value and change nothing. -/
protected def pure (a : α) : Act σ α :=
  fun state world => ⟨.ok a, state, world⟩

/- Go on with the value of an action, unless it failed. -/
protected def bind
    (act : Act σ α)
    (next : α → Act σ β) : Act σ β :=
  fun state world =>
    let out := act state world
    match out.result with
    | .ok a => next a out.state out.world
    | .error e => ⟨.error e, out.state, out.world⟩

instance : Monad (Act σ) where
  pure := Act.pure
  bind := Act.bind

/- Fail. -/
def fail (failure : Failure) : Act σ α :=
  fun state world => ⟨.error failure, state, world⟩

/- Go on after a failure, unless it ends the run. -/
def rescue
    (act : Act σ α)
    (handle : Failure → Act σ α) : Act σ α :=
  fun state world =>
    let out := act state world
    match out.result with
    | .ok _ => out
    | .error e =>
        if e.endsRun then
          out
        else
          handle e out.state out.world

/- The result of an action as a value. -/
def attempt (act : Act σ α) : Act σ (Except Failure α) :=
  fun state world =>
    let out := act state world
    ⟨.ok out.result, out.state, out.world⟩

/- A result as an action. -/
def ofExcept : Except Failure α → Act σ α
  | .ok a => Act.pure a
  | .error e => fail e

/- Put a failure of an action into a larger one. -/
def wrapping
    (wrap : Failure → Failure)
    (act : Act σ α) : Act σ α :=
  rescue act fun e => fail (wrap e)

/- The state. -/
def state : Act σ σ :=
  fun state world => ⟨.ok state, state, world⟩

/- Change the state. -/
def update (f : σ → σ) : Act σ Unit :=
  fun state world => ⟨.ok (), f state, world⟩

/-
  Run an action on a part of the state, which is put back
  whether the action fails or not.
-/
def within
    (part : τ)
    (put : τ → σ → σ)
    (act : Act τ α) : Act σ α :=
  fun state world =>
    let out := act part world
    ⟨out.result, put out.state state, out.world⟩

/- Run an action on a state of its own. -/
def apart
    (own : τ)
    (act : Act τ α) : Act σ (α × τ) :=
  fun state world =>
    let out := act own world
    ⟨out.result.map fun a => (a, out.state), state,
      out.world⟩

/- Record a call of a driver. -/
def emit (event : Event) : Act σ Unit :=
  fun state world =>
    ⟨.ok (), state,
      { world with events := world.events ++ [event] }⟩

/- Log a message. -/
def log
    (level : LogLevel)
    (message : String) : Act σ Unit :=
  fun state world =>
    let entry : LogRecord := ⟨level, message⟩
    ⟨.ok (), state,
      { world with logs := world.logs ++ [entry] }⟩

/- Fail as a driver does in a call, which is recorded. -/
def raise
    (call : DriverCall)
    (failure : Failure) : Act σ α :=
  fun state world =>
    let entry : Raised := ⟨call, failure⟩
    ⟨.error failure, state,
      { world with raised := world.raised ++ [entry] }⟩

/- Fail in a call as the script says, if it does. -/
def failIf
    (call : DriverCall)
    (failure? : Option Failure) : Act σ Unit :=
  match failure? with
  | some e => raise call e
  | none => Act.pure ()

/- The result of a call as an action. -/
def ofDriver
    (call : DriverCall) : Except Failure α → Act σ α
  | .ok a => Act.pure a
  | .error e => raise call e

/- The script of the step. -/
def script : Act σ Script :=
  fun state world => ⟨.ok world.script, state, world⟩

/- The next reply; an empty one when none is left. -/
def nextReply : Act σ Reply :=
  fun state world =>
    let script := world.script
    let rest := { script with replies := script.replies.tail }
    ⟨.ok (script.replies.headD {}), state,
      { world with script := rest }⟩

/- A number for a new pool. -/
def newPool : Act σ Nat :=
  fun state world =>
    ⟨.ok world.nextPool, state,
      { world with nextPool := world.nextPool + 1 }⟩

end Act

end SqlGateway
