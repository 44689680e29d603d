import Mathlib.Data.List.Forall2
import SqlGateway.Proofs.Act.Run

/-
  This file compares two actions run side by side: from
  states and worlds that are alike, they fail alike or give
  values that are alike, and leave states and worlds that
  are alike.

  What the actions are made of tells whether they are alike,
  so a fact about two whole runs comes from facts about the
  few places where they differ.

  Key definitions include:
    * `ResultAlike`
    * `World.Alike`
    * `Act.Alike`

  Main declarations:
    * `Act.Alike.bind` and `Act.Alike.bind_same`
    * `Act.Alike.rescue`
    * `Act.Alike.within` and `Act.Alike.apart`
-/

namespace SqlGateway

------------------------------------------------------------
-- Results and Worlds
------------------------------------------------------------

/- Two results are values that are related, or the same
   failure. -/
inductive ResultAlike
    {ε α β : Type}
    (V : α → β → Prop) :
    Except ε α → Except ε β → Prop where
  | ok
      {a : α}
      {b : β}
      (hValues : V a b) :
      ResultAlike V (.ok a) (.ok b)
  | error (e : ε) : ResultAlike V (.error e) (.error e)

namespace ResultAlike

variable {ε α β γ δ : Type}
variable {V : α → β → Prop}

theorem refl
    {V : α → α → Prop}
    (hValues : ∀ a, V a a)
    (result : Except ε α) :
    ResultAlike V result result := by
  cases result with
  | ok a => exact .ok (hValues a)
  | error e => exact .error e

theorem eq
    {result result' : Except ε α}
    (hAlike : ResultAlike (· = ·) result result') :
    result = result' := by
  cases hAlike with
  | ok hValues => rw [hValues]
  | error e => rfl

/- Values that are related are related more widely. -/
theorem mono
    {U : α → β → Prop}
    {result : Except ε α}
    {result' : Except ε β}
    (hAlike : ResultAlike V result result')
    (hMono : ∀ a b, V a b → U a b) :
    ResultAlike U result result' := by
  cases hAlike with
  | ok hValues => exact .ok (hMono _ _ hValues)
  | error e => exact .error e

theorem map
    {U : γ → δ → Prop}
    {f : α → γ}
    {g : β → δ}
    {result : Except ε α}
    {result' : Except ε β}
    (hAlike : ResultAlike V result result')
    (hMap : ∀ a b, V a b → U (f a) (g b)) :
    ResultAlike U (result.map f) (result'.map g) := by
  cases hAlike with
  | ok hValues => exact .ok (hMap _ _ hValues)
  | error e => exact .error e

end ResultAlike

/- Two worlds that differ at most in the calls of drivers
   that were recorded, which are related one by one. -/
structure World.Alike
    (E : Event → Event → Prop)
    (w w' : World) : Prop where
  script : w.script = w'.script
  events : List.Forall₂ E w.events w'.events
  raised : w.raised = w'.raised
  logs : w.logs = w'.logs
  nextPool : w.nextPool = w'.nextPool

namespace World.Alike

theorem refl
    {E : Event → Event → Prop}
    (hRefl : ∀ event, E event event)
    (w : World) :
    World.Alike E w w where
  script := rfl
  events := List.forall₂_same.mpr fun event _ => hRefl event
  raised := rfl
  logs := rfl
  nextPool := rfl

theorem eq
    {w w' : World}
    (hAlike : World.Alike (· = ·) w w') :
    w = w' := by
  have hEvents := List.forall₂_eq_eq_eq ▸ hAlike.events
  rcases w with ⟨script, events, raised, logs, nextPool⟩
  rcases w' with ⟨script', events', raised', logs', nextPool'⟩
  rcases hAlike with ⟨rfl, -, rfl, rfl, rfl⟩
  cases hEvents
  rfl

end World.Alike

/- Two outcomes with results, states and worlds that are
   alike. -/
structure Outcome.Alike
    {σ α : Type}
    (E : Event → Event → Prop)
    (R : σ → σ → Prop)
    (V : α → α → Prop)
    (out out' : Outcome σ α) : Prop where
  result : ResultAlike V out.result out'.result
  state : R out.state out'.state
  world : World.Alike E out.world out'.world

/- Two actions whose outcomes are alike from all states and
   worlds that are alike. -/
def Act.Alike
    {σ α : Type}
    (E : Event → Event → Prop)
    (R : σ → σ → Prop)
    (V : α → α → Prop)
    (act act' : Act σ α) : Prop :=
  ∀ (s s' : σ) (w w' : World), R s s' →
    World.Alike E w w' →
      Outcome.Alike E R V (act.run s w) (act'.run s' w')

namespace Act

namespace Alike

variable {σ τ α β : Type}
variable {E : Event → Event → Prop}
variable {R : σ → σ → Prop}
variable {V : α → α → Prop}
variable {U : β → β → Prop}

------------------------------------------------------------
-- Sequences and States
------------------------------------------------------------

theorem pure
    {a a' : α}
    (hValues : V a a') :
    Alike E R V (Pure.pure a : Act σ α) (Pure.pure a') :=
  fun _ _ _ _ hState hWorld =>
    ⟨.ok hValues, hState, hWorld⟩

theorem fail (e : Failure) :
    Alike E R V (Act.fail e : Act σ α) (Act.fail e) :=
  fun _ _ _ _ hState hWorld => ⟨.error e, hState, hWorld⟩

/- Two actions in a row, which are alike one by one. -/
theorem bind
    {act act' : Act σ α}
    {next next' : α → Act σ β}
    (hAct : Alike E R V act act')
    (hNext : ∀ a a', V a a' →
      Alike E R U (next a) (next' a')) :
    Alike E R U (act >>= next) (act' >>= next') := by
  intro s s' w w' hState hWorld
  rcases hAct s s' w w' hState hWorld with
    ⟨hResult, hAfter, hLater⟩
  cases hOut : (act.run s w).result with
  | ok a =>
      cases hOut' : (act'.run s' w').result with
      | ok a' =>
          rw [hOut, hOut'] at hResult
          cases hResult with
          | ok hValues =>
              rw [run_bind_of_ok hOut, run_bind_of_ok hOut']
              exact hNext a a' hValues _ _ _ _ hAfter hLater
      | error e =>
          rw [hOut, hOut'] at hResult
          cases hResult
  | error e =>
      cases hOut' : (act'.run s' w').result with
      | ok a' =>
          rw [hOut, hOut'] at hResult
          cases hResult
      | error e' =>
          rw [hOut, hOut'] at hResult
          cases hResult
          rw [run_bind_of_error hOut,
            run_bind_of_error hOut']
          exact ⟨.error e, hAfter, hLater⟩

theorem bind_same
    {act act' : Act σ α}
    {next next' : α → Act σ β}
    (hAct : Alike E R (· = ·) act act')
    (hNext : ∀ a, Alike E R U (next a) (next' a)) :
    Alike E R U (act >>= next) (act' >>= next') :=
  hAct.bind fun a _ hSame => hSame ▸ hNext a

theorem discard
    {act act' : Act σ α}
    (hAct : Alike E R V act act') :
    Alike E R (· = ·) (Functor.discard act)
      (Functor.discard act') :=
  hAct.bind fun _ _ _ => .pure rfl

theorem ite
    {c : Prop}
    [Decidable c]
    {act act' other other' : Act σ α}
    (hThen : Alike E R V act act')
    (hElse : Alike E R V other other') :
    Alike E R V (if c then act else other)
      (if c then act' else other') := by
  split
  · exact hThen
  · exact hElse

theorem ofExcept
    {result result' : Except Failure α}
    (hResult : ResultAlike V result result') :
    Alike E R V (Act.ofExcept result : Act σ α)
      (Act.ofExcept result') := by
  cases hResult with
  | ok hValues => exact pure hValues
  | error e => exact fail e

theorem ofExcept_self (result : Except Failure α) :
    Alike E R (· = ·) (Act.ofExcept result : Act σ α)
      (Act.ofExcept result) :=
  ofExcept (.refl (fun _ => rfl) result)

theorem state_bind
    {next next' : σ → Act σ β}
    (hNext : ∀ s s', R s s' →
      Alike E R U (next s) (next' s')) :
    Alike E R U (state >>= next) (state >>= next') := by
  intro s s' w w' hState hWorld
  rw [run_state_bind, run_state_bind]
  exact hNext s s' hState s s' w w' hState hWorld

theorem update
    {f f' : σ → σ}
    (hUpdate : ∀ s s', R s s' → R (f s) (f' s')) :
    Alike E R (· = ·) (Act.update f) (Act.update f') :=
  fun _ _ _ _ hState hWorld =>
    ⟨.ok rfl, hUpdate _ _ hState, hWorld⟩

theorem within
    {P : τ → τ → Prop}
    {part part' : τ}
    {put put' : τ → σ → σ}
    {act act' : Act τ α}
    (hPart : P part part')
    (hPut : ∀ t t' s s', P t t' → R s s' →
      R (put t s) (put' t' s'))
    (hAct : Alike E P V act act') :
    Alike E R V (Act.within part put act)
      (Act.within part' put' act') := by
  intro s s' w w' hState hWorld
  rcases hAct part part' w w' hPart hWorld with
    ⟨hResult, hAfter, hLater⟩
  rw [run_within, run_within]
  exact ⟨hResult, hPut _ _ _ _ hAfter hState, hLater⟩

theorem apart
    {P : τ → τ → Prop}
    {own own' : τ}
    {act act' : Act τ α}
    (hOwn : P own own')
    (hAct : Alike E P V act act') :
    Alike E R (fun out out' => V out.1 out'.1 ∧ P out.2 out'.2)
      (Act.apart own act) (Act.apart own' act') := by
  intro s s' w w' hState hWorld
  rcases hAct own own' w w' hOwn hWorld with
    ⟨hResult, hAfter, hLater⟩
  rw [run_apart, run_apart]
  exact
    ⟨hResult.map fun _ _ hValues => ⟨hValues, hAfter⟩,
      hState, hLater⟩

------------------------------------------------------------
-- Failures
------------------------------------------------------------

theorem attempt
    {act act' : Act σ α}
    (hAct : Alike E R V act act') :
    Alike E R (ResultAlike V) (Act.attempt act)
      (Act.attempt act') := by
  intro s s' w w' hState hWorld
  rcases hAct s s' w w' hState hWorld with
    ⟨hResult, hAfter, hLater⟩
  rw [run_attempt, run_attempt]
  exact ⟨.ok hResult, hAfter, hLater⟩

/- Actions, and what is done after the same failure. -/
theorem rescue
    {act act' : Act σ α}
    {handle handle' : Failure → Act σ α}
    (hAct : Alike E R V act act')
    (hHandle : ∀ e, Alike E R V (handle e) (handle' e)) :
    Alike E R V (Act.rescue act handle)
      (Act.rescue act' handle') := by
  intro s s' w w' hState hWorld
  have hOut := hAct s s' w w' hState hWorld
  have hResult := hOut.result
  cases hFirst : (act.run s w).result with
  | ok a =>
      cases hSecond : (act'.run s' w').result with
      | ok a' =>
          rw [run_rescue_of_ok hFirst, run_rescue_of_ok hSecond]
          exact hOut
      | error e =>
          rw [hFirst, hSecond] at hResult
          cases hResult
  | error e =>
      cases hSecond : (act'.run s' w').result with
      | ok a' =>
          rw [hFirst, hSecond] at hResult
          cases hResult
      | error e' =>
          rw [hFirst, hSecond] at hResult
          cases hResult
          rw [run_rescue_of_error hFirst,
            run_rescue_of_error hSecond]
          split
          · exact hOut
          · exact hHandle e _ _ _ _ hOut.state hOut.world

theorem wrapping
    {wrap : Failure → Failure}
    {act act' : Act σ α}
    (hAct : Alike E R V act act') :
    Alike E R V (Act.wrapping wrap act)
      (Act.wrapping wrap act') :=
  hAct.rescue fun _ => .fail _

------------------------------------------------------------
-- Records and Scripts
------------------------------------------------------------

theorem log
    (level : LogLevel)
    (message : String) :
    Alike E R (· = ·) (Act.log level message)
      (Act.log level message) := by
  intro s s' w w' hState hWorld
  let entry : LogRecord := ⟨level, message⟩
  refine ⟨.ok rfl, hState, ?_⟩
  exact
    { hWorld with
      logs := congrArg (· ++ [entry]) hWorld.logs }

theorem emit
    {event event' : Event}
    (hEvents : E event event') :
    Alike E R (· = ·) (Act.emit event) (Act.emit event') := by
  intro s s' w w' hState hWorld
  refine ⟨.ok rfl, hState, ?_⟩
  exact
    { hWorld with
      events := List.rel_append hWorld.events
        (.cons hEvents .nil) }

theorem raise
    (call : DriverCall)
    (e : Failure) :
    Alike E R V (Act.raise call e : Act σ α)
      (Act.raise call e) := by
  intro s s' w w' hState hWorld
  let entry : Raised := ⟨call, e⟩
  refine ⟨.error e, hState, ?_⟩
  exact
    { hWorld with
      raised := congrArg (· ++ [entry]) hWorld.raised }

theorem failIf
    (call : DriverCall)
    (failure? : Option Failure) :
    Alike E R (· = ·) (Act.failIf call failure?)
      (Act.failIf call failure?) := by
  cases failure? with
  | none => exact pure rfl
  | some e => exact raise call e

theorem ofDriver
    {call : DriverCall}
    {result result' : Except Failure α}
    (hResult : ResultAlike V result result') :
    Alike E R V (Act.ofDriver call result : Act σ α)
      (Act.ofDriver call result') := by
  cases hResult with
  | ok hValues => exact pure hValues
  | error e => exact raise call e

theorem script :
    Alike E R (· = ·) Act.script Act.script :=
  fun _ _ _ _ hState hWorld =>
    ⟨.ok hWorld.script, hState, hWorld⟩

theorem nextReply :
    Alike E R (· = ·) Act.nextReply Act.nextReply := by
  intro s s' w w' hState hWorld
  have hReplies := congrArg Script.replies hWorld.script
  refine ⟨.ok ?_, hState, ?_⟩
  · exact congrArg (List.headD · {}) hReplies
  · exact
      { hWorld with
        script := by
          change
            ({ w.script with
              replies := w.script.replies.tail } : Script) =
            { w'.script with
              replies := w'.script.replies.tail }
          rw [hWorld.script] }

theorem newPool :
    Alike E R (· = ·) Act.newPool Act.newPool := by
  intro s s' w w' hState hWorld
  refine ⟨.ok hWorld.nextPool, hState, ?_⟩
  exact
    { hWorld with
      nextPool := congrArg (· + 1) hWorld.nextPool }

end Alike

end Act

end SqlGateway
