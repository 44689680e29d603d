import SqlGateway.Proofs.Act.Run
import SqlGateway.Proofs.Driver.Script

/-
  This file defines what an action keeps, whether it fails
  or not: a property of its state, and a relation between
  the worlds before and after it.

  What an action is made of tells what it keeps, so a fact
  about a whole operation comes from facts about the calls
  of drivers in it.

  Key definitions include:
    * `Progress`
    * `Progress.Admits`
    * `Act.Keeps`

  Main declarations:
    * `Act.Keeps.bind`
    * `Act.Keeps.rescue`
    * `Act.Keeps.within` and `Act.Keeps.apart`
-/

namespace SqlGateway

------------------------------------------------------------
-- Progress of Worlds
------------------------------------------------------------

/-
  Two worlds with the same calls of drivers: they differ in
  what was logged, what was raised, and how many replies are
  left.
-/
structure World.SameCalls (w w' : World) : Prop where
  events : w'.events = w.events
  nextPool : w'.nextPool = w.nextPool
  script : w.script.Leaves w'.script

/-
  A relation between a world and a later one.  It may tell
  of the calls of drivers only, and holds from the first to
  the last of several worlds if it holds from each to the
  next.
-/
structure Progress where
  Rel : World → World → Prop
  ofSameCalls :
    ∀ {w w' : World}, w.SameCalls w' → Rel w w'
  trans :
    ∀ {w w' w'' : World}, Rel w w' → Rel w' w'' → Rel w w''

namespace Progress

theorem refl
    (progress : Progress)
    (w : World) :
    progress.Rel w w :=
  progress.ofSameCalls ⟨rfl, rfl, .refl _⟩

/- A call of a driver is no more than a progress allows. -/
def Admits
    (progress : Progress)
    (event : Event) : Prop :=
  ∀ w : World, progress.Rel w (w.emitted event)

end Progress

------------------------------------------------------------
-- What Actions Keep
------------------------------------------------------------

/-
  From any state with a property, an action ends, well or
  not, in a state with that property, and in a world that
  the one before leads to.
-/
def Act.Keeps
    {σ α : Type}
    (inv : σ → Prop)
    (progress : Progress)
    (act : Act σ α) : Prop :=
  ∀ (s : σ) (w : World), inv s →
    inv (act.run s w).state ∧
      progress.Rel w (act.run s w).world

namespace Act

namespace Keeps

variable {σ τ α β : Type}
variable {inv : σ → Prop}
variable {progress : Progress}

theorem pure (a : α) :
    Keeps inv progress (Pure.pure a : Act σ α) :=
  fun _ w hInv => ⟨hInv, progress.refl w⟩

theorem fail (e : Failure) :
    Keeps inv progress (Act.fail e : Act σ α) :=
  fun _ w hInv => ⟨hInv, progress.refl w⟩

theorem bind
    {act : Act σ α}
    {next : α → Act σ β}
    (hAct : Keeps inv progress act)
    (hNext : ∀ a, Keeps inv progress (next a)) :
    Keeps inv progress (act >>= next) := by
  intro s w hInv
  have hFirst := hAct s w hInv
  cases hResult : (act.run s w).result with
  | ok a =>
      rw [run_bind_of_ok hResult]
      have hSecond := hNext a _ (act.run s w).world hFirst.1
      exact ⟨hSecond.1, progress.trans hFirst.2 hSecond.2⟩
  | error e =>
      rw [run_bind_of_error hResult]
      exact hFirst

theorem discard
    {act : Act σ α}
    (hAct : Keeps inv progress act) :
    Keeps inv progress (Functor.discard act) := by
  intro s w hInv
  rw [run_discard]
  exact hAct s w hInv

theorem ite
    {c : Prop}
    [Decidable c]
    {act other : Act σ α}
    (hThen : Keeps inv progress act)
    (hElse : Keeps inv progress other) :
    Keeps inv progress (if c then act else other) := by
  split
  · exact hThen
  · exact hElse

theorem ofExcept (result : Except Failure α) :
    Keeps inv progress
      (Act.ofExcept result : Act σ α) := by
  intro s w hInv
  rw [run_ofExcept]
  exact ⟨hInv, progress.refl w⟩

/- What follows a result is known to follow a good one. -/
theorem ofExcept_bind
    {result : Except Failure α}
    {next : α → Act σ β}
    (hNext : ∀ a, result = .ok a →
      Keeps inv progress (next a)) :
    Keeps inv progress (Act.ofExcept result >>= next) := by
  cases result with
  | error e => exact fail e
  | ok a => exact hNext a rfl

theorem state_bind
    {next : σ → Act σ β}
    (hNext : ∀ s, inv s → Keeps inv progress (next s)) :
    Keeps inv progress (state >>= next) := by
  intro s w hInv
  rw [run_state_bind]
  exact hNext s hInv s w hInv

theorem update
    {f : σ → σ}
    (hUpdate : ∀ s, inv s → inv (f s)) :
    Keeps inv progress (Act.update f) :=
  fun s w hInv => ⟨hUpdate s hInv, progress.refl w⟩

theorem within
    {part : τ}
    {put : τ → σ → σ}
    {partInv : τ → Prop}
    {act : Act τ α}
    (hPart : partInv part)
    (hPut :
      ∀ t s, partInv t → inv s → inv (put t s))
    (hAct : Keeps partInv progress act) :
    Keeps inv progress (Act.within part put act) := by
  intro s w hInv
  have hOwn := hAct part w hPart
  rw [run_within]
  exact ⟨hPut _ s hOwn.1 hInv, hOwn.2⟩

theorem apart
    {own : τ}
    {ownInv : τ → Prop}
    {act : Act τ α}
    (hOwn : ownInv own)
    (hAct : Keeps ownInv progress act) :
    Keeps inv progress (Act.apart own act) := by
  intro s w hInv
  rw [run_apart]
  exact ⟨hInv, (hAct own w hOwn).2⟩

theorem attempt
    {act : Act σ α}
    (hAct : Keeps inv progress act) :
    Keeps inv progress (Act.attempt act) :=
  fun s w hInv => hAct s w hInv

theorem rescue
    {act : Act σ α}
    {handle : Failure → Act σ α}
    (hAct : Keeps inv progress act)
    (hHandle : ∀ e, Keeps inv progress (handle e)) :
    Keeps inv progress (Act.rescue act handle) := by
  intro s w hInv
  have hFirst := hAct s w hInv
  cases hResult : (act.run s w).result with
  | ok a =>
      rw [run_rescue_of_ok hResult]
      exact hFirst
  | error e =>
      rw [run_rescue_of_error hResult]
      split
      · exact hFirst
      · have hSecond :=
          hHandle e _ (act.run s w).world hFirst.1
        exact
          ⟨hSecond.1, progress.trans hFirst.2 hSecond.2⟩

theorem wrapping
    {wrap : Failure → Failure}
    {act : Act σ α}
    (hAct : Keeps inv progress act) :
    Keeps inv progress (Act.wrapping wrap act) := by
  intro s w hInv
  rw [run_wrapping]
  exact hAct s w hInv

theorem log
    (level : LogLevel)
    (message : String) :
    Keeps inv progress (Act.log level message) :=
  fun _ _ hInv =>
    ⟨hInv, progress.ofSameCalls ⟨rfl, rfl, .refl _⟩⟩

theorem emit
    {event : Event}
    (hAdmits : progress.Admits event) :
    Keeps inv progress (Act.emit event) :=
  fun _ w hInv => ⟨hInv, hAdmits w⟩

theorem raise
    (call : DriverCall)
    (e : Failure) :
    Keeps inv progress (Act.raise call e : Act σ α) :=
  fun _ _ hInv =>
    ⟨hInv, progress.ofSameCalls ⟨rfl, rfl, .refl _⟩⟩

theorem failIf
    (call : DriverCall)
    (failure? : Option Failure) :
    Keeps inv progress (Act.failIf call failure?) := by
  cases failure? with
  | none => exact pure ()
  | some e => exact raise call e

theorem ofDriver
    (call : DriverCall)
    (result : Except Failure α) :
    Keeps inv progress
      (Act.ofDriver call result : Act σ α) := by
  cases result with
  | ok a => exact pure a
  | error e => exact raise call e

theorem script :
    Keeps inv progress Act.script :=
  fun _ w hInv => ⟨hInv, progress.refl w⟩

theorem nextReply :
    Keeps inv progress Act.nextReply :=
  fun _ w hInv =>
    ⟨hInv, progress.ofSameCalls ⟨rfl, rfl, .tail w.script⟩⟩

theorem newPool
    (hAdmits : ∀ w : World,
      progress.Rel w { w with nextPool := w.nextPool + 1 }) :
    Keeps inv progress Act.newPool :=
  fun _ w hInv => ⟨hInv, hAdmits w⟩

end Keeps

end Act

end SqlGateway
