import SqlGateway.Proofs.Act.Run

/-
  This file defines how the failure of an action relates to
  the failures that the drivers raised during it.  An action
  that ends well met none.

  Key definitions include:
    * `Outcome.Blamed` and `Act.Blames`
    * `Thrown` and `OwnOrThrown`

  Main declarations:
    * `Act.Blames.bind`
    * `Act.Blames.wrapping`
-/

namespace SqlGateway

------------------------------------------------------------
-- Blame
------------------------------------------------------------

/-
  An action ended well and no driver raised anything, or it
  failed with a failure that is related to what the drivers
  raised since the world it started in.
-/
abbrev Outcome.Blamed
    {σ α : Type}
    (blame : List Raised → Failure → Prop)
    (w : World)
    (out : Outcome σ α) : Prop :=
  ∃ raised : List Raised,
    out.world.raised = w.raised ++ raised ∧
      match out.result with
      | .ok _ => raised = []
      | .error e => blame raised e

theorem Outcome.Blamed.ofOk
    {σ α : Type}
    {blame : List Raised → Failure → Prop}
    {w : World}
    {out : Outcome σ α}
    {a : α}
    (hOk : out.result = .ok a)
    (hRaised : out.world.raised = w.raised) :
    out.Blamed blame w := by
  refine ⟨[], ?_, ?_⟩
  · rw [hRaised, List.append_nil]
  · rw [hOk]

theorem Outcome.Blamed.ofError
    {σ α : Type}
    {blame : List Raised → Failure → Prop}
    {w : World}
    {out : Outcome σ α}
    {raised : List Raised}
    {e : Failure}
    (hError : out.result = .error e)
    (hRaised : out.world.raised = w.raised ++ raised)
    (hBlame : blame raised e) :
    out.Blamed blame w := by
  refine ⟨raised, hRaised, ?_⟩
  rw [hError]
  exact hBlame

theorem Outcome.Blamed.raised_of_ok
    {σ α : Type}
    {blame : List Raised → Failure → Prop}
    {w : World}
    {out : Outcome σ α}
    {a : α}
    (hBlamed : out.Blamed blame w)
    (hOk : out.result = .ok a) :
    out.world.raised = w.raised := by
  rcases hBlamed with ⟨raised, hRaised, hResult⟩
  rw [hOk] at hResult
  rw [hRaised, hResult, List.append_nil]

theorem Outcome.Blamed.exists_of_error
    {σ α : Type}
    {blame : List Raised → Failure → Prop}
    {w : World}
    {out : Outcome σ α}
    {e : Failure}
    (hBlamed : out.Blamed blame w)
    (hError : out.result = .error e) :
    ∃ raised : List Raised,
      out.world.raised = w.raised ++ raised ∧
        blame raised e := by
  rcases hBlamed with ⟨raised, hRaised, hResult⟩
  rw [hError] at hResult
  exact ⟨raised, hRaised, hResult⟩

/- Two actions in a row: after a failure of the first there
   is no second. -/
theorem Outcome.Blamed.bind
    {σ α β : Type}
    {blame : List Raised → Failure → Prop}
    {act : Act σ α}
    {next : α → Act σ β}
    {s : σ}
    {w : World}
    (hAct : (act.run s w).Blamed blame w)
    (hNext : ∀ a,
      ((next a).run (act.run s w).state
        (act.run s w).world).Blamed blame
          (act.run s w).world) :
    ((act >>= next).run s w).Blamed blame w := by
  cases hFirst : (act.run s w).result with
  | ok a =>
      have hNone := hAct.raised_of_ok hFirst
      rw [Act.run_bind_of_ok hFirst]
      rcases hNext a with ⟨raised, hRaised, hResult⟩
      rw [hNone] at hRaised
      exact ⟨raised, hRaised, hResult⟩
  | error e =>
      rcases hAct.exists_of_error hFirst with
        ⟨raised, hRaised, hBlame⟩
      rw [Act.run_bind_of_error hFirst]
      exact .ofError rfl hRaised hBlame

theorem Outcome.Blamed.discard
    {σ α : Type}
    {blame : List Raised → Failure → Prop}
    {act : Act σ α}
    {s : σ}
    {w : World}
    (hAct : (act.run s w).Blamed blame w) :
    ((Functor.discard act).run s w).Blamed blame w := by
  rw [Act.run_discard]
  cases hFirst : (act.run s w).result with
  | ok a => exact .ofOk rfl (hAct.raised_of_ok hFirst)
  | error e =>
      rcases hAct.exists_of_error hFirst with
        ⟨raised, hRaised, hBlame⟩
      exact .ofError rfl hRaised hBlame

theorem Outcome.Blamed.wrapping
    {σ α : Type}
    {blame inner : List Raised → Failure → Prop}
    {wrap : Failure → Failure}
    {act : Act σ α}
    {s : σ}
    {w : World}
    (hAct : (act.run s w).Blamed inner w)
    (hWrap : ∀ raised e, inner raised e →
      blame raised (e.wrappedBy wrap)) :
    ((Act.wrapping wrap act).run s w).Blamed blame w := by
  rw [Act.run_wrapping]
  cases hFirst : (act.run s w).result with
  | ok a => exact .ofOk rfl (hAct.raised_of_ok hFirst)
  | error e =>
      rcases hAct.exists_of_error hFirst with
        ⟨raised, hRaised, hBlame⟩
      exact .ofError rfl hRaised (hWrap raised e hBlame)

/- However an action ends, its failure is blamed so. -/
def Act.Blames
    {σ α : Type}
    (blame : List Raised → Failure → Prop)
    (act : Act σ α) : Prop :=
  ∀ (s : σ) (w : World), (act.run s w).Blamed blame w

/- A failure comes just as a driver raised it, in one of
   some calls. -/
inductive Thrown
    (calls : List DriverCall) :
    List Raised → Failure → Prop where
  | mk
      {call : DriverCall}
      (hCall : call ∈ calls)
      (e : Failure) :
      Thrown calls [⟨call, e⟩] e

/- A failure comes just as a driver raised it, or no driver
   raised anything. -/
inductive OwnOrThrown
    (calls : List DriverCall) :
    List Raised → Failure → Prop where
  | own (e : Failure) : OwnOrThrown calls [] e
  | thrown
      {raised : List Raised}
      {e : Failure}
      (hThrown : Thrown calls raised e) :
      OwnOrThrown calls raised e

namespace Act

namespace Blames

variable {σ τ α β : Type}
variable {blame : List Raised → Failure → Prop}

------------------------------------------------------------
-- What Actions Blame
------------------------------------------------------------

theorem pure (a : α) :
    Blames blame (Pure.pure a : Act σ α) :=
  fun _ w => ⟨[], (List.append_nil w.raised).symm, rfl⟩

theorem fail
    {e : Failure}
    (hBlame : blame [] e) :
    Blames blame (Act.fail e : Act σ α) :=
  fun _ w => ⟨[], (List.append_nil w.raised).symm, hBlame⟩

theorem ofExcept
    {result : Except Failure α}
    (hBlame : ∀ e, result = .error e → blame [] e) :
    Blames blame (Act.ofExcept result : Act σ α) := by
  cases result with
  | ok a => exact pure a
  | error e => exact fail (hBlame e rfl)

theorem bind
    {act : Act σ α}
    {next : α → Act σ β}
    (hAct : Blames blame act)
    (hNext : ∀ a, Blames blame (next a)) :
    Blames blame (act >>= next) :=
  fun s w => (hAct s w).bind fun a => hNext a _ _

theorem discard
    {act : Act σ α}
    (hAct : Blames blame act) :
    Blames blame (Functor.discard act) :=
  fun s w => (hAct s w).discard

theorem ite
    {c : Prop}
    [Decidable c]
    {act other : Act σ α}
    (hThen : Blames blame act)
    (hElse : Blames blame other) :
    Blames blame (if c then act else other) := by
  split
  · exact hThen
  · exact hElse

/- What is blamed in one way is blamed in a wider one. -/
theorem mono
    {wider : List Raised → Failure → Prop}
    {act : Act σ α}
    (hAct : Blames blame act)
    (hWider : ∀ raised e, blame raised e → wider raised e) :
    Blames wider act := by
  intro s w
  cases hFirst : (act.run s w).result with
  | ok a =>
      exact .ofOk hFirst ((hAct s w).raised_of_ok hFirst)
  | error e =>
      rcases (hAct s w).exists_of_error hFirst with
        ⟨raised, hRaised, hBlame⟩
      exact .ofError hFirst hRaised (hWider raised e hBlame)

theorem state_bind
    {next : σ → Act σ β}
    (hNext : ∀ s, Blames blame (next s)) :
    Blames blame (state >>= next) :=
  fun s w => hNext s s w

theorem update (f : σ → σ) :
    Blames blame (Act.update f) :=
  fun _ w => ⟨[], (List.append_nil w.raised).symm, rfl⟩

theorem within
    {part : τ}
    {put : τ → σ → σ}
    {act : Act τ α}
    (hAct : Blames blame act) :
    Blames blame (Act.within part put act) :=
  fun _ w => hAct part w

theorem apart
    {own : τ}
    {act : Act τ α}
    (hAct : Blames blame act) :
    Blames blame (Act.apart own act : Act σ (α × τ)) := by
  intro s w
  rw [run_apart]
  cases hFirst : (act.run own w).result with
  | ok a =>
      exact .ofOk rfl ((hAct own w).raised_of_ok hFirst)
  | error e =>
      rcases (hAct own w).exists_of_error hFirst with
        ⟨raised, hRaised, hBlame⟩
      exact .ofError rfl hRaised hBlame

/- Wrapping relates the larger failure to what was
   raised. -/
theorem wrapping
    {inner : List Raised → Failure → Prop}
    {wrap : Failure → Failure}
    {act : Act σ α}
    (hAct : Blames inner act)
    (hWrap : ∀ raised e, inner raised e →
      blame raised (e.wrappedBy wrap)) :
    Blames blame (Act.wrapping wrap act) :=
  fun s w => (hAct s w).wrapping hWrap

/-
  What is done after a failure, if that never ends well: the
  failure it ends with is blamed on all that was raised.  A
  failure that ends the run stays.
-/
theorem rescue
    {inner : List Raised → Failure → Prop}
    {act : Act σ α}
    {handle : Failure → Act σ α}
    (hAct : Blames inner act)
    (hEnds : ∀ raised e, inner raised e →
      e.endsRun = true → blame raised e)
    (hHandle : ∀ raised e, inner raised e →
      e.endsRun = false → ∀ s w, ∃ more e',
        ((handle e).run s w).result = .error e' ∧
          ((handle e).run s w).world.raised =
              w.raised ++ more ∧
            blame (raised ++ more) e') :
    Blames blame (Act.rescue act handle) := by
  intro s w
  cases hFirst : (act.run s w).result with
  | ok a =>
      rw [run_rescue_of_ok hFirst]
      exact .ofOk hFirst ((hAct s w).raised_of_ok hFirst)
  | error e =>
      rcases (hAct s w).exists_of_error hFirst with
        ⟨raised, hRaised, hInner⟩
      rw [run_rescue_of_error hFirst]
      cases hEnd : e.endsRun with
      | true =>
          rw [if_pos rfl]
          exact .ofError hFirst hRaised
            (hEnds raised e hInner hEnd)
      | false =>
          rw [if_neg Bool.false_ne_true]
          rcases hHandle raised e hInner hEnd _ _ with
            ⟨more, e', hError, hMore, hBlame⟩
          rw [hRaised, List.append_assoc] at hMore
          exact .ofError hError hMore hBlame

theorem log
    (level : LogLevel)
    (message : String) :
    Blames blame (Act.log level message : Act σ Unit) :=
  fun _ w => ⟨[], (List.append_nil w.raised).symm, rfl⟩

theorem emit (event : Event) :
    Blames blame (Act.emit event : Act σ Unit) :=
  fun _ w => ⟨[], (List.append_nil w.raised).symm, rfl⟩

theorem raise
    {call : DriverCall}
    {e : Failure}
    (hBlame : blame [⟨call, e⟩] e) :
    Blames blame (Act.raise call e : Act σ α) :=
  fun _ _ => ⟨[⟨call, e⟩], rfl, hBlame⟩

theorem failIf
    {call : DriverCall}
    {failure? : Option Failure}
    (hBlame : ∀ e, blame [⟨call, e⟩] e) :
    Blames blame
      (Act.failIf call failure? : Act σ Unit) := by
  cases failure? with
  | none => exact pure ()
  | some e => exact raise (hBlame e)

theorem ofDriver
    {call : DriverCall}
    {result : Except Failure α}
    (hBlame : ∀ e, blame [⟨call, e⟩] e) :
    Blames blame
      (Act.ofDriver call result : Act σ α) := by
  cases result with
  | ok a => exact pure a
  | error e => exact raise (hBlame e)

theorem script :
    Blames blame (Act.script : Act σ Script) :=
  fun _ w => ⟨[], (List.append_nil w.raised).symm, rfl⟩

theorem nextReply :
    Blames blame (Act.nextReply : Act σ Reply) :=
  fun _ w => ⟨[], (List.append_nil w.raised).symm, rfl⟩

theorem newPool :
    Blames blame (Act.newPool : Act σ Nat) :=
  fun _ w => ⟨[], (List.append_nil w.raised).symm, rfl⟩

end Blames

end Act

end SqlGateway
