import Mathlib.Data.List.Nodup
import SqlGateway.Driver.World

/-
  This file defines what a trace of driver calls tells of
  the pools: which were made, which were closed, and which
  are still open.  A ledger replays a trace, and holds at
  most one open pool at a time besides those given up.

  Key definitions include:
    * `madePools`, `closedPools` and `unreleased`
    * `Ledger` and `Ledger.Steps`
    * `Ledger.Fits`

  Main declarations:
    * `Ledger.Steps.fits`
    * `Ledger.Steps.exists_front`
-/

namespace SqlGateway

------------------------------------------------------------
-- Pools of a Trace
------------------------------------------------------------

namespace Event

/- The number of the pool that a call made. -/
def made? : Event → Option Nat
  | createPostgresPool pool _ _ => some pool
  | poolReady pool _ => some pool
  | _ => none

/- The number of the pool that a call closed. -/
def closed? : Event → Option Nat
  | closePool _ pool => some pool
  | _ => none

theorem made?_of_closed?
    {event : Event}
    {pool : Nat}
    (hClosed : event.closed? = some pool) :
    event.made? = none := by
  cases event with
  | closePool engine n => rfl
  | _ => simp [closed?] at hClosed

theorem closed?_of_made?
    {event : Event}
    {pool : Nat}
    (hMade : event.made? = some pool) :
    event.closed? = none := by
  cases event with
  | closePool engine n => simp [made?] at hMade
  | _ => rfl

end Event

/- The pools that were made, in their order. -/
def madePools (events : List Event) : List Nat :=
  events.filterMap Event.made?

/- The pools that were closed, in their order. -/
def closedPools (events : List Event) : List Nat :=
  events.filterMap Event.closed?

/- The pools that were made and never closed. -/
def unreleased (events : List Event) : List Nat :=
  (madePools events).filter fun pool =>
    pool ∉ closedPools events

theorem closedPools_append_one
    (events : List Event)
    (event : Event) :
    closedPools (events ++ [event]) =
      closedPools events ++ event.closed?.toList := by
  unfold closedPools
  rw [List.filterMap_append]
  cases hClosed : event.closed? with
  | none => simp [hClosed]
  | some pool => simp [hClosed]

theorem unreleased_append_other
    (events : List Event)
    {event : Event}
    (hMade : event.made? = none)
    (hClosed : event.closed? = none) :
    unreleased (events ++ [event]) = unreleased events := by
  simp [unreleased, madePools, closedPools, hMade, hClosed]

theorem unreleased_append_made
    (events : List Event)
    {event : Event}
    {pool : Nat}
    (hMade : event.made? = some pool)
    (hNew : pool ∉ closedPools events) :
    unreleased (events ++ [event]) =
      unreleased events ++ [pool] := by
  have hClosed := Event.closed?_of_made? hMade
  have hSame := closedPools_append_one events event
  rw [hClosed, Option.toList_none, List.append_nil] at hSame
  unfold unreleased
  rw [hSame]
  simp [madePools, hMade, hNew]

theorem unreleased_append_closed
    (events : List Event)
    {event : Event}
    {pool : Nat}
    (hClosed : event.closed? = some pool) :
    unreleased (events ++ [event]) =
      (unreleased events).filter (· ≠ pool) := by
  have hMade := Event.made?_of_closed? hClosed
  simp [unreleased, madePools, closedPools, hMade, hClosed,
    List.filter_filter, Bool.and_comm]

------------------------------------------------------------
-- Ledgers
------------------------------------------------------------

/-
  The open pools, as a holder of one pool sees them: those
  given up, the one that is held, and the number of the next
  one.
-/
structure Ledger where
  lost : List Nat
  held : Option Nat
  next : Nat

namespace Ledger

/- All pools of a ledger that are open. -/
def openPools (l : Ledger) : List Nat :=
  l.lost ++ l.held.toList

@[simp]
theorem openPools_none
    (lost : List Nat)
    (next : Nat) :
    openPools ⟨lost, none, next⟩ = lost := by
  simp [openPools]

@[simp]
theorem openPools_some
    (lost : List Nat)
    (pool next : Nat) :
    openPools ⟨lost, some pool, next⟩ = lost ++ [pool] :=
  rfl

/-
  What a call does to a ledger.  A pool is made when none is
  held, under the next number; only the pool that is held is
  closed.
-/
inductive Step : Ledger → Event → Ledger → Prop where
  | make
      {lost : List Nat}
      {next : Nat}
      {event : Event}
      (hMade : event.made? = some next) :
      Step ⟨lost, none, next⟩ event
        ⟨lost, some next, next + 1⟩
  | close
      {lost : List Nat}
      {pool next : Nat}
      {event : Event}
      (hClosed : event.closed? = some pool) :
      Step ⟨lost, some pool, next⟩ event ⟨lost, none, next⟩
  | other
      {l : Ledger}
      {event : Event}
      (hMade : event.made? = none)
      (hClosed : event.closed? = none) :
      Step l event l

/- What calls do to a ledger, one after the other. -/
inductive Steps : Ledger → List Event → Ledger → Prop where
  | nil (l : Ledger) : Steps l [] l
  | cons
      {l m n : Ledger}
      {event : Event}
      {events : List Event}
      (hStep : Step l event m)
      (hSteps : Steps m events n) :
      Steps l (event :: events) n

theorem Step.steps
    {l m : Ledger}
    {event : Event}
    (hStep : Step l event m) :
    Steps l [event] m :=
  .cons hStep (.nil m)

theorem Steps.append
    {l m n : Ledger}
    {events more : List Event}
    (hFirst : Steps l events m)
    (hSecond : Steps m more n) :
    Steps l (events ++ more) n := by
  induction hFirst with
  | nil l => exact hSecond
  | cons hStep _ ih => exact .cons hStep (ih hSecond)

theorem Steps.next_le
    {l n : Ledger}
    {events : List Event}
    (hSteps : Steps l events n) :
    l.next ≤ n.next := by
  induction hSteps with
  | nil l => exact Nat.le_refl _
  | cons hStep _ ih =>
      refine Nat.le_trans ?_ ih
      cases hStep with
      | make hMade => exact Nat.le_succ _
      | close hClosed => exact Nat.le_refl _
      | other hMade hClosed => exact Nat.le_refl _

/- A part of the calls from the first on leads to a ledger
   with the same pools given up. -/
theorem Steps.exists_front
    {l n : Ledger}
    {events front : List Event}
    (hSteps : Steps l events n)
    (hFront : front <+: events) :
    ∃ m : Ledger, Steps l front m ∧ m.lost = l.lost := by
  induction hSteps generalizing front with
  | nil l =>
      have hNil := List.prefix_nil.mp hFront
      rw [hNil]
      exact ⟨l, .nil l, rfl⟩
  | @cons l m n event events hStep hSteps ih =>
      cases front with
      | nil => exact ⟨l, .nil l, rfl⟩
      | cons first front =>
          rcases List.cons_prefix_cons.mp hFront with
            ⟨hFirst, hRest⟩
          rcases ih hRest with ⟨k, hTo, hLost⟩
          refine ⟨k, .cons (hFirst ▸ hStep) hTo, ?_⟩
          rw [hLost]
          cases hStep <;> rfl

------------------------------------------------------------
-- Ledgers of Traces
------------------------------------------------------------

/-
  A ledger fits a trace: the pools of the trace from the
  number `base` on that were never closed are the open ones
  of the ledger from there on, and none was closed twice.
-/
structure Fits
    (base : Nat)
    (l : Ledger)
    (events : List Event) : Prop where
  base_le : base ≤ l.next
  open_nodup : l.openPools.Nodup
  open_lt : ∀ pool ∈ l.openPools, pool < l.next
  open_not_closed :
    ∀ pool ∈ l.openPools, pool ∉ closedPools events
  closed_lt : ∀ pool ∈ closedPools events, pool < l.next
  closed_nodup : (closedPools events).Nodup
  unreleased_eq :
    unreleased events = l.openPools.filter (base ≤ ·)

namespace Fits

/- A ledger that knows older pools only fits the trace in
   which nothing happened. -/
theorem start
    {base : Nat}
    {l : Ledger}
    (hBase : base ≤ l.next)
    (hNodup : l.openPools.Nodup)
    (hOld : ∀ pool ∈ l.openPools, pool < base) :
    l.Fits base [] where
  base_le := hBase
  open_nodup := hNodup
  open_lt pool hOpen :=
    Nat.lt_of_lt_of_le (hOld pool hOpen) hBase
  open_not_closed := by simp [closedPools]
  closed_lt := by simp [closedPools]
  closed_nodup := by simp [closedPools]
  unreleased_eq := by
    symm
    apply List.filter_eq_nil_iff.mpr
    intro pool hOpen hLe
    have hLt := hOld pool hOpen
    exact absurd (of_decide_eq_true hLe) (Nat.not_le.mpr hLt)

/- From the first number on, all open pools are told. -/
theorem unreleased_eq_openPools
    {l : Ledger}
    {events : List Event}
    (hFits : l.Fits 0 events) :
    unreleased events = l.openPools := by
  rw [hFits.unreleased_eq]
  apply List.filter_eq_self.mpr
  intro pool _
  simp

private theorem nodup_append_one
    {n : Nat}
    {ns : List Nat}
    (hNodup : ns.Nodup)
    (hNew : n ∉ ns) :
    (ns ++ [n]).Nodup := by
  rw [List.nodup_append]
  refine ⟨hNodup, by simp, ?_⟩
  intro a hA b hB hEq
  rw [List.mem_singleton.mp hB] at hEq
  exact hNew (hEq ▸ hA)

/- A ledger that fits still does when a pool is made. -/
theorem make
    {base next : Nat}
    {lost : List Nat}
    {events : List Event}
    {event : Event}
    (hFits : Fits base ⟨lost, none, next⟩ events)
    (hMade : event.made? = some next) :
    Fits base ⟨lost, some next, next + 1⟩
      (events ++ [event]) := by
  have hNotClosed : next ∉ closedPools events := by
    intro hMem
    exact Nat.lt_irrefl _ (hFits.closed_lt next hMem)
  have hNotOpen : next ∉ lost := by
    intro hMem
    have hLt := hFits.open_lt next (by simpa using hMem)
    exact Nat.lt_irrefl _ hLt
  have hSame :
      closedPools (events ++ [event]) =
        closedPools events := by
    rw [closedPools_append_one,
      Event.closed?_of_made? hMade]
    simp
  have hNodup := hFits.open_nodup
  have hOpen := hFits.unreleased_eq
  rw [openPools_none] at hNodup hOpen
  refine
    { base_le := Nat.le_succ_of_le hFits.base_le
      open_nodup := ?_
      open_lt := ?_
      open_not_closed := ?_
      closed_lt := ?_
      closed_nodup := hSame ▸ hFits.closed_nodup
      unreleased_eq := ?_ }
  · rw [openPools_some]
    exact nodup_append_one hNodup hNotOpen
  · intro pool hMem
    rcases List.mem_append.mp hMem with hOld | hNew
    · have hLt := hFits.open_lt pool (by simpa using hOld)
      exact Nat.lt_succ_of_lt hLt
    · rw [List.mem_singleton.mp hNew]
      exact Nat.lt_succ_self next
  · intro pool hMem
    rw [hSame]
    rcases List.mem_append.mp hMem with hOld | hNew
    · exact hFits.open_not_closed pool (by simpa using hOld)
    · rw [List.mem_singleton.mp hNew]
      exact hNotClosed
  · intro pool hMem
    rw [hSame] at hMem
    exact Nat.lt_succ_of_lt (hFits.closed_lt pool hMem)
  · have hBase : base ≤ next := hFits.base_le
    rw [unreleased_append_made events hMade hNotClosed,
      hOpen, openPools_some, List.filter_append]
    simp [hBase]

/- A ledger that fits still does when its pool is closed. -/
theorem close
    {base pool next : Nat}
    {lost : List Nat}
    {events : List Event}
    {event : Event}
    (hFits : Fits base ⟨lost, some pool, next⟩ events)
    (hClosed : event.closed? = some pool) :
    Fits base ⟨lost, none, next⟩ (events ++ [event]) := by
  have hMore :
      closedPools (events ++ [event]) =
        closedPools events ++ [pool] := by
    rw [closedPools_append_one, hClosed, Option.toList_some]
  have hNodup := hFits.open_nodup
  have hOpen := hFits.unreleased_eq
  rw [openPools_some] at hNodup hOpen
  rcases List.nodup_append.mp hNodup with
    ⟨hLost, -, hApart⟩
  have hOther : ∀ other ∈ lost, other ≠ pool :=
    fun other hMem => hApart other hMem pool (by simp)
  have hHeld : pool ∈ openPools ⟨lost, some pool, next⟩ := by
    simp
  refine
    { base_le := hFits.base_le
      open_nodup := ?_
      open_lt := ?_
      open_not_closed := ?_
      closed_lt := ?_
      closed_nodup := ?_
      unreleased_eq := ?_ }
  · rw [openPools_none]
    exact hLost
  · intro other hMem
    rw [openPools_none] at hMem
    exact hFits.open_lt other (List.mem_append_left _ hMem)
  · intro other hMem hIn
    rw [openPools_none] at hMem
    rw [hMore] at hIn
    rcases List.mem_append.mp hIn with hBefore | hNow
    · exact hFits.open_not_closed other
        (List.mem_append_left _ hMem) hBefore
    · exact hOther other hMem (List.mem_singleton.mp hNow)
  · intro other hMem
    rw [hMore] at hMem
    rcases List.mem_append.mp hMem with hBefore | hNow
    · exact hFits.closed_lt other hBefore
    · rw [List.mem_singleton.mp hNow]
      exact hFits.open_lt pool hHeld
  · rw [hMore]
    exact nodup_append_one hFits.closed_nodup
      (hFits.open_not_closed pool hHeld)
  · have hSelf : lost.filter (· ≠ pool) = lost :=
      List.filter_eq_self.mpr (by simpa using hOther)
    rw [unreleased_append_closed events hClosed, hOpen,
      openPools_none, List.filter_filter]
    calc
      (lost ++ [pool]).filter
            (fun n => decide (n ≠ pool) && decide (base ≤ n))
          = (lost.filter (· ≠ pool)).filter (base ≤ ·) := by
            simp [List.filter_filter, Bool.and_comm]
      _ = lost.filter (base ≤ ·) := by rw [hSelf]

/- A ledger that fits still does after any other call. -/
theorem other
    {base : Nat}
    {l : Ledger}
    {events : List Event}
    {event : Event}
    (hFits : l.Fits base events)
    (hMade : event.made? = none)
    (hClosed : event.closed? = none) :
    l.Fits base (events ++ [event]) := by
  have hSame :
      closedPools (events ++ [event]) =
        closedPools events := by
    rw [closedPools_append_one, hClosed]
    simp
  have hOpen :=
    unreleased_append_other events hMade hClosed
  exact
    { base_le := hFits.base_le
      open_nodup := hFits.open_nodup
      open_lt := hFits.open_lt
      open_not_closed := hSame ▸ hFits.open_not_closed
      closed_lt := hSame ▸ hFits.closed_lt
      closed_nodup := hSame ▸ hFits.closed_nodup
      unreleased_eq := hOpen.trans hFits.unreleased_eq }

theorem giveUp
    {base next : Nat}
    {lost : List Nat}
    {held : Option Nat}
    {events : List Event}
    (hFits : Fits base ⟨lost, held, next⟩ events) :
    Fits base ⟨lost ++ held.toList, none, next⟩ events := by
  have hSame :
      openPools ⟨lost ++ held.toList, none, next⟩ =
        openPools ⟨lost, held, next⟩ := by
    simp [openPools]
  exact
    { base_le := hFits.base_le
      open_nodup := hSame ▸ hFits.open_nodup
      open_lt := hSame ▸ hFits.open_lt
      open_not_closed := hSame ▸ hFits.open_not_closed
      closed_lt := hFits.closed_lt
      closed_nodup := hFits.closed_nodup
      unreleased_eq := hSame ▸ hFits.unreleased_eq }

end Fits

theorem Step.fits
    {base : Nat}
    {l m : Ledger}
    {events : List Event}
    {event : Event}
    (hStep : Step l event m)
    (hFits : l.Fits base events) :
    m.Fits base (events ++ [event]) := by
  cases hStep with
  | make hMade => exact hFits.make hMade
  | close hClosed => exact hFits.close hClosed
  | other hMade hClosed => exact hFits.other hMade hClosed

/- A ledger that fits a trace fits it with the calls that
   it goes through behind it. -/
theorem Steps.fits
    {base : Nat}
    {l n : Ledger}
    {events more : List Event}
    (hSteps : Steps l more n)
    (hFits : l.Fits base events) :
    n.Fits base (events ++ more) := by
  induction hSteps generalizing events with
  | nil l =>
      rw [List.append_nil]
      exact hFits
  | cons hStep _ ih =>
      have hNext := ih (hStep.fits hFits)
      rw [List.append_assoc, List.singleton_append] at hNext
      exact hNext

/-
  Of the pools that some calls made, those are open after
  them that the ledger has open from its first new number
  on.
-/
theorem Steps.unreleased_eq
    {base : Nat}
    {l n : Ledger}
    {events more : List Event}
    (hSteps : Steps l more n)
    (hFits : l.Fits base events) :
    unreleased more =
      n.openPools.filter (l.next ≤ ·) := by
  have hStart : l.Fits l.next [] :=
    .start (Nat.le_refl _) hFits.open_nodup hFits.open_lt
  exact (hSteps.fits hStart).unreleased_eq

end Ledger

end SqlGateway
