import SqlGateway.Proofs.Connections.History

/-
  This file shows that the holder of the session leaks no
  pool.  At any moment at most one pool is open, no pool is
  closed twice, and between commands the open pool is the
  one of the session that is held.

  A failure that ends the run, an interrupt for one, is not
  handled on its way.  If it strikes while a new pool is
  tried, that pool is left open and nothing holds it: such
  pools count as abandoned.  There are none where all
  scripts are ordinary.

  Key definitions include:
    * `cutShort` and `abandonedBy`
    * `History.abandoned`
    * `World.Settles`

  Main declarations:
    * `Command.run_settles`
    * `World.Settles.fits`
    * `History.pools_after`
-/

namespace SqlGateway

------------------------------------------------------------
-- Abandoned Pools
------------------------------------------------------------

/- A failure that ends the run cut an action short. -/
def cutShort {α : Type} : Except Failure α → Bool
  | .ok _ => false
  | .error e => e.endsRun

/- The pools that an action made and left open when it was
   cut short, by its result and its calls. -/
def abandonedBy
    {α : Type}
    (result : Except Failure α)
    (events : List Event) : List Nat :=
  if cutShort result then unreleased events else []

/- The pools that a turn made and left open when it was cut
   short. -/
def Entry.abandoned (entry : Entry) : List Nat :=
  if cutShort entry.result then
    unreleased entry.events
  else
    []

/- The pools that were abandoned, in their order. -/
def History.abandoned (h : History) : List Nat :=
  h.entries.flatMap Entry.abandoned

------------------------------------------------------------
-- Commands
------------------------------------------------------------

/-
  A command that began with one pool, or none, ends with the
  active one.  Cut short it has made none that is active,
  and may leave a new one open that nothing holds.
-/
def World.Settles
    (w : World)
    (held : Option Nat)
    (w' : World)
    (active : Option Nat)
    (result : Except Failure Unit) : Prop :=
  (w.Leads held w' active ∧
      (cutShort result = true →
        active = held ∨ active = none)) ∨
    (active = none ∧
      ∃ e, result = .error e ∧ w.Strands held w' e)

namespace World.Settles

variable {w w' : World}
variable {held : Option Nat}
variable {result : Except Failure Unit}

theorem kept
    (hLeads : w.Leads held w' held) :
    w.Settles held w' held result :=
  .inl ⟨hLeads, fun _ => .inl rfl⟩

theorem released
    (hLeads : w.Leads held w' none) :
    w.Settles held w' none result :=
  .inl ⟨hLeads, fun _ => .inr rfl⟩

theorem replaced
    {active : Option Nat}
    (hLeads : w.Leads held w' active) :
    w.Settles held w' active (.ok ()) :=
  .inl ⟨hLeads, nofun⟩

/- No pool is held; a new one may have been left open if the
   run ends. -/
theorem failed
    {e : Failure}
    (hLeads : w.Leads held w' none ∨ w.Strands held w' e) :
    w.Settles held w' none (.error e) := by
  rcases hLeads with hNone | hStrands
  · exact released hNone
  · exact .inr ⟨rfl, e, rfl, hStrands⟩

end World.Settles

/- However switching ends, the pools are settled. -/
theorem Session.Switched.settles
    {database : String}
    {s : Session}
    {w : World}
    {out : Outcome Session Unit}
    (hSwitched : Switched database s w out) :
    w.Settles s.pool out.world out.state.pool
      out.result := by
  cases hSwitched with
  | moved hEngine hLeads => exact .kept hLeads
  | unmoved hEngine hLeads => exact .kept hLeads
  | reopened hEngine hDatabase hLeads =>
      exact .replaced hLeads
  | lost hEngine hLeads => exact .failed hLeads

/- A query settles the pools by leaving them alone. -/
theorem Command.settles_of_query
    {command : Command}
    (hQuery : command.isQuery = true)
    (c : Connections)
    (w : World) :
    let out := command.run.run c w
    w.Settles c.activePool out.world out.state.activePool
      out.result := by
  intro out
  rcases run_query hQuery c w with ⟨hState, hLeads⟩
  have hPool : out.state.activePool = c.activePool :=
    congrArg Connections.activePool hState
  rw [hPool]
  exact .kept (hLeads c.activePool)

/- However a command ends, the pools are settled. -/
theorem Command.run_settles
    (command : Command)
    {c : Connections}
    (hSound : c.Sound)
    (w : World) :
    let out := command.run.run c w
    w.Settles c.activePool out.world out.state.activePool
      out.result := by
  intro out
  cases command with
  | connect config =>
      rcases Connections.connect_leads hSound config w with
        ⟨-, ⟨hOk, engine, pool, -, hSession, -, hLeads⟩ |
          ⟨e, hError, hNone, hLeads⟩⟩
      · have hPool : out.state.activePool = some pool :=
          Connections.activePool_of_some hSession
            ⟨rfl, rfl⟩
        rw [hPool]
        simp only [out, run, hOk]
        exact .replaced hLeads
      · have hPool : out.state.activePool = none :=
          Connections.activePool_of_none hNone
        rw [hPool]
        simp only [out, run, hError]
        exact .failed hLeads
  | disconnect =>
      rcases Connections.disconnect_leads hSound w with
        ⟨hNone, -, hLeads⟩
      have hPool : out.state.activePool = none :=
        Connections.activePool_of_none hNone
      rw [hPool]
      exact .released hLeads
  | switchDatabase database =>
      cases hConnected : c.isConnected with
      | false =>
          have hOut : out = ⟨.error .notConnected, c, w⟩ :=
            run_of_idle rfl hConnected w
          rw [hOut]
          exact .kept (.ofSameCalls ⟨rfl, rfl, .refl _⟩ _)
      | true =>
          rcases Connections.exists_of_isConnected hConnected
            with ⟨session, hSession, hOpen⟩
          have hInner := hSound session hSession
          have hSwitched := Session.switchDatabase_switched
            database hInner hOpen w
          have hOut : out = _ :=
            run_of_connected rfl hSession hOpen w
          rw [hOut]
          rw [Connections.activePool_of_some hSession hInner,
            Connections.activePool_of_some rfl
              (hSwitched.sound hInner)]
          exact hSwitched.settles
  | listDatabases => exact settles_of_query rfl c w
  | listTables => exact settles_of_query rfl c w
  | describeTable table schema? =>
      exact settles_of_query rfl c w
  | executeQuery sql limit => exact settles_of_query rfl c w

------------------------------------------------------------
-- Ledgers of Settled Pools
------------------------------------------------------------

namespace World.Settles

/- A ledger that makes no new pool active leaves none of its
   own open. -/
private theorem unreleased_of_kept
    {lost : List Nat}
    {held active : Option Nat}
    {next next' : Nat}
    {events more : List Event}
    (hSteps : Ledger.Steps ⟨lost, held, next⟩ more
      ⟨lost, active, next'⟩)
    (hFits : Ledger.Fits 0 ⟨lost, held, next⟩ events)
    (hActive : active = held ∨ active = none) :
    unreleased more = [] := by
  rw [hSteps.unreleased_eq hFits]
  apply List.filter_eq_nil_iff.mpr
  intro pool hMem
  have hOld :
      pool ∈ Ledger.openPools ⟨lost, held, next⟩ := by
    rcases hActive with hSame | hNone
    · exact hSame ▸ hMem
    · rw [hNone, Ledger.openPools_none] at hMem
      exact List.mem_append_left _ hMem
  have hLt := hFits.open_lt pool hOld
  simpa using hLt

/- A ledger that holds a new pool leaves that one open. -/
private theorem unreleased_of_new
    {lost : List Nat}
    {held : Option Nat}
    {pool next next' : Nat}
    {events more : List Event}
    (hSteps : Ledger.Steps ⟨lost, held, next⟩ more
      ⟨lost, some pool, next'⟩)
    (hFits : Ledger.Fits 0 ⟨lost, held, next⟩ events)
    (hNew : next ≤ pool) :
    unreleased more = [pool] := by
  have hOld : lost.filter (next ≤ ·) = [] := by
    apply List.filter_eq_nil_iff.mpr
    intro other hMem
    have hLt := hFits.open_lt other
      (List.mem_append_left _ hMem)
    simpa using hLt
  rw [hSteps.unreleased_eq hFits, Ledger.openPools_some,
    List.filter_append, hOld]
  simp [hNew]

variable {w w' : World}
variable {held active : Option Nat}
variable {result : Except Failure Unit}
variable {lost : List Nat}
variable {events : List Event}

/- If no new pool is active in the end, none is left open
   when the run ends. -/
private theorem abandonedBy_of_leads
    (hLeads : w.Leads held w' active)
    (hCut : cutShort result = true →
      active = held ∨ active = none)
    (hNew : w.events = [])
    (hFits : Ledger.Fits 0 ⟨lost, held, w.nextPool⟩
      events) :
    abandonedBy result w'.events = [] := by
  rcases hLeads with ⟨more, hEvents, hSteps, -⟩
  rw [hEvents, hNew, List.nil_append]
  unfold abandonedBy
  split
  · exact unreleased_of_kept (hSteps lost) hFits (hCut ‹_›)
  · rfl

/- A pool that is stranded is the one that is left open. -/
private theorem abandonedBy_of_strands
    {e : Failure}
    (hStrands : w.Strands held w' e)
    (hNew : w.events = [])
    (hFits : Ledger.Fits 0 ⟨lost, held, w.nextPool⟩
      events) :
    ∃ pool,
      abandonedBy (.error e : Except Failure Unit)
          w'.events = [pool] ∧
        w.Leads held w' (some pool) := by
  rcases hStrands with ⟨hEnds, -, pool, hLater, hLeads⟩
  refine ⟨pool, ?_, hLeads⟩
  rcases hLeads with ⟨more, hEvents, hSteps, -⟩
  rw [hEvents, hNew, List.nil_append, abandonedBy, cutShort,
    if_pos hEnds]
  exact unreleased_of_new (hSteps lost) hFits hLater

/- One pool at most is left open that nothing holds. -/
theorem length_abandonedBy_le
    (hSettles : w.Settles held w' active result)
    (hNew : w.events = [])
    (hFits : Ledger.Fits 0 ⟨lost, held, w.nextPool⟩
      events) :
    (abandonedBy result w'.events).length ≤ 1 := by
  rcases hSettles with
    ⟨hLeads, hCut⟩ | ⟨-, e, hError, hStrands⟩
  · rw [abandonedBy_of_leads hLeads hCut hNew hFits]
    exact Nat.zero_le 1
  · rcases abandonedBy_of_strands hStrands hNew hFits with
      ⟨pool, hAbandoned, -⟩
    rw [hError, hAbandoned]
    exact Nat.le_refl 1

/- An ordinary script leaves no pool open that nothing
   holds. -/
theorem abandonedBy_of_ordinary
    (hSettles : w.Settles held w' active result)
    (hNew : w.events = [])
    (hFits : Ledger.Fits 0 ⟨lost, held, w.nextPool⟩ events)
    (hOrdinary : w.script.Ordinary) :
    abandonedBy result w'.events = [] := by
  rcases hSettles with ⟨hLeads, hCut⟩ | ⟨-, e, -, hStrands⟩
  · exact abandonedBy_of_leads hLeads hCut hNew hFits
  · exact absurd hOrdinary hStrands.not_ordinary

/-
  A ledger that fits a trace still does when the pools are
  settled: a new pool that nothing holds counts as given
  up.
-/
theorem fits
    (hSettles : w.Settles held w' active result)
    (hNew : w.events = [])
    (hFits : Ledger.Fits 0 ⟨lost, held, w.nextPool⟩
      events) :
    Ledger.Fits 0
      ⟨lost ++ abandonedBy result w'.events, active,
        w'.nextPool⟩
      (events ++ w'.events) := by
  rcases hSettles with
    ⟨hLeads, hCut⟩ | ⟨hNone, e, hError, hStrands⟩
  · rw [abandonedBy_of_leads hLeads hCut hNew hFits,
      List.append_nil]
    rcases hLeads with ⟨more, hEvents, hSteps, -⟩
    rw [hEvents, hNew, List.nil_append]
    exact (hSteps lost).fits hFits
  · rcases abandonedBy_of_strands hStrands hNew hFits with
      ⟨pool, hAbandoned, more, hEvents, hSteps, -⟩
    rw [hError, hAbandoned, hEvents, hNew, hNone,
      List.nil_append]
    exact ((hSteps lost).fits hFits).giveUp

end World.Settles

------------------------------------------------------------
-- Histories
------------------------------------------------------------

/- Of pools that are given up, or held, at most one is left
   without those given up. -/
private theorem length_filter_le_one
    {lost more : List Nat}
    {held : Option Nat}
    (hLost : ∀ pool ∈ lost, pool ∈ more) :
    ((lost ++ held.toList).filter
      (· ∉ more)).length ≤ 1 := by
  have hNone : lost.filter (· ∉ more) = [] := by
    apply List.filter_eq_nil_iff.mpr
    intro pool hMem
    simpa using hLost pool hMem
  rw [List.filter_append, hNone, List.nil_append]
  apply Nat.le_trans (List.length_filter_le _ _)
  cases held with
  | none => exact Nat.zero_le 1
  | some pool => exact Nat.le_refl 1

namespace History

/- The ledger of a history. -/
def ledger (h : History) : Ledger where
  lost := h.abandoned
  held := h.connections.activePool
  next := h.world.nextPool

theorem abandoned_extend
    (h : History)
    (turn : Turn) :
    (h.extend turn).abandoned =
      h.abandoned ++ (h.entry turn).abandoned := by
  simp [abandoned, extend]

/-
  What holds of the pools after every turn: the ledger fits
  the trace, and at any moment at most one open pool was not
  abandoned.
-/
structure Orderly (h : History) : Prop where
  sound : h.connections.Sound
  fits : h.ledger.Fits 0 h.trace
  single :
    ∀ front, front <+: h.trace →
      ((unreleased front).filter
        (· ∉ h.abandoned)).length ≤ 1
  waits :
    ∀ entry ∈ h.entries,
      WaitsAfterClose entry.turn.script.closeError
        entry.events
  released :
    ∀ entry ∈ h.entries,
      entry.turn.script.Ordinary → entry.abandoned = []

theorem orderly_start (settings : Settings) :
    (start settings).Orderly := by
  have hOpen : (start settings).ledger.openPools = [] := rfl
  constructor
  · exact Connections.sound_of_none rfl
  · apply Ledger.Fits.start
    · exact Nat.zero_le _
    · rw [hOpen]
      exact List.nodup_nil
    · intro pool hMem
      rw [hOpen] at hMem
      cases hMem
  · intro front hFront
    have hNil : front = [] := List.prefix_nil.mp hFront
    rw [hNil]
    exact Nat.zero_le 1
  · intro entry hMem
    cases hMem
  · intro entry hMem
    cases hMem

/-
  The calls of a turn lead from the ledger before it to the
  ledger after it, where a new pool that nothing holds is
  the one that the turn abandoned.
-/
theorem fits_extend
    {h : History}
    (hFits : h.ledger.Fits 0 h.trace)
    {turn : Turn}
    (hSettles :
      (h.world.step turn.script).Settles
        h.connections.activePool (h.outcome turn).world
        (h.outcome turn).state.activePool
        (h.outcome turn).result) :
    (h.extend turn).ledger.Fits 0
      (h.extend turn).trace := by
  rw [trace_extend]
  unfold ledger
  rw [abandoned_extend]
  exact hSettles.fits rfl hFits

/- At any moment of a turn at most one open pool was not
   abandoned. -/
theorem single_extend
    {h : History}
    (hOrderly : h.Orderly)
    {turn : Turn}
    {held : Option Nat}
    (hLeads :
      (h.world.step turn.script).Leads
        h.connections.activePool (h.outcome turn).world held)
    {front : List Event}
    (hFront : front <+: (h.extend turn).trace) :
    ((unreleased front).filter
      (· ∉ (h.extend turn).abandoned)).length ≤ 1 := by
  rw [abandoned_extend]
  rw [trace_extend] at hFront
  rcases hLeads with ⟨events, hEvents, hSteps, -⟩
  have hSame : (h.outcome turn).world.events = events :=
    hEvents
  rw [hSame] at hFront
  rcases hFront with ⟨rest, hRest⟩
  rcases List.append_eq_append_iff.mp hRest with
    ⟨middle, hBefore, -⟩ | ⟨middle, hAfter, hMiddle⟩
  · have hOld := hOrderly.single front ⟨middle, hBefore.symm⟩
    rw [← List.countP_eq_length_filter] at hOld ⊢
    refine Nat.le_trans (List.countP_mono_left ?_) hOld
    intro pool _ hKeep
    simp only [List.mem_append, not_or,
      decide_eq_true_eq] at hKeep ⊢
    exact hKeep.1
  · rcases (hSteps h.abandoned).exists_front
        ⟨rest, hMiddle.symm⟩ with ⟨m, hTo, hLost⟩
    have hFits := hTo.fits hOrderly.fits
    rw [hAfter, hFits.unreleased_eq_openPools,
      Ledger.openPools, hLost]
    apply length_filter_le_one
    intro pool hMem
    exact List.mem_append_left _ hMem

/- A turn keeps the pools in order. -/
theorem orderly_extend
    {h : History}
    (hOrderly : h.Orderly)
    (turn : Turn) :
    (h.extend turn).Orderly := by
  have hSettles := turn.command.run_settles hOrderly.sound
    (h.world.step turn.script)
  have hLeads : ∃ held,
      (h.world.step turn.script).Leads
        h.connections.activePool (h.outcome turn).world
        held := by
    rcases hSettles with
      ⟨hLeads, -⟩ | ⟨-, e, -, -, -, pool, -, hLeads⟩
    · exact ⟨_, hLeads⟩
    · exact ⟨_, hLeads⟩
  rcases hLeads with ⟨held, hLeads⟩
  refine
    { sound := turn.command.sound_run hOrderly.sound _
      fits := fits_extend hOrderly.fits hSettles
      single := fun front hFront =>
        single_extend hOrderly hLeads hFront
      waits := ?_
      released := ?_ }
  · intro entry hMem
    rcases List.mem_append.mp hMem with hOld | hNew
    · exact hOrderly.waits entry hOld
    · rcases hLeads with ⟨events, hEvents, -, hWaits, -⟩
      have hSame : (h.entry turn).events = events := hEvents
      rw [List.mem_singleton.mp hNew, hSame]
      exact hWaits
  · intro entry hMem hOrdinary
    rcases List.mem_append.mp hMem with hOld | hNew
    · exact hOrderly.released entry hOld hOrdinary
    · rw [List.mem_singleton.mp hNew] at hOrdinary ⊢
      exact hSettles.abandonedBy_of_ordinary rfl
        hOrderly.fits hOrdinary

/- After any turns the pools are in order. -/
theorem orderly_after
    (settings : Settings)
    (turns : List Turn) :
    (after settings turns).Orderly :=
  after_induction (orderly_start settings)
    (fun _ turn hOrderly => orderly_extend hOrderly turn)
    turns

/-
  After any turns, and whatever failures the drivers met:
  at any moment so far at most one pool was open, besides
  those abandoned; no pool was closed twice; the pools that
  are open are those abandoned and then the active one,
  which is there while a session is shown as connected; and
  each ODBC pool that was closed was waited for at once,
  unless closing it raised.  None is abandoned unless a
  script holds a failure that ends the run.
-/
theorem pools_after
    (settings : Settings)
    (turns : List Turn) :
    let h := after settings turns
    (∀ front, front <+: h.trace →
        ((unreleased front).filter
          (· ∉ h.abandoned)).length ≤ 1) ∧
      (closedPools h.trace).Nodup ∧
      unreleased h.trace =
        h.abandoned ++ h.connections.activePool.toList ∧
      h.connections.activePool.isSome =
        h.connections.isConnected ∧
      (∀ entry ∈ h.entries,
        WaitsAfterClose entry.turn.script.closeError
          entry.events) ∧
      ((∀ turn ∈ turns, turn.script.Ordinary) →
        h.abandoned = []) := by
  intro h
  have hOrderly : h.Orderly := orderly_after settings turns
  refine
    ⟨hOrderly.single, hOrderly.fits.closed_nodup,
      hOrderly.fits.unreleased_eq_openPools,
      Connections.activePool_isSome hOrderly.sound,
      hOrderly.waits, ?_⟩
  intro hOrdinary
  apply List.flatMap_eq_nil_iff.mpr
  intro entry hMem
  apply hOrderly.released entry hMem
  apply hOrdinary
  rw [← turns_after settings turns]
  exact List.mem_map_of_mem hMem

end History

end SqlGateway
