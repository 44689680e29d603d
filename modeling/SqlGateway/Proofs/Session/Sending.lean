import SqlGateway.Proofs.Session.Lifecycle

/-
  This file shows which statements a session sends: opening
  it sends the probe only, closing it sends nothing, and
  switching it sends no more than that and a statement that
  points a connection at a database.

  Key definitions include:
    * `Progress.sending`
    * `Progress.Releases`

  Main declarations:
    * `Progress.sending_carries`
    * `Session.disconnect_keeps`
    * `Session.connect_sends`
    * `Session.disconnect_sends`
    * `Session.switchDatabase_sends`
-/

namespace SqlGateway

variable {kind : String → List Value → Prop}

------------------------------------------------------------
-- Statements That Are Sent
------------------------------------------------------------

namespace Progress

/-
  The statements that were sent since are of a kind, each
  with the values that went with it.
-/
def sending
    (kind : String → List Value → Prop) : Progress where
  Rel w w' :=
    ∃ events : List Event,
      w'.events = w.events ++ events ∧
        ∀ statement parameters,
          .execute statement parameters ∈ events →
            kind statement (parameters.getD [])
  ofSameCalls hSame := by
    refine ⟨[], ?_, ?_⟩
    · rw [List.append_nil]
      exact hSame.events
    · intro statement parameters hMem
      cases hMem
  trans := by
    rintro w w' w'' ⟨events, hEvents, hFirst⟩
      ⟨more, hMore, hSecond⟩
    refine ⟨events ++ more, ?_, ?_⟩
    · rw [hMore, hEvents, List.append_assoc]
    · intro statement parameters hMem
      rcases List.mem_append.mp hMem with hOld | hNew
      · exact hFirst statement parameters hOld
      · exact hSecond statement parameters hNew

/- A call may be made if the statement it sends, should it
   send one, is of the kind. -/
theorem sending_admits
    {event : Event}
    (hKind : ∀ statement parameters,
      event = .execute statement parameters →
        kind statement (parameters.getD [])) :
    (sending kind).Admits event := by
  intro w
  refine ⟨[event], rfl, ?_⟩
  intro statement parameters hMem
  apply hKind
  exact (List.mem_singleton.mp hMem).symm

theorem sending_newPool (w : World) :
    (sending kind).Rel w
      { w with nextPool := w.nextPool + 1 } := by
  refine ⟨[], ?_, ?_⟩
  · exact (List.append_nil w.events).symm
  · intro statement parameters hMem
    cases hMem

/- Statements of the kind may be sent, with all that goes
   with them. -/
theorem sending_carries
    (hUse :
      ∀ statement, Session.IsUse statement →
        kind statement []) :
    (sending kind).Carries kind where
  acquire _ _ := sending_admits (by simp)
  execute statement parameters hKind := by
    apply sending_admits
    intro other values hSame
    cases hSame
    exact hKind
  fetchAll := sending_admits (by simp)
  use := hUse

/- A progress allows to close any pool. -/
structure Releases (progress : Progress) : Prop where
  closePool :
    ∀ engine pool, progress.Admits (.closePool engine pool)
  waitClosed : ∀ pool, progress.Admits (.waitClosed pool)

theorem sending_releases : (sending kind).Releases where
  closePool _ _ := sending_admits (by simp)
  waitClosed _ := sending_admits (by simp)

end Progress

open Act (Keeps)

namespace Session

variable {inv : Session → Prop}

------------------------------------------------------------
-- Opening, Closing and Switching
------------------------------------------------------------

theorem makePool_sends
    (engine : Engine)
    (config : ConnectionConfig)
    (database : Value) :
    Keeps inv (Progress.sending kind)
      (makePool engine config database) := by
  unfold makePool
  refine .state_bind fun session _ => ?_
  cases engine with
  | postgres =>
      refine .bind (.ofDriver _ _) fun text => ?_
      apply Driver.createPostgresPool_keeps
      · exact Progress.sending_newPool
      · intro pool
        exact Progress.sending_admits (by simp)
  | sqlServer =>
      refine .wrapping ?_
      apply Driver.createOdbcPool_keeps
      · exact Progress.sending_newPool
      · exact Progress.sending_admits (by simp)
      · intro pool
        exact Progress.sending_admits (by simp)

theorem releasePool_keeps
    {progress : Progress}
    (hReleases : progress.Releases)
    (engine : Engine)
    (pool : Nat) :
    Keeps inv progress (Driver.releasePool engine pool) :=
  Driver.releasePool_keeps (hReleases.closePool engine pool)
    (hReleases.waitClosed pool)

theorem disconnect_keeps
    {progress : Progress}
    (hReleases : progress.Releases)
    (hClosed : ∀ s, inv s → inv s.closed) :
    Keeps inv progress disconnect := by
  unfold disconnect
  refine .state_bind fun session _ => ?_
  refine .bind (.update hClosed) fun _ => ?_
  cases session.pool with
  | none => exact .pure ()
  | some pool =>
      refine .wrapping ?_
      exact .bind (releasePool_keeps hReleases _ _)
        fun _ => .log _ _

theorem connect_sends
    (hUse : ∀ statement, IsUse statement → kind statement [])
    (hProbe : kind CatalogQuery.probe [])
    (config : ConnectionConfig) :
    Keeps (fun _ => True) (Progress.sending kind)
      (connect config) := by
  have hOpen : ∀ pool,
      (Progress.sending kind).Admits
        (.openPool pool true connectTimeout) :=
    fun _ => Progress.sending_admits (by simp)
  unfold connect
  refine .state_bind fun session _ => ?_
  refine .bind (makePool_sends _ _ _) fun pool => ?_
  refine .bind (.rescue ?_ fun e => ?_) fun _ => ?_
  · exact tryPool_keeps (Progress.sending_carries hUse)
      (hOpen pool) hProbe
  · refine .bind ?_ fun _ => .fail _
    exact releasePool_keeps Progress.sending_releases _ _
  · exact .bind (.update fun _ _ => trivial)
      fun _ => .log _ _

theorem disconnect_sends :
    Keeps (fun _ => True) (Progress.sending kind)
      disconnect :=
  disconnect_keeps Progress.sending_releases
    fun _ _ => trivial

/- Switching sends no statement but the probe and those that
   point a connection at a database. -/
theorem switchDatabase_sends
    (hUse : ∀ statement, IsUse statement → kind statement [])
    (hProbe : kind CatalogQuery.probe [])
    (database : String) :
    Keeps (fun _ => True) (Progress.sending kind)
      (switchDatabase database) := by
  unfold switchDatabase
  refine .bind requireConnected_keeps fun _ => ?_
  refine .state_bind fun session _ => ?_
  cases session.engine with
  | sqlServer =>
      exact switchInPlace_keeps
        (Progress.sending_carries hUse) fun _ _ => trivial
  | postgres =>
      refine .state_bind fun session _ => ?_
      cases session.config with
      | none => exact .fail _
      | some config =>
          refine .bind ?_ fun _ => ?_
          · exact disconnect_keeps Progress.sending_releases
              fun _ _ => trivial
          · exact .bind (connect_sends hUse hProbe _)
              fun _ => .log _ _

end Session

end SqlGateway
