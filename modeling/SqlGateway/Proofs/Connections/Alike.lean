import SqlGateway.Connections
import SqlGateway.Proofs.Session.Alike

/-
  This file compares two holders of sessions side by side.
  They run under query modes of their own and hold sessions
  that are alike; whatever they do, they go on to hold
  sessions that are alike, and show the same.

  Key definitions include:
    * `Connections.Alike`
    * `Connections.underMode`

  Main declarations:
    * `Connections.Alike.connectionState_eq`
    * `Connections.connect_alike`
    * `Connections.disconnect_alike`
    * `Connections.active_alike`
-/

namespace SqlGateway

open Statement (QueryMode)

namespace Connections

------------------------------------------------------------
-- Holders
------------------------------------------------------------

/-
  Two holders, the first under one query mode and the second
  under another, whose settings agree otherwise.
-/
structure Alike
    (like : Likeness)
    (lo hi : QueryMode)
    (c c' : Connections) : Prop where
  first : c.settings.queryMode = lo
  second : c'.settings = { c.settings with queryMode := hi }
  session :
    Option.Rel (fun s s' => s.Alike like s.engine s')
      c.session c'.session
  server : c.server = c'.server

/- Two actions that are alike from holders that are. -/
abbrev ActAlike
    {α : Type}
    (like : Likeness)
    (lo hi : QueryMode)
    (act act' : Act Connections α) : Prop :=
  Act.Alike like.Calls (Alike like lo hi) (· = ·) act act'

variable {like : Likeness}
variable {lo hi : QueryMode}

namespace Alike

variable {c c' : Connections}

theorem connectionState_eq
    (hAlike : c.Alike like lo hi c') :
    c.connectionState = c'.connectionState := by
  have hSession := hAlike.session
  have hServer := hAlike.server
  unfold connectionState
  revert hSession
  generalize c.session = session?, c'.session = session?'
  rintro (hBoth | _)
  · dsimp only
    rw [hBoth.connected, hBoth.database, hBoth.right,
      hServer]
  · rfl

theorem isConnected_eq
    (hAlike : c.Alike like lo hi c') :
    c.isConnected = c'.isConnected := by
  have hSession := hAlike.session
  unfold isConnected
  revert hSession
  generalize c.session = session?, c'.session = session?'
  rintro (hBoth | _)
  · exact hBoth.connected
  · rfl

theorem cleared
    (hAlike : c.Alike like lo hi c') :
    c.cleared.Alike like lo hi c'.cleared where
  first := hAlike.first
  second := hAlike.second
  session := .none
  server := rfl

theorem holding
    {engine : Engine}
    {s s' : Session}
    (hAlike : c.Alike like lo hi c')
    (hSession : s.Alike like engine s')
    (server : Value) :
    (c.holding s server).Alike like lo hi
      (c'.holding s' server) where
  first := hAlike.first
  second := hAlike.second
  session := .some (hSession.left ▸ hSession)
  server := rfl

theorem keep
    {engine : Engine}
    {s s' : Session}
    (hAlike : c.Alike like lo hi c')
    (hSession : s.Alike like engine s') :
    (Connections.keep s c).Alike like lo hi
      (Connections.keep s' c') where
  first := hAlike.first
  second := hAlike.second
  session := .some (hSession.left ▸ hSession)
  server := hAlike.server

end Alike

/- A holder under another query mode. -/
def underMode
    (mode : QueryMode)
    (c : Connections) : Connections :=
  { c with settings := { c.settings with queryMode := mode } }

/- Under two modes a holder is like itself, if all
   configurations are. -/
theorem underMode_alike
    (hRefl : ∀ engine config,
      like.Configs engine config config)
    (c : Connections)
    (lo hi : QueryMode) :
    (c.underMode lo).Alike like lo hi (c.underMode hi) where
  first := rfl
  second := rfl
  session := by
    change Option.Rel _ c.session c.session
    cases c.session with
    | none => exact .none
    | some session => exact .some (.refl hRefl session)
  server := rfl

------------------------------------------------------------
-- Opening and Closing
------------------------------------------------------------

theorem disconnect_alike :
    ActAlike like lo hi disconnect disconnect := by
  unfold disconnect
  refine .state_bind fun c c' hAlike => ?_
  have hSession := hAlike.session
  revert hSession
  generalize c.session = session?, c'.session = session?'
  rintro (hBoth | _)
  · dsimp only
    refine .bind_same ?_ fun _ => ?_
    · exact .update fun d d' hHeld => hHeld.cleared
    · refine .bind (.attempt
        (.apart hBoth Session.disconnect_alike)) ?_
      intro result result' hResult
      rw [hBoth.right]
      refine .bind_same (.log _ _) fun _ => ?_
      cases hResult with
      | ok hValues => exact .pure rfl
      | error e => exact .fail _
  · exact .pure rfl

/- Sessions are made alike, under settings that agree but
   for the query mode. -/
theorem create_alike
    {c c' : Connections}
    (hAlike : c.Alike like lo hi c')
    (engineName : String) :
    ResultAlike
      (fun s s' => ∃ engine,
        Engine.ofName? engineName = some engine ∧
          s.Alike like engine s')
      (Session.create engineName c.settings)
      (Session.create engineName c'.settings) := by
  unfold Session.create
  cases hEngine : Engine.ofName? engineName with
  | none => exact .error _
  | some engine =>
      refine .ok ⟨engine, rfl, ?_⟩
      rw [hAlike.second]
      exact ⟨rfl, rfl, rfl, rfl, rfl, rfl, rfl, .none, rfl⟩

/- Sessions are opened alike with configurations that are
   alike. -/
theorem connect_alike
    {config config' : ConnectionConfig}
    (hEngine : config.engine = config'.engine)
    (hConfigs : ∀ engine,
      Engine.ofName? config.engine = some engine →
        like.Configs engine config config') :
    ActAlike like lo hi (connect config)
      (connect config') := by
  unfold connect
  refine .bind_same disconnect_alike fun _ => ?_
  refine .state_bind fun c c' hAlike => ?_
  rw [← hEngine]
  refine .bind (.ofExcept (create_alike hAlike _)) ?_
  rintro s s' ⟨engine, hName, hFresh⟩
  have hBoth := hConfigs engine hName
  refine .bind
    (.apart hFresh (Session.connect_alike hBoth)) ?_
  rintro ⟨_, t⟩ ⟨_, t'⟩ ⟨-, hOpened⟩
  rw [like.server hBoth]
  exact .update fun d d' hHeld => hHeld.holding hOpened _

------------------------------------------------------------
-- Operations
------------------------------------------------------------

/- Open sessions are asked for alike, and are alike. -/
theorem activeSession_alike :
    Act.Alike like.Calls (Alike like lo hi)
      (fun s s' => s.Alike like s.engine s')
      activeSession activeSession := by
  unfold activeSession
  refine .state_bind fun c c' hAlike => ?_
  have hSession := hAlike.session
  revert hSession
  generalize c.session = session?, c'.session = session?'
  rintro (hBoth | _)
  · dsimp only
    rw [hBoth.connected]
    exact .ite (.pure hBoth) (.fail _)
  · exact .fail _

/- Operations that are alike on sessions are so on those
   that are held. -/
theorem active_alike
    {α : Type}
    {operation operation' : Act Session α}
    (hOperation : ∀ engine,
      Session.ActAlike like engine operation operation') :
    ActAlike like lo hi (active operation)
      (active operation') := by
  unfold active
  refine .bind activeSession_alike fun s s' hBoth => ?_
  refine .within hBoth ?_ (hOperation s.engine)
  exact fun t t' c c' hLater hAlike => hAlike.keep hLater

end Connections

end SqlGateway
