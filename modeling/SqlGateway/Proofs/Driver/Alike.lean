import SqlGateway.Driver.Calls
import SqlGateway.Proofs.Act.Alike

/-
  This file shows that the calls of the drivers are alike in
  two runs: the same call meets the same failure or reply,
  whatever the state.  Where two pools are made with
  different strings, that shows in the record of the call
  and nowhere else.

  Main declarations:
    * `createPostgresPool_alike`, `createOdbcPool_alike`
    * `openPool_alike`, `acquire_alike`, `releasePool_alike`
    * `execute_alike`, `fetchAll_alike`
-/

namespace SqlGateway

namespace Driver

open Act (Alike)

variable {σ : Type}
variable {E : Event → Event → Prop}
variable {R : σ → σ → Prop}
variable (hRefl : ∀ event, E event event)

/- PostgreSQL pools with strings whose records are alike. -/
theorem createPostgresPool_alike
    {s s' : String}
    {options : PostgresPoolOptions}
    (hEvents : ∀ pool,
      E (.createPostgresPool pool s options)
        (.createPostgresPool pool s' options)) :
    Alike E R (· = ·) (createPostgresPool s options)
      (createPostgresPool s' options) := by
  unfold createPostgresPool
  refine .ite (.raise _ _) ?_
  refine .bind_same .script fun script => ?_
  refine .bind_same (.failIf _ _) fun _ => ?_
  refine .bind_same .newPool fun pool => ?_
  exact .bind_same (.emit (hEvents pool)) fun _ => .pure rfl

include hRefl

/- ODBC pools with strings whose records are alike. -/
theorem createOdbcPool_alike
    {codes codes' : List Text.Code}
    {options : OdbcPoolOptions}
    (hEvents :
      E (.createOdbcPool codes options)
        (.createOdbcPool codes' options)) :
    Alike E R (· = ·) (createOdbcPool codes options)
      (createOdbcPool codes' options) := by
  unfold createOdbcPool
  refine .bind_same (.emit hEvents) fun _ => ?_
  refine .bind_same .script fun script => ?_
  refine .bind_same (.failIf _ _) fun _ => ?_
  refine .bind_same .newPool fun pool => ?_
  exact .bind_same (.emit (hRefl _)) fun _ => .pure rfl

theorem openPool_alike
    (pool : Nat)
    (waits : Bool)
    (timeout : Nat) :
    Alike E R (· = ·) (openPool pool waits timeout)
      (openPool pool waits timeout) := by
  unfold openPool
  refine .bind_same (.emit (hRefl _)) fun _ => ?_
  exact .bind_same .script fun script => .failIf _ _

theorem acquire_alike
    (engine : Engine)
    (pool : Nat) :
    Alike E R (· = ·) (acquire engine pool)
      (acquire engine pool) := by
  unfold acquire
  refine .bind_same (.emit (hRefl _)) fun _ => ?_
  exact .bind_same .script fun script => .failIf _ _

theorem releasePool_alike
    (engine : Engine)
    (pool : Nat) :
    Alike E R (· = ·) (releasePool engine pool)
      (releasePool engine pool) := by
  have hClose :
      Alike E R (· = ·) (closePool engine pool)
        (closePool engine pool) := by
    unfold closePool
    refine .bind_same (.emit (hRefl _)) fun _ => ?_
    exact .bind_same .script fun script => .failIf _ _
  have hWait :
      Alike E R (· = ·) (waitClosed pool)
        (waitClosed pool) := by
    unfold waitClosed
    refine .bind_same (.emit (hRefl _)) fun _ => ?_
    exact .bind_same .script fun script => .failIf _ _
  unfold releasePool
  refine .bind_same hClose fun _ => ?_
  cases engine with
  | sqlServer => exact hWait
  | postgres => exact .pure rfl

theorem execute_alike
    (statement : String)
    (parameters : Option (List Value)) :
    Alike E R (· = ·) (execute statement parameters)
      (execute statement parameters) := by
  unfold execute
  refine .bind_same (.emit (hRefl _)) fun _ => ?_
  refine .bind_same .nextReply fun reply => ?_
  exact .bind_same (.failIf _ _) fun _ => .pure rfl

theorem fetchAll_alike
    (engine : Engine)
    (reply : Reply) :
    Alike E R (· = ·) (fetchAll engine reply)
      (fetchAll engine reply) := by
  unfold fetchAll
  refine .bind_same (.emit (hRefl _)) fun _ => ?_
  refine .bind_same (.failIf _ _) fun _ => ?_
  refine .bind_same ?_ fun columns => .pure rfl
  exact .ofDriver (.refl (fun _ => rfl) _)

end Driver

end SqlGateway
