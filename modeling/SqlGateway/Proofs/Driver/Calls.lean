import SqlGateway.Driver.Calls
import SqlGateway.Proofs.Act.Keeps

/-
  This file shows what the calls of the drivers keep: a call
  makes no progress but that of its own records, and leaves
  the state alone.

  Main declarations:
    * `createPostgresPool_keeps`, `createOdbcPool_keeps`
    * `openPool_keeps`, `acquire_keeps`
    * `closePool_keeps`, `waitClosed_keeps`
    * `execute_keeps`, `fetchAll_keeps`
-/

namespace SqlGateway

namespace Driver

open Act (Keeps)

variable {σ : Type}
variable {inv : σ → Prop}
variable {progress : Progress}

/- Making a PostgreSQL pool is recorded once it is made. -/
theorem createPostgresPool_keeps
    {connectionString : String}
    {options : PostgresPoolOptions}
    (hNumber : ∀ w : World,
      progress.Rel w { w with nextPool := w.nextPool + 1 })
    (hAdmits : ∀ pool,
      progress.Admits
        (.createPostgresPool pool connectionString
          options)) :
    Keeps inv progress
      (createPostgresPool connectionString options) := by
  unfold createPostgresPool
  refine .ite (.raise _ _) ?_
  refine .bind .script fun script => ?_
  refine .bind (.failIf _ _) fun _ => ?_
  refine .bind (.newPool hNumber) fun pool => ?_
  exact .bind (.emit (hAdmits pool)) fun _ => .pure pool

theorem createOdbcPool_keeps
    {connectionString : List Text.Code}
    {options : OdbcPoolOptions}
    (hNumber : ∀ w : World,
      progress.Rel w { w with nextPool := w.nextPool + 1 })
    (hAdmits :
      progress.Admits
        (.createOdbcPool connectionString options))
    (hReady : ∀ pool,
      progress.Admits
        (.poolReady pool options.statementTimeout)) :
    Keeps inv progress
      (createOdbcPool connectionString options) := by
  unfold createOdbcPool
  refine .bind (.emit hAdmits) fun _ => ?_
  refine .bind .script fun script => ?_
  refine .bind (.failIf _ _) fun _ => ?_
  refine .bind (.newPool hNumber) fun pool => ?_
  exact .bind (.emit (hReady pool)) fun _ => .pure pool

theorem openPool_keeps
    {pool : Nat}
    {waits : Bool}
    {timeout : Nat}
    (hAdmits :
      progress.Admits (.openPool pool waits timeout)) :
    Keeps inv progress (openPool pool waits timeout) := by
  unfold openPool
  refine .bind (.emit hAdmits) fun _ => ?_
  exact .bind .script fun script => .failIf _ _

theorem acquire_keeps
    {engine : Engine}
    {pool : Nat}
    (hAdmits : progress.Admits (.acquire engine pool)) :
    Keeps inv progress (acquire engine pool) := by
  unfold acquire
  refine .bind (.emit hAdmits) fun _ => ?_
  exact .bind .script fun script => .failIf _ _

theorem closePool_keeps
    {engine : Engine}
    {pool : Nat}
    (hAdmits : progress.Admits (.closePool engine pool)) :
    Keeps inv progress (closePool engine pool) := by
  unfold closePool
  refine .bind (.emit hAdmits) fun _ => ?_
  exact .bind .script fun script => .failIf _ _

theorem waitClosed_keeps
    {pool : Nat}
    (hAdmits : progress.Admits (.waitClosed pool)) :
    Keeps inv progress (waitClosed pool) := by
  unfold waitClosed
  refine .bind (.emit hAdmits) fun _ => ?_
  exact .bind .script fun script => .failIf _ _

theorem releasePool_keeps
    {engine : Engine}
    {pool : Nat}
    (hClose : progress.Admits (.closePool engine pool))
    (hWait : progress.Admits (.waitClosed pool)) :
    Keeps inv progress (releasePool engine pool) := by
  unfold releasePool
  refine .bind (closePool_keeps hClose) fun _ => ?_
  cases engine with
  | sqlServer => exact waitClosed_keeps hWait
  | postgres => exact .pure ()

theorem execute_keeps
    {statement : String}
    {parameters : Option (List Value)}
    (hAdmits :
      progress.Admits (.execute statement parameters)) :
    Keeps inv progress (execute statement parameters) := by
  unfold execute
  refine .bind (.emit hAdmits) fun _ => ?_
  refine .bind .nextReply fun reply => ?_
  exact .bind (.failIf _ _) fun _ => .pure reply

theorem fetchAll_keeps
    {engine : Engine}
    {reply : Reply}
    (hAdmits : progress.Admits .fetchAll) :
    Keeps inv progress (fetchAll engine reply) := by
  unfold fetchAll
  refine .bind (.emit hAdmits) fun _ => ?_
  refine .bind (.failIf _ _) fun _ => ?_
  exact .bind (.ofDriver _ _) fun columns => .pure _

end Driver

end SqlGateway
