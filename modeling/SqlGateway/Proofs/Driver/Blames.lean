import SqlGateway.Driver.Calls
import SqlGateway.Proofs.Act.Blames

/-
  This file shows that the calls of the drivers fail only
  with what the driver raised in them.

  Main declarations:
    * `createPostgresPool_blames`, `createOdbcPool_blames`
    * `openPool_blames`, `acquire_blames`
    * `releasePool_blames`
    * `execute_blames`, `fetchAll_blames`
-/

namespace SqlGateway

namespace Driver

open Act (Blames)

variable {σ : Type}
variable {calls : List DriverCall}

theorem createPostgresPool_blames
    {connectionString : String}
    {options : PostgresPoolOptions}
    (hCall : .makePool .postgres ∈ calls) :
    Blames (Thrown calls)
      (createPostgresPool connectionString options :
        Act σ Nat) := by
  unfold createPostgresPool
  refine .ite (.raise (.mk hCall _)) ?_
  refine .bind .script fun script => ?_
  refine .bind (.failIf (.mk hCall)) fun _ => ?_
  refine .bind .newPool fun pool => ?_
  exact .bind (.emit _) fun _ => .pure pool

theorem createOdbcPool_blames
    {connectionString : List Text.Code}
    {options : OdbcPoolOptions}
    (hCall : .makePool .sqlServer ∈ calls) :
    Blames (Thrown calls)
      (createOdbcPool connectionString options :
        Act σ Nat) := by
  unfold createOdbcPool
  refine .bind (.emit _) fun _ => ?_
  refine .bind .script fun script => ?_
  refine .bind (.failIf (.mk hCall)) fun _ => ?_
  refine .bind .newPool fun pool => ?_
  exact .bind (.emit _) fun _ => .pure pool

theorem openPool_blames
    {pool : Nat}
    {waits : Bool}
    {timeout : Nat}
    (hCall : .openPool ∈ calls) :
    Blames (Thrown calls)
      (openPool pool waits timeout : Act σ Unit) := by
  unfold openPool
  refine .bind (.emit _) fun _ => ?_
  exact .bind .script fun script => .failIf (.mk hCall)

theorem acquire_blames
    {engine : Engine}
    {pool : Nat}
    (hCall : .acquire ∈ calls) :
    Blames (Thrown calls)
      (acquire engine pool : Act σ Unit) := by
  unfold acquire
  refine .bind (.emit _) fun _ => ?_
  exact .bind .script fun script => .failIf (.mk hCall)

theorem releasePool_blames
    {engine : Engine}
    {pool : Nat}
    (hClose : .closePool ∈ calls)
    (hWait : .waitClosed ∈ calls) :
    Blames (Thrown calls)
      (releasePool engine pool : Act σ Unit) := by
  unfold releasePool
  refine .bind ?_ fun _ => ?_
  · unfold closePool
    refine .bind (.emit _) fun _ => ?_
    exact .bind .script fun script => .failIf (.mk hClose)
  · cases engine with
    | sqlServer =>
        unfold waitClosed
        refine .bind (.emit _) fun _ => ?_
        exact .bind .script fun script => .failIf (.mk hWait)
    | postgres => exact .pure ()

theorem execute_blames
    {statement : String}
    {parameters : Option (List Value)}
    (hCall : .execute ∈ calls) :
    Blames (Thrown calls)
      (execute statement parameters : Act σ Reply) := by
  unfold execute
  refine .bind (.emit _) fun _ => ?_
  refine .bind .nextReply fun reply => ?_
  exact .bind (.failIf (.mk hCall)) fun _ => .pure reply

theorem fetchAll_blames
    {engine : Engine}
    {reply : Reply}
    (hCall : .fetchAll ∈ calls) :
    Blames (Thrown calls)
      (fetchAll engine reply : Act σ (List Fields)) := by
  unfold fetchAll
  refine .bind (.emit _) fun _ => ?_
  refine .bind (.failIf (.mk hCall)) fun _ => ?_
  exact .bind (.ofDriver (.mk hCall)) fun columns => .pure _

end Driver

end SqlGateway
