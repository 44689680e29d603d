import SqlGateway.Driver.World

/-
  This file shows what becomes of a script while it is
  played: replies are taken from its front, and the failures
  that it tells of stay the same.

  Key definitions include:
    * `Script.Leaves`
    * `Script.Raises`
    * `Script.Ordinary`

  Main declarations:
    * `Script.Raises.of_leaves`
-/

namespace SqlGateway

namespace Script

------------------------------------------------------------
-- What Is Left
------------------------------------------------------------

/- What is left of a script after some of its replies. -/
def Leaves (script later : Script) : Prop :=
  ∃ n : Nat,
    later =
      { script with replies := script.replies.drop n }

namespace Leaves

variable {script later last : Script}

theorem refl (script : Script) : script.Leaves script :=
  ⟨0, rfl⟩

theorem tail (script : Script) :
    script.Leaves
      { script with replies := script.replies.tail } := by
  refine ⟨1, ?_⟩
  rw [List.drop_one]

theorem trans
    (hFirst : script.Leaves later)
    (hSecond : later.Leaves last) :
    script.Leaves last := by
  rcases hFirst with ⟨n, rfl⟩
  rcases hSecond with ⟨m, rfl⟩
  refine ⟨n + m, ?_⟩
  rw [List.drop_drop]

theorem closeError
    (hLeaves : script.Leaves later) :
    later.closeError = script.closeError := by
  rcases hLeaves with ⟨n, rfl⟩
  rfl

end Leaves

------------------------------------------------------------
-- What Is Raised
------------------------------------------------------------

/- The failures that a script tells of. -/
inductive Raises (script : Script) : Failure → Prop where
  | construct
      {e : Failure}
      (hError : script.constructError = some e) :
      Raises script e
  | create
      {e : Failure}
      (hError : script.createError = some e) :
      Raises script e
  | openPool
      {pool : Nat}
      {e : Failure}
      (hError : script.openError pool = some e) :
      Raises script e
  | closePool
      {pool : Nat}
      {e : Failure}
      (hError : script.closeError pool = some e) :
      Raises script e
  | waitClosed
      {pool : Nat}
      {e : Failure}
      (hError : script.waitClosedError pool = some e) :
      Raises script e
  | acquire
      {pool : Nat}
      {e : Failure}
      (hError : script.acquireError pool = some e) :
      Raises script e
  | execute
      {reply : Reply}
      {e : Failure}
      (hReply : reply ∈ script.replies)
      (hError : reply.error = some e) :
      Raises script e
  | fetchAll
      {reply : Reply}
      {e : Failure}
      (hReply : reply ∈ script.replies)
      (hError : reply.fetchError = some e) :
      Raises script e

theorem Raises.of_leaves
    {script later : Script}
    {e : Failure}
    (hLeaves : script.Leaves later)
    (hRaises : later.Raises e) :
    script.Raises e := by
  rcases hLeaves with ⟨n, rfl⟩
  cases hRaises with
  | construct hError => exact .construct hError
  | create hError => exact .create hError
  | openPool hError => exact .openPool hError
  | closePool hError => exact .closePool hError
  | waitClosed hError => exact .waitClosed hError
  | acquire hError => exact .acquire hError
  | execute hReply hError =>
      exact .execute (List.mem_of_mem_drop hReply) hError
  | fetchAll hReply hError =>
      exact .fetchAll (List.mem_of_mem_drop hReply) hError

/- No failure of a script ends the run. -/
def Ordinary (script : Script) : Prop :=
  ∀ e, script.Raises e → e.endsRun = false

end Script

end SqlGateway
