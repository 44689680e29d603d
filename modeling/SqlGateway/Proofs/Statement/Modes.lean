import SqlGateway.Proofs.Statement.Classify

/-
  This file orders the query modes from the narrowest to the
  widest, and shows that a mode permits what the modes below
  it permit.

  Key definitions include:
    * `QueryMode.rank`

  Main declarations:
    * `judge_mono`
    * `authorize_mono`
-/

namespace SqlGateway

namespace Statement

open Text

------------------------------------------------------------
-- Order
------------------------------------------------------------

namespace QueryMode

/- How wide a mode is. -/
def rank : QueryMode → Nat
  | safe => 0
  | write => 1
  | full => 2

instance : LE QueryMode where
  le lo hi := lo.rank ≤ hi.rank

instance (lo hi : QueryMode) : Decidable (lo ≤ hi) :=
  inferInstanceAs (Decidable (lo.rank ≤ hi.rank))

/- No mode is wider than the widest. -/
theorem eq_full_of_le
    {mode : QueryMode}
    (hOrder : full ≤ mode) :
    mode = full := by
  cases mode with
  | safe => exact absurd hOrder (by decide)
  | write => exact absurd hOrder (by decide)
  | full => rfl

end QueryMode

------------------------------------------------------------
-- Permission
------------------------------------------------------------

variable {lo hi : QueryMode}

/- A mode has nothing against a class that a narrower mode
   has nothing against. -/
theorem judge_mono
    {found? : Option StatementClass}
    (hOrder : lo ≤ hi)
    (hJudged : lo.judge found? = .ok ()) :
    hi.judge found? = .ok () := by
  cases hi with
  | full => rfl
  | safe =>
      cases lo with
      | safe => exact hJudged
      | write => exact absurd hOrder (by decide)
      | full => exact absurd hOrder (by decide)
  | write =>
      cases lo with
      | write => exact hJudged
      | full => exact absurd hOrder (by decide)
      | safe =>
          -- Safe mode permits what reads, and only that.
          cases found? with
          | none => cases hJudged
          | some found =>
              cases found with
              | read => rfl
              | write => cases hJudged
              | ddl => cases hJudged

/- No mode permits a statement that is empty. -/
theorem isEmpty_of_authorize
    {cs : List Char}
    (hPermitted : authorize lo cs = .ok ()) :
    (trim isBlank cs).isEmpty = false := by
  cases hEmpty : (trim isBlank cs).isEmpty with
  | false => rfl
  | true =>
      unfold authorize at hPermitted
      rw [hEmpty] at hPermitted
      cases hPermitted

/- A statement that a mode permits is permitted by all wider
   modes. -/
theorem authorize_mono
    {cs : List Char}
    (hOrder : lo ≤ hi)
    (hPermitted : authorize lo cs = .ok ()) :
    authorize hi cs = .ok () := by
  by_cases hFull : hi = .full
  · -- The widest mode looks for nothing but emptiness.
    subst hFull
    unfold authorize
    rw [isEmpty_of_authorize hPermitted]
    rfl
  · have hLow : lo ≠ .full := by
      rintro rfl
      exact hFull (QueryMode.eq_full_of_le hOrder)
    rw [authorize_iff hLow] at hPermitted
    rw [authorize_iff hFull]
    exact ⟨hPermitted.1, judge_mono hOrder hPermitted.2⟩

end Statement

end SqlGateway
