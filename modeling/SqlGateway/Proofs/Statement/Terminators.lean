import Mathlib.Data.List.Basic
import SqlGateway.Proofs.Statement.LimitClause

/-
  This file shows when a semicolon is left in front of a
  LIMIT clause.  A statement loses blanks, semicolons and
  blanks at its end, each once; where semicolons are set
  apart by blanks, the first of them stay and close the
  statement in front of the clause.

  Key definitions include:
    * `ClosesOnce`

  Main declarations:
    * `closesOnce_of_getLast?`
    * `terminator_left_iff`
-/

namespace SqlGateway

namespace Statement

open Text

variable {cs : List Char}
variable {n : Int}

------------------------------------------------------------
-- Closings
------------------------------------------------------------

/- A text closes once if it ends in blanks, semicolons and
   blanks, and no separator stands in front of these. -/
def ClosesOnce (cs : List Char) : Prop :=
  ∃ core closing : List Char,
    cs = core ++ closing ∧
      (∃ c ∈ core.getLast?, isSeparator c = false) ∧
      IsClosing closing

/- A text that is nothing but a closing is lost as a
   whole. -/
theorem trimClosing_of_isClosing
    {closing : List Char}
    (hClosing : IsClosing closing) :
    trimClosing closing = [] := by
  rcases hClosing with
    ⟨blanks, semicolons, more, rfl, hBlanks, hSemicolons,
      hMore⟩
  have hNone : trimRight isBlank blanks = [] :=
    trimRight_append_of_all hBlanks []
  unfold trimClosing
  rw [← List.append_assoc, trimRight_append_of_all hMore]
  rcases semicolons.eq_nil_or_concat' with
    rfl | ⟨front, last, rfl⟩
  · rw [List.append_nil, hNone]
    rfl
  · -- The last semicolon is no blank, so it is left to the
    -- second trimming, which takes them all.
    have hLast : last = ';' := by
      simpa using hSemicolons last (by simp)
    have hKept :
        trimRight isBlank (blanks ++ (front ++ [last])) =
          blanks ++ (front ++ [last]) := by
      apply trimRight_eq_self
      refine ⟨last, by simp, ?_⟩
      rw [hLast]
      decide
    rcases exists_trimRight_append (· == ';') blanks with
      ⟨cut, hCut, -⟩
    have hFront :
        ∀ c ∈ trimRight (· == ';') blanks,
          isBlank c = true := by
      intro c hMem
      apply hBlanks
      rw [hCut]
      exact List.mem_append_left cut hMem
    rw [hKept, trimRight_append_of_all hSemicolons]
    exact trimRight_append_of_all hFront []

------------------------------------------------------------
-- The End of the Body
------------------------------------------------------------

/- The body of a SELECT ends in a character that is no
   blank. -/
theorem exists_limitBody_eq_concat
    (hOpens : Keyword.Opens .select cs) :
    ∃ (front : List Char) (last : Char),
      limitBody cs = front ++ [last] ∧
        isBlank last = false := by
  rcases exists_limitBody_append hOpens with
    ⟨-, -, -, -, -, hBegins⟩
  rcases (limitBody cs).eq_nil_or_concat' with
    hNil | ⟨front, last, hBody⟩
  · exact absurd hNil hBegins.ne_nil
  · have hLast : (limitBody cs).getLast? = some last := by
      rw [hBody]
      exact List.getLast?_concat
    exact
      ⟨front, last, hBody, not_of_getLast?_trimRight hLast⟩

/- Where the statement closes once, its body ends in front of
   the closing. -/
theorem exists_getLast?_of_closesOnce
    (hOpens : Keyword.Opens .select cs)
    (hCloses : ClosesOnce cs) :
    ∃ c ∈ (limitBody cs).getLast?, isSeparator c = false := by
  rcases hCloses with
    ⟨core, closing, hText, hLast, hClosing⟩
  rcases hOpens with
    ⟨leading, text, hOpening, hLeading, word, rest, rfl,
      hSpelled, -⟩
  let front := leading ++ word
  let kept := trimRight isSeparator rest
  have hWord : word ≠ [] := by
    rcases hSpelled.exists_cons with ⟨c, more, rfl⟩
    exact List.cons_ne_nil c more
  have hFront : ∃ c ∈ front.getLast?, isSeparator c = false := by
    rw [List.getLast?_append_of_ne_nil leading hWord]
    exact hSpelled.exists_getLast?
  -- The core is what is left without the separators at the
  -- end, whichever way the statement is split.
  have hCore : core = front ++ kept := by
    calc
      core = trimRight isSeparator core :=
        (trimRight_eq_self hLast).symm
      _ = trimRight isSeparator cs := by
        rw [hText, trimRight_append_of_all hClosing.isSeparator]
      _ = front ++ kept := by
        rw [hOpening, ← List.append_assoc,
          trimRight_append hFront]
  have hRest : rest = kept ++ closing := by
    have hBoth :
        front ++ rest = front ++ (kept ++ closing) := by
      rw [← List.append_assoc front kept, ← hCore, ← hText,
        hOpening, List.append_assoc]
    exact List.append_cancel_left hBoth
  have hKept : ∃ c ∈ (word ++ kept).getLast?,
      isSeparator c = false := by
    have hSome : word ++ kept ≠ [] :=
      List.append_ne_nil_of_left_ne_nil hWord kept
    rw [hCore, List.append_assoc,
      List.getLast?_append_of_ne_nil leading hSome] at hLast
    exact hLast
  have hBody : limitBody cs = word ++ kept := by
    rw [hOpening, limitBody_append hLeading hSpelled, hRest,
      ← trimClosing_append hSpelled.exists_getLast?,
      ← List.append_assoc, trimClosing_append hKept,
      trimClosing_of_isClosing hClosing, List.append_nil]
  rw [hBody]
  exact hKept

theorem closesOnce_of_getLast?
    (hOpens : Keyword.Opens .select cs)
    (hLast : ∃ c ∈ (limitBody cs).getLast?,
      isSeparator c = false) :
    ClosesOnce cs := by
  rcases hOpens with
    ⟨leading, text, rfl, hLeading, word, rest, rfl, hSpelled,
      -⟩
  rcases exists_trimClosing_append rest with
    ⟨closing, hRest, hClosing⟩
  rw [limitBody_append hLeading hSpelled] at hLast
  have hSome : word ++ trimClosing rest ≠ [] := by
    rcases hSpelled.exists_cons with ⟨c, more, rfl⟩
    exact List.cons_ne_nil c _
  refine
    ⟨leading ++ (word ++ trimClosing rest), closing, ?_, ?_,
      hClosing⟩
  · rw [List.append_assoc, List.append_assoc, ← hRest]
  · rw [List.getLast?_append_of_ne_nil leading hSome]
    exact hLast

/-
  In a statement that is capped, the character in front of
  the LIMIT clause is never a blank.  It is no semicolon
  either if and only if the statement closes once; else a
  semicolon ends the statement in front of the clause.
-/
theorem terminator_left_iff
    (hCapped : capRows .postgres cs n ≠ cs) :
    ∃ (front : List Char) (last : Char),
      capRows .postgres cs n =
          front ++ last :: limitClause n ∧
        isBlank last = false ∧
        (last ≠ ';' ↔ ClosesOnce cs) := by
  have hUnlimited := isUnlimited_of_capRows_ne hCapped
  have hOpens : Keyword.Opens .select cs :=
    isSelect_iff_opens.mp
      (Bool.and_eq_true_iff.mp hUnlimited).1
  rcases exists_limitBody_eq_concat hOpens with
    ⟨front, last, hBody, hBlank⟩
  have hLast : (limitBody cs).getLast? = some last := by
    rw [hBody]
    exact List.getLast?_concat
  refine ⟨front, last, ?_, hBlank, ?_⟩
  · rw [capRows_of_isUnlimited hUnlimited, hBody,
      List.append_assoc]
    rfl
  · have hSeparator :
        isSeparator last = false ↔ last ≠ ';' := by
      simp [isSeparator, hBlank]
    rw [← hSeparator]
    constructor
    · intro hStays
      exact closesOnce_of_getLast? hOpens ⟨last, hLast, hStays⟩
    · intro hCloses
      rcases exists_getLast?_of_closesOnce hOpens hCloses with
        ⟨c, hMem, hStays⟩
      rw [hLast] at hMem
      cases hMem
      exact hStays

/- A SELECT with semicolons set apart by a blank at its
   end. -/
def twiceClosed : List Char :=
  "SELECT 1; ;".toList

/- A SELECT that is closed twice is capped, and what stands
   in front of the clause depends on how it closes. -/
theorem twiceClosed_terminator_left :
    capRows .postgres twiceClosed 50 ≠ twiceClosed ∧
      ∃ (front : List Char) (last : Char),
        capRows .postgres twiceClosed 50 =
            front ++ last :: limitClause 50 ∧
          isBlank last = false ∧
          (last ≠ ';' ↔ ClosesOnce twiceClosed) := by
  have hCapped :
      capRows .postgres twiceClosed 50 ≠ twiceClosed := by
    decide
  exact ⟨hCapped, terminator_left_iff hCapped⟩

/- The first of its semicolons is left in front of the
   clause. -/
theorem limit_behind_terminator :
    trimRight isSeparator twiceClosed ≠ [] ∧
      capRows .postgres twiceClosed 50 ≠ twiceClosed ∧
      capRows .postgres twiceClosed 50 =
        "SELECT 1".toList ++ ';' :: limitClause 50 := by
  refine ⟨?_, ?_, ?_⟩
  · decide
  · decide
  · rfl

end Statement

end SqlGateway
