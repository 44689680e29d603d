import SqlGateway.Proofs.Statement.Classify
import SqlGateway.Proofs.Statement.Indicator

/-
  This file shows what becomes of a statement that a mode
  refuses when it is put behind another one and a semicolon.
  The openings and the indicators are two tables.  What both
  of them name is refused there as well; what only the
  openings name passes there with the statement in front.

  Key definitions include:
    * `unchainedKeywords`
    * `chain`

  Main declarations:
    * `classify_trim_chain`
    * `hasIndicator_chain`
    * `chained_judged_by_front`
-/

namespace SqlGateway

namespace Statement

open Text

------------------------------------------------------------
-- Permission
------------------------------------------------------------

/- What is refused for the want of a permission has no
   indicator. -/
theorem hasIndicator_of_refused
    {mode : QueryMode}
    {cs : List Char}
    {refusal : Refusal}
    (hMode : mode ≠ .full)
    (hRefused : authorize mode cs = .error refusal)
    (hPermission : refusal.isMalformed = false) :
    hasIndicator cs = false := by
  cases hIndicator : hasIndicator cs with
  | false => rfl
  | true =>
      have hMalformed : refusal.isMalformed = true := by
        unfold authorize at hRefused
        rw [hIndicator] at hRefused
        split at hRefused
        · cases hRefused
          rfl
        · rw [if_pos (by simp [hMode])] at hRefused
          cases hRefused
          rfl
      rw [hMalformed] at hPermission
      cases hPermission

------------------------------------------------------------
-- Two Tables
------------------------------------------------------------

/- The keywords that open a statement which writes or changes
   schemas, and yet may follow a separator. -/
def unchainedKeywords : List Keyword :=
  [.merge, .grant, .revoke, .exec, .execute]

theorem exists_opening_of_chained :
    ∀ k ∈ chainedKeywords, ∃ rule ∈ openings,
      rule.1 = .keyword k := by
  decide

theorem keyword_of_openings :
    ∀ rule ∈ openings, rule.2 ≠ .read →
      rule.1 = .keyword rule.1.word := by
  decide

/- Of the keywords that open such statements, those that may
   follow a separator are the ones that the other table
   leaves out. -/
theorem unchained_iff_of_openings :
    ∀ rule ∈ openings, rule.2 ≠ .read →
      (rule.1.word ∈ unchainedKeywords ↔
        rule.1.word ∉ chainedKeywords) := by
  decide

/- A statement opens with one keyword only, so behind a
   separator it is forbidden for that or as a call. -/
theorem forbiddenAfterSeparator_of_startsWithSpaced
    {k : Keyword}
    {found : StatementClass}
    {cs : List Char}
    (hMem : (Opening.keyword k, found) ∈ openings)
    (hSpaced : startsWithSpaced k cs = true) :
    forbiddenAfterSeparator cs =
      (decide (k ∈ chainedKeywords) || callAt cs) := by
  have hAny :
      chainedKeywords.any (startsWithSpaced · cs) =
        decide (k ∈ chainedKeywords) := by
    rw [Bool.eq_iff_iff, List.any_eq_true, decide_eq_true_iff]
    constructor
    · rintro ⟨other, hChained, hOther⟩
      rcases exists_opening_of_chained other hChained with
        ⟨rule, hRule, hKeyword⟩
      have hFits : rule.1.opens cs = true := by
        rw [hKeyword]
        exact hOther
      have hSame :=
        openings_eq_of_opens hRule hMem hFits hSpaced
      have hOpening : Opening.keyword other = .keyword k := by
        rw [← hKeyword, hSame]
      cases hOpening
      exact hChained
    · intro hChained
      exact ⟨k, hChained, hSpaced⟩
  unfold forbiddenAfterSeparator
  rw [hAny]

------------------------------------------------------------
-- Chained Statements
------------------------------------------------------------

/- A statement behind another one, a semicolon and blanks. -/
def chain
    (front blanks statement : List Char) : List Char :=
  front ++ ';' :: (blanks ++ statement)

/- The class is that of the statement in front. -/
theorem classify_trim_chain
    (front blanks statement : List Char) :
    classify (trim isBlank (chain front blanks statement)) =
      classify front := by
  let tail := blanks ++ statement
  have hTrim :
      trim isBlank (chain front blanks statement) =
        trimLeft isBlank front ++
          ';' :: trimRight isBlank tail := by
    have hLeft :
        trimLeft isBlank (chain front blanks statement) =
          (trimLeft isBlank front ++ [';']) ++ tail := by
      rw [List.append_assoc]
      exact dropWhile_append_stop (by decide) front tail
    have hLast :
        (trimLeft isBlank front ++ [';']).getLast? =
          some ';' :=
      List.getLast?_concat
    unfold trim
    rw [hLeft, trimRight_append ⟨';', hLast, by decide⟩,
      List.append_assoc]
    rfl
  unfold classify classifyBy
  rw [trimLeft_trim, hTrim]
  simp only [Opening.opens_append_semicolon]

/- The indicators are those of both statements, and that of
   the semicolon between them. -/
theorem hasIndicator_chain
    {blanks : List Char}
    (hBlanks : ∀ c ∈ blanks, isBlank c = true)
    (front statement : List Char) :
    hasIndicator (chain front blanks statement) =
      (hasIndicator front ||
        (forbiddenAfterSeparator
            (trimLeft isBlank statement) ||
          hasIndicator statement)) := by
  unfold chain
  rw [hasIndicator_append_semicolon,
    hasIndicator_semicolon hBlanks]

/-
  A statement that writes or changes schemas, and is refused
  for the want of a permission, opens with a keyword that
  decides what becomes of it behind a semicolon.  Unless
  that is one of a few keywords, and no call by EXEC with a
  parenthesis, it is refused behind every statement.  Else
  it passes behind just the statements that have no
  indicator and whose class the mode permits.
-/
theorem chained_judged_by_front
    {mode : QueryMode}
    {statement : List Char}
    {found : StatementClass}
    {refusal : Refusal}
    (hMode : mode ≠ .full)
    (hClass : classify statement = some found)
    (hFound : found ≠ .read)
    (hRefused : authorize mode statement = .error refusal)
    (hPermission : refusal.isMalformed = false) :
    ∃ k : Keyword,
      k ∈ chainedKeywords ++ unchainedKeywords ∧
      startsWithSpaced k (trimLeft isBlank statement) = true ∧
      ∀ front blanks : List Char,
        (∀ c ∈ blanks, isBlank c = true) →
          (authorize mode (chain front blanks statement) =
              .ok () ↔
            k ∈ unchainedKeywords ∧
              callAt (trimLeft isBlank statement) = false ∧
              hasIndicator front = false ∧
              mode.judge (classify front) = .ok ()) := by
  have hOwn : hasIndicator statement = false :=
    hasIndicator_of_refused hMode hRefused hPermission
  rcases exists_opens_of_classify hClass with
    ⟨o, hMem, hOpens⟩
  have hUnchained := unchained_iff_of_openings _ hMem hFound
  have hKeyword : o = .keyword o.word :=
    keyword_of_openings _ hMem hFound
  have hSpaced := Opening.startsWithSpaced_of_opens hOpens
  refine ⟨o.word, ?_, hSpaced, ?_⟩
  · rw [List.mem_append, hUnchained]
    exact Classical.em _
  · intro front blanks hBlanks
    rw [hKeyword] at hMem
    rw [authorize_iff hMode, classify_trim_chain,
      hasIndicator_chain hBlanks,
      forbiddenAfterSeparator_of_startsWithSpaced hMem hSpaced,
      hOwn, hUnchained]
    simp only [Bool.or_false, Bool.or_eq_false_iff,
      decide_eq_false_iff_not]
    constructor
    · rintro ⟨⟨hFront, hWord, hCall⟩, hJudged⟩
      exact ⟨hWord, hCall, hFront, hJudged⟩
    · rintro ⟨hWord, hCall, hFront, hJudged⟩
      exact ⟨⟨hFront, hWord, hCall⟩, hJudged⟩

/- A statement that merges rows. -/
def merging : List Char :=
  "MERGE INTO t USING s ON t.id = s.id".toList

/- Safe mode refuses it, and permits it behind whatever safe
   mode permits. -/
theorem merging_judged_by_front :
    QueryMode.safe ≠ .full ∧
      classify merging = some .write ∧
      StatementClass.write ≠ .read ∧
      authorize .safe merging = .error .readOnly ∧
      Refusal.readOnly.isMalformed = false ∧
      ∃ k : Keyword,
        k ∈ chainedKeywords ++ unchainedKeywords ∧
        startsWithSpaced k (trimLeft isBlank merging) = true ∧
        ∀ front blanks : List Char,
          (∀ c ∈ blanks, isBlank c = true) →
            (authorize .safe (chain front blanks merging) =
                .ok () ↔
              k ∈ unchainedKeywords ∧
                callAt (trimLeft isBlank merging) = false ∧
                hasIndicator front = false ∧
                QueryMode.safe.judge (classify front) =
                  .ok ()) :=
  have hMode : QueryMode.safe ≠ .full := by decide
  have hClass : classify merging = some .write := by rfl
  have hFound : StatementClass.write ≠ .read := by decide
  have hRefused :
      authorize .safe merging = .error .readOnly := by
    rfl
  have hPermission : Refusal.readOnly.isMalformed = false := by
    rfl
  ⟨hMode, hClass, hFound, hRefused, hPermission,
    chained_judged_by_front hMode hClass hFound hRefused
      hPermission⟩

/- Behind a SELECT safe mode is passed by a MERGE, and write
   mode by a statement that grants. -/
theorem modes_passed_behind_select :
    classify merging = some .write ∧
      authorize .safe merging = .error .readOnly ∧
      authorize .safe (chain "SELECT 1".toList [' '] merging) =
        .ok () ∧
      classify "GRANT ALL ON t TO u".toList = some .ddl ∧
      authorize .write "GRANT ALL ON t TO u".toList =
        .error .schemaChange ∧
      authorize .write
          (chain "SELECT 1".toList [' ']
            "GRANT ALL ON t TO u".toList) =
        .ok () := by
  refine ⟨?_, ?_, ?_, ?_, ?_, ?_⟩
  · rfl
  · rfl
  · rfl
  · rfl
  · rfl
  · rfl

end Statement

end SqlGateway
