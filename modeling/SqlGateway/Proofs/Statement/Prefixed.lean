import SqlGateway.Proofs.Statement.CommonTable

/-
  This file shows what safe mode says of a statement that
  stands behind a reading one: behind or inside a common
  table expression, or explained.  The gate judges by the
  opening, so only an indicator can refuse it there.

  Key definitions include:
    * `tableHead`
    * `behindTable`, `insideTable` and `explained`

  Main declarations:
    * `authorize_safe_iff`
    * `classify_tableHead_iff`
    * `opensCommonTable_tableHead`
    * `safe_judges_by_opening`
-/

namespace SqlGateway

namespace Statement

open Text

------------------------------------------------------------
-- Safe Mode
------------------------------------------------------------

/- Safe mode permits the statements that read and have no
   indicator. -/
theorem authorize_safe_iff
    {cs : List Char} :
    authorize .safe cs = .ok () ↔
      hasIndicator cs = false ∧
        classify (trim isBlank cs) = some .read := by
  rw [authorize_iff (by decide)]
  apply and_congr_right
  intro _
  cases hClass : classify (trim isBlank cs) with
  | none => simp [QueryMode.judge]
  | some found =>
      rw [judge_some_iff]
      cases found with
      | read => simp [QueryMode.permits]
      | write => simp [QueryMode.permits]
      | ddl => simp [QueryMode.permits]

theorem authorize_safe_ne_ok
    {cs : List Char}
    {found : StatementClass}
    (hClass : classify cs = some found)
    (hFound : found ≠ .read) :
    authorize .safe cs ≠ .ok () := by
  intro hPermitted
  have hTrim := (authorize_safe_iff.mp hPermitted).2
  have hRead := classify_of_trim hTrim
  rw [hClass] at hRead
  exact hFound (Option.some.inj hRead)

------------------------------------------------------------
-- Common Table Expressions
------------------------------------------------------------

/- The head of a common table expression, up to its
   parenthesis. -/
def tableHead (names : List Char) : List Char :=
  ['W', 'I', 'T', 'H', ' '] ++ names ++
    [' ', 'A', 'S', ' ', '(']

/- A statement behind a common table expression. -/
def behindTable
    (names body statement : List Char) : List Char :=
  tableHead names ++ (body ++ [')', ' '] ++ statement)

/- A statement as the body of a common table expression from
   which all is read. -/
def insideTable
    (names statement : List Char) : List Char :=
  tableHead names ++
    (statement ++
      [')', ' ', 'S', 'E', 'L', 'E', 'C', 'T', ' ', '*', ' ',
       'F', 'R', 'O', 'M', ' '] ++ names)

/- What follows the head is trimmed, the head is not. -/
theorem trim_tableHead_append
    (names tail : List Char) :
    trim isBlank (tableHead names ++ tail) =
      tableHead names ++ trimRight isBlank tail := by
  have hLeft :
      trimLeft isBlank (tableHead names ++ tail) =
        tableHead names ++ tail :=
    trimLeft_eq_self fun c hHead => by
      cases hHead
      decide
  have hLast : (tableHead names).getLast? = some '(' := by
    unfold tableHead
    rw [List.getLast?_append]
    rfl
  unfold trim
  rw [hLeft]
  apply trimRight_append
  exact ⟨'(', hLast, by decide⟩

/- The head begins with its keyword. -/
theorem splitKeyword?_tableHead (names : List Char) :
    splitKeyword? .with (tableHead names) =
      some (['W', 'I', 'T', 'H'],
        (' ' :: names ++ [' ', 'A', 'S', ' ']) ++ ['(']) := by
  apply splitWord?_eq_some.mpr
  constructor
  · simp [tableHead]
  · decide

/- The head ends the list of names, so what follows it does
   not matter. -/
theorem opensCommonTable_tableHead_append
    (names tail : List Char) :
    opensCommonTable (tableHead names ++ tail) =
      opensCommonTable (tableHead names) := by
  have hSplit := splitKeyword?_tableHead names
  apply Opening.opensCommonTable_append_eq hSplit
  intro hNil
  have hAll := List.dropWhile_eq_nil_iff.mp hNil
  have hParen : isNameListChar '(' = true :=
    hAll '(' (by simp)
  exact absurd hParen (by decide)

/-
  A text with such a head reads if its names are such as the
  gate takes, whatever follows; else its class is not known.
-/
theorem classify_tableHead_iff
    (names tail : List Char) :
    classify (trim isBlank (tableHead names ++ tail)) =
        some .read ↔
      opensCommonTable (tableHead names) = true := by
  rw [trim_tableHead_append]
  have hLeft :
      trimLeft isBlank
          (tableHead names ++ trimRight isBlank tail) =
        tableHead names ++ trimRight isBlank tail :=
    trimLeft_eq_self fun c hHead => by
      cases hHead
      decide
  constructor
  · intro hClass
    rcases exists_opens_of_classify hClass with
      ⟨o, hMem, hOpens⟩
    rw [hLeft] at hOpens
    have hWord : o.word.letters = Keyword.with.letters :=
      (Opening.spelledBy_leadingWord hOpens).symm
    -- No other opening begins with WITH.
    have hTable : o = .commonTable :=
      congrArg Prod.fst
        (openings_eq_of_word _ hMem (.commonTable, .read)
          (by decide) hWord)
    rw [hTable] at hOpens
    rw [← opensCommonTable_tableHead_append]
    exact hOpens
  · intro hOpens
    have hMem :
        (Opening.commonTable, StatementClass.read) ∈
          openings := by
      decide
    apply classify_of_opens hMem
    rw [hLeft]
    exact (opensCommonTable_tableHead_append _ _).trans hOpens

/- The gate takes any names of word characters, blanks and
   commas. -/
theorem opensCommonTable_tableHead
    {names : List Char}
    (hSome : names ≠ [])
    (hNames : ∀ c ∈ names, isNameListChar c = true) :
    opensCommonTable (tableHead names) = true := by
  have hBlank : ∀ c ∈ [' '], isBlank c = true :=
    List.all_eq_true.mp (by decide)
  let split : TableSplit := {
    leading := []
    word := ['W', 'I', 'T', 'H']
    gap := [' ']
    names := names
    space := [' ']
    closing := ['A', 'S']
    filler := [' ']
    rest := []
    leading_blank := List.forall_mem_nil _
    word_spelled := rfl
    gap_ne_nil := List.cons_ne_nil ' ' []
    gap_blank := hBlank
    names_ne_nil := hSome
    names_listed := hNames
    space_ne_nil := List.cons_ne_nil ' ' []
    space_blank := hBlank
    closing_spelled := rfl
    filler_blank := hBlank }
  have hText : split.text = tableHead names := by
    simp [split, TableSplit.text, TableSplit.run,
      TableSplit.before, tableHead]
  have hLeft :
      trimLeft isBlank (tableHead names) = tableHead names :=
    trimLeft_eq_self fun c hHead => by
      cases hHead
      decide
  have hScans := split.scans
  rw [hText] at hScans
  rw [← hLeft]
  exact opensCommonTable_iff_scans.mpr hScans

------------------------------------------------------------
-- Explained Statements
------------------------------------------------------------

/- A statement that is run to be explained. -/
def explained (statement : List Char) : List Char :=
  ['E', 'X', 'P', 'L', 'A', 'I', 'N', ' ', 'A', 'N', 'A', 'L',
   'Y', 'Z', 'E', ' '] ++ statement

theorem hasIndicator_explained
    (statement : List Char) :
    hasIndicator (explained statement) =
      hasIndicator statement := by
  rfl

/- An explained statement reads, whatever it is. -/
theorem classify_explained
    (statement : List Char) :
    classify (trim isBlank (explained statement)) =
      some .read := by
  let front :=
    ['E', 'X', 'P', 'L', 'A', 'I', 'N', ' ', 'A', 'N', 'A',
     'L', 'Y', 'Z', 'E']
  have hText :
      trimLeft isBlank (explained statement) =
        front ++ ' ' :: statement :=
    trimLeft_eq_self fun c hHead => by
      cases hHead
      decide
  have hTrim :
      trim isBlank (explained statement) =
        front ++ trimRight isBlank (' ' :: statement) := by
    unfold trim
    rw [hText]
    apply trimRight_append
    exact ⟨'E', rfl, by decide⟩
  have hMem :
      (Opening.keyword .explain, StatementClass.read) ∈
        openings := by
    decide
  have hOpens : (Opening.keyword .explain).opens front := by
    decide
  apply classify_of_opens hMem
  rw [trimLeft_trim, hTrim]
  exact Opening.opens_append hOpens _

------------------------------------------------------------
-- Prefixed Statements
------------------------------------------------------------

/-
  Safe mode refuses a statement that writes, and yet permits
  it behind a reading opening unless the text has an
  indicator: behind or inside a common table expression, if
  the gate takes the names, as it does any of word
  characters, blanks and commas; and to be explained.
-/
theorem safe_judges_by_opening
    {statement : List Char}
    (hWrites : classify statement = some .write) :
    authorize .safe statement ≠ .ok () ∧
      (∀ names body : List Char,
        let text := behindTable names body statement
        authorize .safe text = .ok () ↔
          hasIndicator text = false ∧
            opensCommonTable (tableHead names) = true) ∧
      (∀ names : List Char,
        let text := insideTable names statement
        authorize .safe text = .ok () ↔
          hasIndicator text = false ∧
            opensCommonTable (tableHead names) = true) ∧
      (∀ names : List Char,
        names ≠ [] →
          (∀ c ∈ names, isNameListChar c = true) →
            opensCommonTable (tableHead names) = true) ∧
      (authorize .safe (explained statement) = .ok () ↔
        hasIndicator statement = false) := by
  refine ⟨?_, ?_, ?_, ?_, ?_⟩
  · apply authorize_safe_ne_ok hWrites
    decide
  · intro names body text
    rw [authorize_safe_iff]
    exact and_congr_right fun _ =>
      classify_tableHead_iff names _
  · intro names text
    rw [authorize_safe_iff]
    exact and_congr_right fun _ =>
      classify_tableHead_iff names _
  · intro names hSome hNames
    exact opensCommonTable_tableHead hSome hNames
  · rw [authorize_safe_iff, hasIndicator_explained]
    constructor
    · rintro ⟨hIndicator, -⟩
      exact hIndicator
    · intro hIndicator
      exact ⟨hIndicator, classify_explained statement⟩

/- A statement that deletes rows. -/
def deletion : List Char :=
  "DELETE FROM t".toList

/- A deletion is refused, and behind a reading opening it is
   judged by that. -/
theorem deletion_judged_by_opening :
    classify deletion = some .write ∧
      authorize .safe deletion ≠ .ok () ∧
      (∀ names body : List Char,
        let text := behindTable names body deletion
        authorize .safe text = .ok () ↔
          hasIndicator text = false ∧
            opensCommonTable (tableHead names) = true) ∧
      (∀ names : List Char,
        let text := insideTable names deletion
        authorize .safe text = .ok () ↔
          hasIndicator text = false ∧
            opensCommonTable (tableHead names) = true) ∧
      (∀ names : List Char,
        names ≠ [] →
          (∀ c ∈ names, isNameListChar c = true) →
            opensCommonTable (tableHead names) = true) ∧
      (authorize .safe (explained deletion) = .ok () ↔
        hasIndicator deletion = false) :=
  have hWrites : classify deletion = some .write := by
    rfl
  ⟨hWrites, safe_judges_by_opening hWrites⟩

/- Safe mode is passed by it behind or inside a common table
   expression, and by explaining it. -/
theorem safe_passed_by_deletion :
    classify "DELETE FROM t".toList = some .write ∧
      authorize .safe
          "WITH x AS (SELECT 1) DELETE FROM t".toList =
        .ok () ∧
      authorize .safe
          "WITH x AS (DELETE FROM t) SELECT * FROM x".toList =
        .ok () ∧
      authorize .safe
          "EXPLAIN ANALYZE DELETE FROM t".toList =
        .ok () := by
  refine ⟨?_, ?_, ?_, ?_⟩
  · rfl
  · rfl
  · rfl
  · rfl

end Statement

end SqlGateway
