import Mathlib.Data.List.Forall2
import SqlGateway.Proofs.QueryResult.TableReading

/-
  This file shows when the markdown answer to a query is a
  table that can be read back: exactly when neither the name
  of a column nor a cell that is shown has a bar or the end
  of a line in it, since the answer is written without
  marking them.

  Key definitions include:
    * `QueryResult.ReadsBack`
    * `QueryResult.IsTabular`

  Main declarations:
    * `QueryResult.splitLines_markdown`
    * `QueryResult.isTabular_of_readsBack`
    * `QueryResult.markdown_reads_back_iff`
-/

namespace SqlGateway

open Table

namespace QueryResult

------------------------------------------------------------
-- Answers That Come Back
------------------------------------------------------------

/- The line that tells the number of rows. -/
def countLine (n : Int) : List Char :=
  ("**" ++ toString n ++ " row(s) returned**").toList

/- What follows a table of which rows are omitted: an empty
   line, and one that tells their number. -/
def omissionTail (omitted : Nat) : List (List Char) :=
  if omitted = 0 then
    []
  else
    [[], ("_...and " ++ toString omitted ++
      " more rows (use limit to control)_").toList]

/-
  A text is read back as the table of a result: the line with
  the number of rows, an empty line, the row of the columns,
  the row of dashes, and for each row that is shown the row
  of its cells; and the rows that are shown and those that
  are announced as omitted are all rows.
-/
def ReadsBack
    (r : QueryResult)
    (text : String) : Prop :=
  ∃ (header separator : List Char)
      (body : List (List Char)) (omitted : Nat),
    splitLines text.toList =
        countLine r.rowCount :: [] :: header :: separator ::
          (body ++ omissionTail omitted) ∧
      ReadsAs header r.columns ∧
      ReadsAs separator (r.columns.map fun _ => "---") ∧
      List.Forall₂
        (fun line row =>
          ReadsAs line (rowCells r.columns row))
        body (r.rows.take shownRows) ∧
      (body.length + omitted : Int) = r.rowCount

/- The names of the columns and the cells that are shown have
   a place in a row. -/
structure IsTabular (r : QueryResult) : Prop where
  columns : ∀ name ∈ r.columns, Tabular name
  cells :
    ∀ row ∈ r.rows.take shownRows,
      ∀ cell ∈ rowCells r.columns row, Tabular cell

/- None of them has the end of a line in it. -/
structure IsUnbroken (r : QueryResult) : Prop where
  columns : ∀ name ∈ r.columns, Unbroken name.toList
  cells :
    ∀ row ∈ r.rows.take shownRows,
      ∀ cell ∈ rowCells r.columns row, Unbroken cell.toList

theorem IsTabular.isUnbroken
    {r : QueryResult}
    (hTabular : r.IsTabular) :
    r.IsUnbroken where
  columns name hName := (hTabular.columns name hName).2
  cells row hRow cell hCell :=
    (hTabular.cells row hRow cell hCell).2

------------------------------------------------------------
-- Lines of the Answer
------------------------------------------------------------

/- The lines of the rows that are shown. -/
def rowLines (r : QueryResult) : List (List Char) :=
  (r.rows.take shownRows).map fun row =>
    (tableLine (rowCells r.columns row)).toList

/- All lines of the answer below the number of rows. -/
def linesBelow (r : QueryResult) : List (List Char) :=
  [] :: (tableLine r.columns).toList ::
    (tableLine (r.columns.map fun _ => "---")).toList ::
      (r.rowLines ++ omissionTail (r.rows.length - shownRows))

variable {r : QueryResult}

/- The line of a number of rows left out is written below an
   empty line, and none is written where none is left out. -/
theorem flatMap_omissionLines (n : Nat) :
    ((omissionLines n).map String.toList).flatMap
        (fun text => ['\n'] ++ text) =
      (omissionTail (n - shownRows)).flatMap
        fun line => '\n' :: line := by
  unfold omissionLines omissionTail
  by_cases hMany : shownRows < n
  · have hRest :
        ((n : Int) - (shownRows : Int)) =
          ((n - shownRows : Nat) : Int) := by
      omega
    have hSome : ¬ n - shownRows = 0 := by
      omega
    have hText :
        toString ((n - shownRows : Nat) : Int) =
          toString (n - shownRows) := rfl
    rw [if_pos (by exact_mod_cast hMany), if_neg hSome,
      hRest, hText]
    simp [String.toList_append]
  · have hNone : n - shownRows = 0 := by
      omega
    rw [if_neg (by exact_mod_cast hMany), if_pos hNone]
    rfl

/- The answer is these lines, one below the other. -/
theorem toList_markdown
    (hColumns : r.columns ≠ [])
    (hRows : r.rows ≠ [])
    (hCount : r.rowCount = r.rows.length) :
    r.markdown.toList =
      countLine r.rowCount ++
        r.linesBelow.flatMap fun line => '\n' :: line := by
  have hShown :
      (r.columns.isEmpty || r.rows.isEmpty) = false := by
    simp [hColumns, hRows]
  have hTop :
      ("**" ++ toString r.rowCount ++
          " row(s) returned**\n").toList =
        countLine r.rowCount ++ ['\n'] := by
    simp [countLine, String.toList_append]
  have hOmitted :
      ((omissionLines r.rowCount).map String.toList).flatMap
          (fun text => ['\n'] ++ text) =
        (omissionTail (r.rows.length - shownRows)).flatMap
          fun line => '\n' :: line := by
    rw [hCount]
    exact flatMap_omissionLines r.rows.length
  have hBreak : "\n".toList = ['\n'] := rfl
  unfold markdown
  rw [hShown, if_neg Bool.false_ne_true,
    String.toList_intercalate, hBreak]
  simp only [tableLines, List.map_append, List.map_cons,
    List.cons_append, List.nil_append]
  rw [intercalate_cons, hTop]
  simp only [List.flatMap_cons, List.flatMap_append, hOmitted]
  simp [linesBelow, rowLines, Function.comp_def]

theorem unbroken_decimal (n : Nat) :
    Unbroken (toString n).toList := by
  intro c hMem
  rw [Nat.toString_eq_ofList_toDigits, String.toList_ofList]
    at hMem
  have hDigit :=
    Nat.isDigit_of_mem_toDigits (by decide) (by decide) hMem
  have hFeed : c ≠ '\n' := by
    rintro rfl
    cases hDigit
  have hReturn : c ≠ '\r' := by
    rintro rfl
    cases hDigit
  simp [isBreak, hFeed, hReturn]

theorem unbroken_around_decimal
    {before behind : String}
    (hBefore : Unbroken before.toList)
    (hBehind : Unbroken behind.toList)
    (n : Nat) :
    Unbroken (before ++ toString n ++ behind).toList := by
  intro c hMem
  rw [String.toList_append, String.toList_append] at hMem
  rcases List.mem_append.mp hMem with hMem | hMem
  · rcases List.mem_append.mp hMem with hMem | hMem
    · exact hBefore c hMem
    · exact unbroken_decimal n c hMem
  · exact hBehind c hMem

/- The lines that end a table do not end before their end. -/
theorem unbroken_omissionTail
    {n : Nat}
    {line : List Char}
    (hLine : line ∈ omissionTail n) :
    Unbroken line := by
  unfold omissionTail at hLine
  split at hLine
  · cases hLine
  · rcases List.mem_cons.mp hLine with rfl | hLast
    · exact nofun
    · rw [List.mem_singleton.mp hLast]
      exact unbroken_around_decimal
        (by decide) (by decide) n

/- Without the end of a line in a name or in a cell, the
   lines of the answer are read as they were written. -/
theorem splitLines_markdown
    (hColumns : r.columns ≠ [])
    (hRows : r.rows ≠ [])
    (hCount : r.rowCount = r.rows.length)
    (hUnbroken : r.IsUnbroken) :
    splitLines r.markdown.toList =
      countLine r.rowCount :: r.linesBelow := by
  rw [toList_markdown hColumns hRows hCount]
  apply splitLines_joined
  have hDashes :
      (r.columns.map fun _ => "---") ≠ [] := by
    simpa using hColumns
  refine List.forall_mem_cons.mpr ⟨?count, ?below⟩
  case count =>
    rw [hCount]
    exact unbroken_around_decimal
      (by decide) (by decide) r.rows.length
  case below =>
    refine List.forall_mem_cons.mpr ⟨nofun, ?_⟩
    refine List.forall_mem_cons.mpr ⟨?header, ?_⟩
    case header =>
      exact unbroken_tableLine hColumns hUnbroken.columns
    refine List.forall_mem_cons.mpr ⟨?separator, ?_⟩
    case separator =>
      apply unbroken_tableLine hDashes
      intro dashes hMem
      rcases List.mem_map.mp hMem with ⟨name, hName, rfl⟩
      decide
    refine List.forall_mem_append.mpr ⟨?rows, ?omission⟩
    case rows =>
      intro line hLine
      rcases List.mem_map.mp hLine with ⟨row, hRow, rfl⟩
      apply unbroken_tableLine
      · simpa [rowCells] using hColumns
      · exact hUnbroken.cells row hRow
    case omission =>
      exact fun line hLine => unbroken_omissionTail hLine

------------------------------------------------------------
-- Reading the Answer
------------------------------------------------------------

/-
  What is read back has no end of a line in it: its cells
  have characters of their lines only.
-/
theorem ReadsBack.isUnbroken
    {text : String}
    (hReads : r.ReadsBack text) :
    r.IsUnbroken := by
  rcases hReads with
    ⟨header, separator, body, omitted, hLines, hHeader,
      hSeparator, hBody, hTotal⟩
  have hInside :
      ∀ line ∈ splitLines text.toList, Unbroken line :=
    fun line hLine => unbroken_of_mem_splitLines hLine
  rw [hLines] at hInside
  constructor
  case columns =>
    exact hHeader.unbroken (hInside header (by simp))
  case cells =>
    intro row hRow
    rcases List.get_of_mem hRow with ⟨i, rfl⟩
    have hIndex : i.val < body.length := by
      rw [hBody.length_eq]
      exact i.isLt
    have hCells := hBody.get hIndex i.isLt
    exact hCells.unbroken
      (hInside (body.get ⟨i, hIndex⟩) (by simp))

/- The rows of a result, written as lines, are read back one
   by one. -/
theorem forall₂_rowLines_iff :
    List.Forall₂
        (fun line row =>
          ReadsAs line (rowCells r.columns row))
        r.rowLines (r.rows.take shownRows) ↔
      ∀ row ∈ r.rows.take shownRows,
        ReadsAs (tableLine (rowCells r.columns row)).toList
          (rowCells r.columns row) := by
  rw [rowLines, List.forall₂_map_left_iff,
    List.forall₂_same]

/-
  A table that is read back has no bar in a name or a cell.
  Its lines are read as they were written, so each line of
  the reading is the one that was written for its row.
-/
theorem isTabular_of_readsBack
    (hColumns : r.columns ≠ [])
    (hRows : r.rows ≠ [])
    (hCount : r.rowCount = r.rows.length)
    (hReads : r.ReadsBack r.markdown) :
    r.IsTabular := by
  have hUnbroken := hReads.isUnbroken
  rcases hReads with
    ⟨header, separator, body, omitted, hLines, hHeader,
      hSeparator, hBody, hTotal⟩
  rw [splitLines_markdown hColumns hRows hCount hUnbroken]
    at hLines
  simp only [linesBelow, List.cons.injEq, true_and] at hLines
  rcases hLines with ⟨rfl, rfl, hBelow⟩
  have hLength : r.rowLines.length = body.length := by
    rw [hBody.length_eq]
    simp [rowLines]
  rcases List.append_inj hBelow hLength with ⟨rfl, hOmission⟩
  have hBars := (readsAs_tableLine_iff hColumns).mp hHeader
  have hRowCells := forall₂_rowLines_iff.mp hBody
  constructor
  case columns =>
    intro name hName
    exact ⟨hBars name hName, hUnbroken.columns name hName⟩
  case cells =>
    intro row hRow cell hCell
    have hSome : rowCells r.columns row ≠ [] := by
      simpa [rowCells] using hColumns
    have hRowBars :=
      (readsAs_tableLine_iff hSome).mp (hRowCells row hRow)
    exact
      ⟨hRowBars cell hCell,
        hUnbroken.cells row hRow cell hCell⟩

/- A table without any is read back. -/
theorem readsBack_of_isTabular
    (hColumns : r.columns ≠ [])
    (hRows : r.rows ≠ [])
    (hCount : r.rowCount = r.rows.length)
    (hTabular : r.IsTabular) :
    r.ReadsBack r.markdown := by
  have hDashes :
      (r.columns.map fun _ => "---") ≠ [] := by
    simpa using hColumns
  refine
    ⟨_, _, r.rowLines, _,
      splitLines_markdown hColumns hRows hCount
        hTabular.isUnbroken, ?header, ?separator, ?rows,
      ?total⟩
  case header =>
    rw [readsAs_tableLine_iff hColumns]
    exact fun name hName => (hTabular.columns name hName).1
  case separator =>
    rw [readsAs_tableLine_iff hDashes]
    intro dashes hMem
    rcases List.mem_map.mp hMem with ⟨name, hName, rfl⟩
    decide
  case rows =>
    rw [forall₂_rowLines_iff]
    intro row hRow
    have hSome : rowCells r.columns row ≠ [] := by
      simpa [rowCells] using hColumns
    rw [readsAs_tableLine_iff hSome]
    exact fun cell hCell =>
      (hTabular.cells row hRow cell hCell).1
  case total =>
    rw [hCount, rowLines, List.length_map, List.length_take]
    omega

/-
  The markdown answer to a query with columns and rows is
  read back as its table if and only if no name of a column
  and no cell that is shown has a bar or the end of a line
  in it.  The answer is written without marking either.
-/
theorem markdown_reads_back_iff
    (r : QueryResult)
    (mode : String)
    (hColumns : r.columns ≠ [])
    (hRows : r.rows ≠ [])
    (hCount : r.rowCount = r.rows.length) :
    r.ReadsBack (r.answer mode .markdown) ↔ r.IsTabular :=
  ⟨isTabular_of_readsBack hColumns hRows hCount,
    readsBack_of_isTabular hColumns hRows hCount⟩

/- Sixty rows, ten of which are not shown. -/
def sixtyUsers : QueryResult where
  columns := ["id", "name"]
  rows :=
    List.replicate 60
      [("id", .text "7"), ("name", .text "user")]
  rowCount := 60

theorem sixtyUsers_reads_back :
    sixtyUsers.columns ≠ [] ∧
      sixtyUsers.rows ≠ [] ∧
      sixtyUsers.rowCount = sixtyUsers.rows.length ∧
      sixtyUsers.ReadsBack
        (sixtyUsers.answer "safe" .markdown) := by
  have hColumns : sixtyUsers.columns ≠ [] := by
    decide
  have hRows : sixtyUsers.rows ≠ [] := by
    simp [sixtyUsers]
  have hCount :
      sixtyUsers.rowCount = sixtyUsers.rows.length := by
    simp [sixtyUsers]
  refine ⟨hColumns, hRows, hCount, ?_⟩
  refine
    (markdown_reads_back_iff sixtyUsers "safe" hColumns hRows
      hCount).mpr ⟨by decide, ?_⟩
  intro row hRow
  rw [List.eq_of_mem_replicate (List.mem_of_mem_take hRow)]
  decide

/- A cell with a bar. -/
def barredCell : QueryResult where
  columns := ["x"]
  rows := [[("x", .text "a|b")]]
  rowCount := 1

/- A cell with a bar is written as two cells, and not read
   back. -/
theorem barredCell_not_reads_back :
    barredCell.columns ≠ [] ∧
      barredCell.rows ≠ [] ∧
      barredCell.rowCount = barredCell.rows.length ∧
      barredCell.answer "safe" .markdown =
        "**1 row(s) returned**\n\n| x |\n| --- |\n| a|b |" ∧
      ¬ barredCell.ReadsBack
        (barredCell.answer "safe" .markdown) := by
  have hColumns : barredCell.columns ≠ [] := by
    decide
  have hRows : barredCell.rows ≠ [] := by
    simp [barredCell]
  have hCount :
      barredCell.rowCount = barredCell.rows.length := rfl
  refine ⟨hColumns, hRows, hCount, rfl, ?_⟩
  intro hReads
  have hTabular :=
    isTabular_of_readsBack hColumns hRows hCount hReads
  have hCell : Tabular "a|b" :=
    hTabular.cells [("x", .text "a|b")]
      List.mem_cons_self "a|b" List.mem_cons_self
  exact absurd hCell (by decide)

end QueryResult

end SqlGateway
