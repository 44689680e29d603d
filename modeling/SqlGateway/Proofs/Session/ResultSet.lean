import SqlGateway.Proofs.Driver.Run
import SqlGateway.Proofs.Session.Statements
import SqlGateway.Proofs.Value.Fields

/-
  This file shows what becomes of a result set of SQL Server
  on its way to an answer.  Rows are named values, so a name
  that several columns share stands for the last of them.

  Key definitions include:
    * `Session.Delivers`
    * `QueryResult.ofResultSet`
    * `QueryResult.Presents`

  Main declarations:
    * `Session.run_executeQuery_of_delivers`
    * `QueryResult.presents_ofResultSet`
    * `Session.executeQuery_presents`
-/

namespace SqlGateway

------------------------------------------------------------
-- Results
------------------------------------------------------------

namespace QueryResult

/- The result that is made of a result set. -/
def ofResultSet
    (columns : List String)
    (rows : List (List Value)) : QueryResult where
  columns
  rows := rows.map (Fields.ofColumns columns)
  rowCount := rows.length

/-
  A result presents a result set: its columns in their
  order, its number of rows, and for each row and column the
  value at the last position that has the name of the
  column, which is its own if no later one has the name.
  Both answers present the same: the JSON document
  has the rows of the result, and a line of the table has
  the display form of each value.
-/
structure Presents
    (r : QueryResult)
    (columns : List String)
    (rows : List (List Value)) : Prop where
  columns_eq : r.columns = columns
  rowCount_eq : r.rowCount = rows.length
  length_eq : r.rows.length = rows.length
  value :
    ∀ {i j : Nat} {row : List Value} {name : String},
      rows[i]? = some row →
        columns[j]? = some name →
          ∃ k v fields,
            LastPlace columns j k ∧ row[k]? = some v ∧
              r.rows[i]? = some fields ∧
                Fields.get? fields name = some v
  unrepeated :
    ∀ {i j : Nat} {row : List Value} {name : String}
        {v : Value},
      rows[i]? = some row →
        columns[j]? = some name →
          row[j]? = some v →
            (∀ m > j, columns[m]? ≠ some name) →
              ∃ fields,
                r.rows[i]? = some fields ∧
                  Fields.get? fields name = some v
  json :
    ∀ mode : String, ∃ payload : Fields,
      r.answer mode .json =
          Json.document (.object payload) ∧
        payload.get? "columns" = some (.ofTexts columns) ∧
        payload.get? "rows" =
          some (.list (r.rows.map .object)) ∧
        payload.get? "rowCount" = some (.int rows.length)
  markdown :
    columns ≠ [] → rows ≠ [] → ∀ mode : String,
      r.answer mode .markdown =
        String.intercalate "\n" r.tableLines
  line :
    ∀ {i : Nat} {row : List Value},
      rows[i]? = some row →
        i < shownRows →
          ∃ cells,
            r.tableLines[3 + i]? = some (tableLine cells) ∧
              cells.length = columns.length ∧
              ∀ j < columns.length, ∃ k v,
                LastPlace columns j k ∧
                  row[k]? = some v ∧
                  cells[j]? = some v.displayText

variable {columns : List String}
variable {rows : List (List Value)}

/- Each row of a result is made of a row of the result
   set. -/
theorem rows_ofResultSet
    {i : Nat}
    {row : List Value}
    (hRow : rows[i]? = some row) :
    (ofResultSet columns rows).rows[i]? =
      some (.ofColumns columns row) := by
  unfold ofResultSet
  rw [List.getElem?_map, hRow, Option.map_some]

theorem value_ofResultSet
    (hRows : ∀ row ∈ rows, row.length = columns.length)
    {i j : Nat}
    {row : List Value}
    {name : String}
    (hRow : rows[i]? = some row)
    (hName : columns[j]? = some name) :
    ∃ k v,
      LastPlace columns j k ∧ row[k]? = some v ∧
        Fields.get? (.ofColumns columns row) name =
          some v := by
  have hLength : j < columns.length :=
    (List.getElem?_eq_some_iff.mp hName).1
  rcases LastPlace.exists_of_lt hLength with ⟨k, hLast⟩
  have hInside : k < row.length := by
    rw [hRows row (List.mem_of_getElem? hRow)]
    exact hLast.lt_length hLength
  have hValue : row[k]? = some row[k] :=
    List.getElem?_eq_getElem hInside
  exact
    ⟨k, row[k], hLast, hValue,
      Fields.get?_ofColumns hLast hName hValue⟩

/- The cells of a line of the table. -/
theorem rowCells_ofColumns
    (hRows : ∀ row ∈ rows, row.length = columns.length)
    {i j : Nat}
    {row : List Value}
    (hRow : rows[i]? = some row)
    (hLength : j < columns.length) :
    ∃ k v,
      LastPlace columns j k ∧ row[k]? = some v ∧
        (rowCells columns (.ofColumns columns row))[j]? =
          some v.displayText := by
  have hName : columns[j]? = some columns[j] :=
    List.getElem?_eq_getElem hLength
  rcases value_ofResultSet hRows hRow hName with
    ⟨k, v, hLast, hValue, hFound⟩
  refine ⟨k, v, hLast, hValue, ?_⟩
  unfold rowCells
  rw [List.getElem?_map, hName, Option.map_some, hFound]
  rfl

/- The rows that are shown have a line each, after three
   lines at the head of the table. -/
theorem tableLines_getElem?
    {r : QueryResult}
    {i : Nat}
    {fields : Fields}
    (hRow : r.rows[i]? = some fields)
    (hShown : i < shownRows) :
    r.tableLines[3 + i]? =
      some (tableLine (rowCells r.columns fields)) := by
  have hTaken :
      (r.rows.take shownRows)[i]? = some fields := by
    rw [List.getElem?_take_of_lt hShown]
    exact hRow
  have hLine :
      ((r.rows.take shownRows).map fun row =>
          tableLine (rowCells r.columns row))[i]? =
        some (tableLine (rowCells r.columns fields)) := by
    rw [List.getElem?_map, hTaken]
    rfl
  have hInside := (List.getElem?_eq_some_iff.mp hLine).1
  unfold tableLines
  rw [List.append_assoc,
    List.getElem?_append_right (by simp),
    List.getElem?_append_left (by simpa using hInside)]
  simpa using hLine

/- The result that is made of a result set presents it. -/
theorem presents_ofResultSet
    (hRows : ∀ row ∈ rows, row.length = columns.length) :
    (ofResultSet columns rows).Presents columns rows := by
  constructor
  · rfl
  · rfl
  · exact List.length_map _
  · intro i j row name hRow hName
    rcases value_ofResultSet hRows hRow hName with
      ⟨k, v, hLast, hValue, hFound⟩
    exact
      ⟨k, v, .ofColumns columns row, hLast, hValue,
        rows_ofResultSet hRow, hFound⟩
  · intro i j row name v hRow hName hValue hOnly
    rw [← hName] at hOnly
    exact
      ⟨.ofColumns columns row, rows_ofResultSet hRow,
        Fields.get?_ofColumns (.self hOnly) hName hValue⟩
  · intro mode
    exact ⟨_, rfl, rfl, rfl, rfl⟩
  · intro hColumns hSome mode
    have hShown :
        ((ofResultSet columns rows).columns.isEmpty ||
            (ofResultSet columns rows).rows.isEmpty) =
          false := by
      simp [ofResultSet, hColumns, hSome]
    unfold answer markdown
    rw [hShown]
    rfl
  · intro i row hRow hShown
    refine
      ⟨rowCells columns (.ofColumns columns row), ?_, ?_,
        ?_⟩
    · exact tableLines_getElem? (rows_ofResultSet hRow) hShown
    · exact List.length_map _
    · intro j hLength
      exact rowCells_ofColumns hRows hRow hLength

end QueryResult

namespace Session

------------------------------------------------------------
-- Statements
------------------------------------------------------------

/-
  Under a script an open session with SQL Server is handed a
  connection, which can be pointed at its database if it was
  switched, and the next statement is answered by a reply
  that can be fetched.
-/
structure Delivers
    (s : Session)
    (script : Script)
    (reply : Reply) : Prop where
  engine_eq : s.engine = .sqlServer
  connected : s.connected = true
  acquires :
    ∃ pool, s.pool = some pool ∧
      script.acquireError pool = none
  unswitched : s.switched = false → script.reply = reply
  switched :
    s.switched = true →
      (∃ statement,
          useStatement s.database.displayText =
            .ok statement) ∧
        script.reply.error = none ∧
        script.played.reply = reply
  error : reply.error = none
  fetchError : reply.fetchError = none

variable {s : Session}
variable {w : World}
variable {reply : Reply}

/- Then a connection is taken, and the reply comes next. -/
theorem takeConnection_of_delivers
    (hDelivers : s.Delivers w.script reply) :
    ∃ w', takeConnection.run s w = ⟨.ok (), s, w'⟩ ∧
      w'.script.reply = reply := by
  rcases hDelivers.acquires with ⟨pool, hPool, hAcquire⟩
  have hTaken :
      (Driver.acquire s.engine pool).run s w =
        ⟨.ok (), s, w.emitted (.acquire s.engine pool)⟩ := by
    rw [Driver.run_acquire, hAcquire]
  have hOut :
      takeConnection.run s w =
        repoint.run s
          (w.emitted (.acquire s.engine pool)) := by
    simp only [takeConnection, Act.run_state_bind]
    rw [run_poolNumber_bind hPool,
      Act.run_bind_of_ok (by rw [hTaken]), hTaken]
  rw [hOut]
  by_cases hSwitched : s.switched = true
  · rcases hDelivers.switched hSwitched with
      ⟨⟨statement, hUse⟩, hError, hReply⟩
    have hUsed :
        (Driver.execute statement (some [])).run s
            (w.emitted (.acquire s.engine pool)) =
          ⟨.ok w.script.reply, s,
            (w.emitted (.acquire s.engine pool)).executed
              statement (some [])⟩ := by
      rw [Driver.run_execute, World.emitted_script, hError]
    refine
      ⟨(w.emitted (.acquire s.engine pool)).executed
        statement (some []), ?_, hReply⟩
    simp only [repoint, Act.run_state_bind, hSwitched,
      if_true, hUse, Act.run_ofExcept_ok_bind,
      Act.run_discard, hUsed]
    rfl
  · have hNot : s.switched = false := by
      simpa using hSwitched
    refine
      ⟨w.emitted (.acquire s.engine pool), ?_,
        hDelivers.unswitched hNot⟩
    simp [repoint, hNot]

theorem sendStatement_of_delivers
    {columns : List String}
    (hDelivers : s.Delivers w.script reply)
    (hColumns : reply.columns = some columns)
    (statement : String) :
    ((sendStatement .sqlServer statement).run s w).result =
      .ok (.ofResultSet columns reply.rows) := by
  rcases takeConnection_of_delivers hDelivers with
    ⟨w', hTaken, hReply⟩
  have hSent :
      (Driver.execute statement
          (sentParameters .sqlServer [])).run s w' =
        ⟨.ok reply, s,
          w'.executed statement
            (sentParameters .sqlServer [])⟩ := by
    rw [Driver.run_execute, hReply, hDelivers.error]
  have hFetched :
      ((Driver.fetchAll .sqlServer reply).run s
          (w'.executed statement
            (sentParameters .sqlServer []))).result =
        .ok (reply.rows.map (Fields.ofColumns columns)) := by
    rw [Driver.run_fetchAll hColumns hDelivers.fetchError]
  unfold sendStatement
  rw [Act.run_bind_of_ok (by rw [hTaken]), hTaken,
    Act.run_bind_of_ok (by rw [hSent]), hSent]
  unfold resultOf
  rw [hColumns, Act.run_bind_of_ok hFetched]
  simp [QueryResult.ofResultSet]

/- Any statement can be capped at a whole number. -/
theorem exists_cappedStatement
    (engine : Engine)
    (sql : String)
    (limit : Int) :
    ∃ statement,
      cappedStatement engine sql (.int limit) =
        .ok statement := by
  unfold cappedStatement
  cases Statement.rowCap? engine sql.toList with
  | none => exact ⟨sql, rfl⟩
  | some cap => exact ⟨_, rfl⟩

/- Executing a statement gives the result set that the
   driver delivers for it. -/
theorem run_executeQuery_of_delivers
    {columns : List String}
    (hDelivers : s.Delivers w.script reply)
    (hColumns : reply.columns = some columns)
    (sql : String)
    (limit : Int) :
    ((executeQuery sql (.int limit)).run s w).result =
      .ok (.ofResultSet columns reply.rows) := by
  rcases exists_cappedStatement s.engine sql limit with
    ⟨statement, hCapped⟩
  rcases run_executeQuery hDelivers.connected hCapped w with
    ⟨logs, hOut⟩
  have hLogged :
      s.Delivers { w with logs }.script reply :=
    hDelivers
  rw [hOut, Act.run_wrapping, hDelivers.engine_eq,
    sendStatement_of_delivers hLogged hColumns]
  rfl

/-
  Executing a statement presents the result set that the
  driver delivers for it: under the name of each column the
  value at the last position that has the name.
-/
theorem executeQuery_presents
    {columns : List String}
    (hDelivers : s.Delivers w.script reply)
    (hColumns : reply.columns = some columns)
    (hRows :
      ∀ row ∈ reply.rows, row.length = columns.length)
    (sql : String)
    (limit : Int) :
    ∃ r,
      ((executeQuery sql (.int limit)).run s w).result =
          .ok r ∧
        r.Presents columns reply.rows :=
  ⟨.ofResultSet columns reply.rows,
    run_executeQuery_of_delivers hDelivers hColumns sql limit,
    QueryResult.presents_ofResultSet hRows⟩

/- A session that is open on a pool. -/
def openOnPool : Session where
  engine := .sqlServer
  settings := .unset
  pool := some 1
  connected := true
  database := .text "master"

/- The reply to a join of two tables that both have an
   identifier. -/
def joinReply : Reply where
  columns := some ["id", "name", "id"]
  rows := [[.int 1, .text "a", .int 2]]

/- The world before it. -/
def joinWorld : World where
  script := { replies := [joinReply] }

/- The session is handed this reply. -/
theorem openOnPool_delivers :
    openOnPool.Delivers joinWorld.script joinReply where
  engine_eq := rfl
  connected := rfl
  acquires := ⟨1, rfl, rfl⟩
  unswitched _ := rfl
  switched hSwitched := by cases hSwitched
  error := rfl
  fetchError := rfl

/- The result of the join has three columns and presents the
   second identifier under both. -/
theorem join_presents_last_identifier :
    let statement := "SELECT * FROM a JOIN b ON a.id = b.a_id"
    (openOnPool.Delivers joinWorld.script joinReply ∧
        joinReply.columns = some ["id", "name", "id"] ∧
        ∀ row ∈ joinReply.rows,
          row.length = ["id", "name", "id"].length) ∧
      ∃ r,
        ((executeQuery statement (.int 100)).run openOnPool
              joinWorld).result =
            .ok r ∧
          r.Presents ["id", "name", "id"] joinReply.rows :=
  have hRows : ∀ row ∈ joinReply.rows,
      row.length = ["id", "name", "id"].length := by
    simp [joinReply]
  ⟨⟨openOnPool_delivers, rfl, hRows⟩,
    executeQuery_presents openOnPool_delivers rfl hRows _ 100⟩

/- A result that loses nothing has each value of a row under
   the name of its column. -/
def LosesNothing
    (columns : List String)
    (rows : List (List Value))
    (r : QueryResult) : Prop :=
  ∀ (i j : Nat) (row : List Value) (name : String)
      (v : Value),
    rows[i]? = some row →
      columns[j]? = some name →
        row[j]? = some v →
          ∃ fields,
            r.rows[i]? = some fields ∧
              Fields.get? fields name = some v

/- The result of the join is not of this kind: it is without
   the first identifier. -/
theorem join_loses_first_identifier :
    ∃ r,
      ((executeQuery "SELECT * FROM a JOIN b ON a.id = b.a_id"
            (.int 100)).run openOnPool joinWorld).result =
          .ok r ∧
        ¬ LosesNothing ["id", "name", "id"] joinReply.rows
          r := by
  refine
    ⟨.ofResultSet ["id", "name", "id"] joinReply.rows,
      run_executeQuery_of_delivers openOnPool_delivers rfl _
        100, ?_⟩
  intro hKept
  rcases hKept 0 0 [.int 1, .text "a", .int 2] "id" (.int 1)
      rfl rfl rfl with
    ⟨fields, hFields, hFound⟩
  have hSecond :
      Fields.get? fields "id" = some (.int 2) := by
    cases hFields
    rfl
  rw [hSecond] at hFound
  cases hFound

end Session

end SqlGateway
