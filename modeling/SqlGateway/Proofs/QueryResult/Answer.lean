import SqlGateway.Proofs.Json.Documents
import SqlGateway.QueryResult

/-
  This file shows what the JSON answer to a statement is: a
  document that carries the result and the query mode, so
  long as no number in a cell is infinite or none at all.

  Key definitions include:
    * `QueryResult.isFinite`
    * `QueryResult.isSound`
    * `QueryResult.payload`

  Main declarations:
    * `QueryResult.answer_decodes_iff`
-/

namespace SqlGateway

namespace QueryResult

------------------------------------------------------------
-- Payload
------------------------------------------------------------

/- Every leaf inside every cell has a property. -/
def everyLeaf
    (p : Value → Bool)
    (r : QueryResult) : Bool :=
  r.rows.all fun row =>
    row.all fun cell => cell.2.everyLeaf p

/- All numbers in the cells are finite. -/
def isFinite (r : QueryResult) : Bool :=
  r.everyLeaf Value.isFiniteLeaf

/- All texts in the cells are made of characters and halves
   of pairs. -/
def isSound (r : QueryResult) : Bool :=
  r.everyLeaf Value.isSoundLeaf

/- The number of rows affected, where it is known. -/
def affectedFields (r : QueryResult) : Fields :=
  match r.affectedRows with
  | some n => [("affectedRows", .int n)]
  | none => []

/-
  What an answer carries: the result with each cell as JSON
  carries it, between the mark of success and the query
  mode.
-/
def payload
    (r : QueryResult)
    (mode : String) : Value :=
  .object
    ([("success", .bool true),
      ("columns", .ofTexts r.columns),
      ("rows",
        .list
          (r.rows.map fun row =>
            .object (Value.carriedFields row))),
      ("rowCount", .int r.rowCount)] ++
      (r.affectedFields ++ [("queryMode", .text mode)]))

/- The fields that an answer is written from. -/
def answerFields
    (r : QueryResult)
    (mode : String) : Fields :=
  [("success", .bool true)] ++
    (r.toFields ++ [("queryMode", .text mode)])

/- The fields of an answer have different names, so each has
   its place. -/
theorem answer_eq_document
    (r : QueryResult)
    (mode : String) :
    r.answer mode .json =
      Json.document (.object (r.answerFields mode)) := by
  unfold answer successAnswer answerFields toFields
  cases r.affectedRows with
  | none => simp [Fields.put, Fields.putAll]
  | some n => simp [Fields.put, Fields.putAll]

theorem carried_answerFields
    (r : QueryResult)
    (mode : String) :
    (Value.object (r.answerFields mode)).carried =
      r.payload mode := by
  unfold answerFields toFields payload affectedFields
  cases r.affectedRows with
  | none =>
      simp [Value.carried, Value.carriedFields,
        Value.carriedItems_eq_map, Value.ofTexts]
  | some n =>
      simp [Value.carried, Value.carriedFields,
        Value.carriedItems_eq_map, Value.ofTexts]

/- Besides those in the cells, their leaves are texts, whole
   numbers and a truth value. -/
theorem everyLeaf_answerFields
    {p : Value → Bool}
    (hText : ∀ s, p (.text s) = true)
    (hInt : ∀ i, p (.int i) = true)
    (hBool : ∀ b, p (.bool b) = true)
    (r : QueryResult)
    (mode : String) :
    (Value.object (r.answerFields mode)).everyLeaf p =
      r.everyLeaf p := by
  have hColumns :
      (Value.ofTexts r.columns).everyLeaf p = true := by
    simp [Value.ofTexts, hText]
  have hRows :
      (Value.list (r.rows.map .object)).everyLeaf p =
        r.everyLeaf p := by
    rw [Value.everyLeaf_list, List.all_map]
    exact
      congrArg r.rows.all
        (funext fun row => Value.everyLeaf_object row)
  unfold answerFields toFields
  cases r.affectedRows with
  | none => simp [hColumns, hRows, hText, hInt, hBool]
  | some n => simp [hColumns, hRows, hText, hInt, hBool]

theorem isFinite_answerFields
    (r : QueryResult)
    (mode : String) :
    (Value.object (r.answerFields mode)).isFinite =
      r.isFinite :=
  everyLeaf_answerFields (fun _ => rfl) (fun _ => rfl)
    (fun _ => rfl) r mode

theorem isSound_answerFields
    (r : QueryResult)
    (mode : String) :
    (Value.object (r.answerFields mode)).isSound =
      r.isSound :=
  everyLeaf_answerFields (fun _ => rfl) (fun _ => rfl)
    (fun _ => rfl) r mode

/- What an answer is decoded as has nothing but finite
   numbers behind it. -/
theorem isFinite_of_decodes
    {r : QueryResult}
    (hSound : r.isSound = true)
    {mode : String}
    {v : Value}
    (hDecodes : Json.Decodes (r.answer mode .json).toList v) :
    r.isFinite = true := by
  rw [answer_eq_document] at hDecodes
  rw [← isSound_answerFields r mode] at hSound
  rw [← isFinite_answerFields r mode]
  exact Json.isFinite_of_decodes_document hSound hDecodes

------------------------------------------------------------
-- Answers
------------------------------------------------------------

/-
  The JSON answer is a document if and only if all numbers
  in the cells are finite, and then it stands for the
  payload and nothing else.
-/
theorem answer_decodes_iff
    (r : QueryResult)
    (hSound : r.isSound = true)
    (mode : String)
    (v : Value) :
    Json.Decodes (r.answer mode .json).toList v ↔
      r.isFinite = true ∧ v = r.payload mode := by
  rw [answer_eq_document, ← carried_answerFields,
    ← isFinite_answerFields r mode]
  rw [← isSound_answerFields r mode] at hSound
  exact Json.decodes_document_iff hSound

/- A result with cells of several kinds inside each other. -/
def mixedResult : QueryResult where
  columns := ["id", "data"]
  rows :=
    [[("id", .int (-7)),
      ("data",
        .tuple
          [.decimal (.finite false 150 (-2)),
           .float (Double.ofRatio true 5 2), .null,
           .text "é\n\x22", .list [],
           .object [("half", .raw [.half 0xD83D])]])]]
  rowCount := 1

/- The answer with a tuple and a decimal carries them as a
   list and a text. -/
theorem mixedResult_decodes :
    mixedResult.isSound = true ∧
      Json.Decodes (mixedResult.answer "safe" .json).toList
        (.object
          [("success", .bool true),
           ("columns", .list [.text "id", .text "data"]),
           ("rows",
            .list
              [.object
                [("id", .int (-7)),
                 ("data",
                  .list
                    [.text "1.50",
                     .float (Double.ofRatio true 5 2), .null,
                     .text "é\n\x22", .list [],
                     .object
                       [("half",
                         .raw [.half 0xD83D])]])]]),
           ("rowCount", .int 1),
           ("queryMode", .text "safe")]) :=
  ⟨rfl, (answer_decodes_iff mixedResult rfl "safe" _).mpr
    ⟨by decide, rfl⟩⟩

/- A result with a cell that holds no number. -/
def nanResult : QueryResult where
  columns := ["x"]
  rows := [[("x", .float .nan)]]
  rowCount := 1

/- The answer with a cell that is no number names it, and is
   no document. -/
theorem nanResult_undecodable :
    nanResult.isSound = true ∧
      ¬ ∃ v,
        Json.Decodes (nanResult.answer "safe" .json).toList
          v := by
  refine ⟨rfl, ?_⟩
  rintro ⟨v, hDecodes⟩
  have hFinite := isFinite_of_decodes rfl hDecodes
  have hNot : nanResult.isFinite = false := by decide
  rw [hNot] at hFinite
  cases hFinite

end QueryResult

end SqlGateway
