import SqlGateway.Proofs.Statement.TopClause

/-
  This file shows which statements each engine caps.  Both
  tell a SELECT by its first word as a whole, but only with
  a blank behind that word is there a place for a TOP
  clause; a LIMIT clause needs none.

  Main declarations:
    * `topClause_eq` and `limitClause_eq`
    * `capRows_postgres_ne_iff`
    * `capRows_sqlServer_ne_iff`
    * `engines_cap_alike_iff`
-/

namespace SqlGateway

namespace Statement

open Text

variable {cs : List Char}
variable {n : Int}

theorem signed_eq_toString (n : Int) :
    signed n = (toString n).toList := by
  cases n with
  | ofNat k => exact String.toList_ofList.symm
  | negSucc k =>
      have hText :
          toString (Int.negSucc k) =
            "-" ++ String.ofList (Nat.toDigits 10 (k + 1)) :=
        rfl
      simp only [hText, String.toList_append,
        String.toList_ofList]
      rfl

/- The texts that limit rows, in full. -/
theorem topClause_eq (n : Int) :
    topClause n = ("TOP " ++ toString n ++ " ").toList := by
  rw [String.toList_append, String.toList_append,
    ← signed_eq_toString]
  rfl

theorem limitClause_eq (n : Int) :
    limitClause n = ("\nLIMIT " ++ toString n).toList := by
  rw [String.toList_append, ← signed_eq_toString]
  rfl

/- A statement with a limit of its own is not changed. -/
theorem capRows_of_hasKeyword
    {engine : Engine}
    {k : Keyword}
    (hWord : k ∈ limitWords engine)
    (hLimited : hasKeyword k cs = true)
    (n : Int) :
    capRows engine cs n = cs := by
  by_contra hCapped
  have hUnlimited := isUnlimited_of_capRows_ne hCapped
  have hAny :
      (limitWords engine).any (hasKeyword · cs) = true :=
    List.any_eq_true.mpr ⟨k, hWord, hLimited⟩
  simp [isUnlimited, hAny] at hUnlimited

/- A text with a LIMIT clause at its end has the word
   LIMIT. -/
theorem hasKeyword_limitClause
    (cs : List Char)
    (n : Int) :
    hasKeyword .limit (cs ++ limitClause n) = true := by
  apply hasKeyword_iff.mpr
  refine
    ⟨cs ++ ['\n'], "LIMIT".toList, ' ' :: signed n, ?_, ?_,
      rfl, ?_⟩
  · simp [limitClause]
  · have hBreak : isWordChar '\n' = false := by decide
    simp [endsInWord, hBreak]
  · have hSpace : isWordChar ' ' = false := by decide
    exact hSpace

/- A SELECT without a limit of its own is given the clause
   behind its body. -/
theorem capRows_of_isUnlimited
    (hUnlimited : isUnlimited .postgres cs = true)
    (n : Int) :
    capRows .postgres cs n = limitBody cs ++ limitClause n := by
  unfold capRows rowCap?
  rw [if_pos hUnlimited]

/- For PostgreSQL every SELECT without a limit of its own is
   changed. -/
theorem capRows_postgres_ne_iff
    (hLimit : hasKeyword .limit cs = false) :
    capRows .postgres cs n ≠ cs ↔ isSelect cs = true := by
  constructor
  · intro hCapped
    have hUnlimited := isUnlimited_of_capRows_ne hCapped
    exact (Bool.and_eq_true_iff.mp hUnlimited).1
  · intro hSelect hSame
    have hUnlimited : isUnlimited .postgres cs = true := by
      simp [isUnlimited, limitWords, hSelect, hLimit]
    rw [← hSame, capRows_of_isUnlimited hUnlimited,
      hasKeyword_limitClause] at hLimit
    cases hLimit

/- For SQL Server it is changed if its first word has a blank
   behind it. -/
theorem capRows_sqlServer_ne_iff
    (hTop : hasKeyword .top cs = false)
    (hOffset : hasKeyword .offset cs = false) :
    capRows .sqlServer cs n ≠ cs ↔
      startsWithSpaced .select (trimLeft isBlank cs) =
        true := by
  rw [← topPoint?_isSome_iff]
  constructor
  · intro hCapped
    have hUnlimited := isUnlimited_of_capRows_ne hCapped
    by_contra hPlace
    apply hCapped
    unfold capRows rowCap?
    rw [if_pos hUnlimited,
      Option.not_isSome_iff_eq_none.mp hPlace]
    rfl
  · intro hPlace hSame
    have hSpaced := topPoint?_isSome_iff.mp hPlace
    have hUnlimited : isUnlimited .sqlServer cs = true := by
      simp [isUnlimited, limitWords, hTop, hOffset,
        isSelect_of_spaced hSpaced]
    rcases Option.isSome_iff_exists.mp hPlace with
      ⟨⟨before, body⟩, hPoint⟩
    have hResult := capRows_of_topPoint? hUnlimited hPoint n
    have hLength := congrArg List.length hResult
    rw [hSame, ← append_of_topPoint? hPoint] at hLength
    -- The clause has five characters at least.
    simp only [topClause, List.length_append,
      List.length_cons, List.length_nil] at hLength
    omega

/-
  Of the statements without the words TOP, OFFSET and LIMIT,
  PostgreSQL changes those that open with the word SELECT,
  and SQL Server those that open with it and a blank.  So
  they agree on a statement unless it opens with SELECT and
  goes on with a character that neither belongs to the word
  nor is blank, or ends there.
-/
theorem engines_cap_alike_iff
    (hTop : hasKeyword .top cs = false)
    (hOffset : hasKeyword .offset cs = false)
    (hLimit : hasKeyword .limit cs = false)
    (n : Int) :
    (capRows .postgres cs n ≠ cs ↔ isSelect cs = true) ∧
      (capRows .sqlServer cs n ≠ cs ↔
        startsWithSpaced .select (trimLeft isBlank cs) =
          true) ∧
      ((capRows .postgres cs n ≠ cs ↔
          capRows .sqlServer cs n ≠ cs) ↔
        (isSelect cs = true →
          startsWithSpaced .select (trimLeft isBlank cs) =
            true)) := by
  have hPostgres := capRows_postgres_ne_iff (n := n) hLimit
  have hServer := capRows_sqlServer_ne_iff (n := n) hTop hOffset
  refine ⟨hPostgres, hServer, ?_⟩
  rw [hPostgres, hServer]
  constructor
  · exact Iff.mp
  · intro hBlank
    exact ⟨hBlank, isSelect_of_spaced⟩

/- A SELECT as most are written. -/
def plainSelect : List Char :=
  "SELECT * FROM t".toList

theorem plainSelect_capped_alike :
    (hasKeyword .top plainSelect = false ∧
        hasKeyword .offset plainSelect = false ∧
        hasKeyword .limit plainSelect = false) ∧
      (capRows .postgres plainSelect 50 ≠ plainSelect ↔
        isSelect plainSelect = true) ∧
      (capRows .sqlServer plainSelect 50 ≠ plainSelect ↔
        startsWithSpaced .select
            (trimLeft isBlank plainSelect) =
          true) ∧
      ((capRows .postgres plainSelect 50 ≠ plainSelect ↔
          capRows .sqlServer plainSelect 50 ≠ plainSelect) ↔
        (isSelect plainSelect = true →
          startsWithSpaced .select
              (trimLeft isBlank plainSelect) =
            true)) :=
  ⟨⟨rfl, rfl, rfl⟩, engines_cap_alike_iff rfl rfl rfl 50⟩

/- A SELECT with a star right behind its first word is capped
   for PostgreSQL only. -/
theorem star_select_uncapped :
    let statement := "SELECT*FROM t".toList
    (hasKeyword .top statement = false ∧
        hasKeyword .offset statement = false ∧
        hasKeyword .limit statement = false) ∧
      isSelect statement = true ∧
      capRows .postgres statement 50 ≠ statement ∧
      capRows .sqlServer statement 50 = statement :=
  ⟨⟨rfl, rfl, rfl⟩, rfl, by decide, rfl⟩

end Statement

end SqlGateway
